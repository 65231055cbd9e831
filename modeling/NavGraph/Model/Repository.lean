/-!
# Repositories and their entries

## Main definitions

* `Repository` - a branch of a hosted repository
* `Entry` - a file or directory in a listing of it
-/

namespace NavGraph

/-- A branch of a hosted repository. -/
structure Repository where
  url : String
  owner : String
  name : String
  branch : String
  deriving DecidableEq, Repr

/-- What an entry of a listing is. -/
inductive EntryKind where
  | file
  | directory
  deriving DecidableEq, Repr

namespace EntryKind

/-- The written name. -/
def name : EntryKind → String
  | file => "file"
  | directory => "directory"

/-- The kind with a written name. -/
def ofName? : String → Option EntryKind
  | "file" => some file
  | "directory" => some directory
  | _ => none

@[simp] theorem ofName?_name (k : EntryKind) : ofName? k.name = some k := by cases k <;> rfl

end EntryKind

/-- A file or directory in a listing. -/
structure Entry where
  name : String
  path : String
  kind : EntryKind
  /-- Where the content of a file is; absent for directories. -/
  location : Option String
  deriving DecidableEq, Repr

end NavGraph

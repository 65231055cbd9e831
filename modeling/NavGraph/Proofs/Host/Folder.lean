import NavGraph.Host.Client
import NavGraph.Proofs.Model.Document

/-!
# Repository trees

The files and directories of a repository as a finite ordered tree, and the listings that a host
gives of it.

## Main definitions

* `Folder` - what is in a directory, in order
* `Leaf`, `Folder.leaves` - files at their places, depth first
* `Folder.IsListing` - JSON items that tell what is in a directory

## Main statements

* `entriesOf_of_isListing` - a client understands such a listing

## Design notes

A folder is either empty, or a first entry and a folder with the entries behind it.  One induction
over a folder is then an induction over the entries of all its directories, in the order in which
they are listed.

A place in the tree is the list of names that leads to it.  The paths that a host and a client talk
about are made from it by `pathOf` and never taken apart again, which is why two directories of one
name are not excluded: a host cannot serve both unless they are the same.
-/

namespace NavGraph

/-- What is in a directory, in order. -/
inductive Folder where
  | empty
  /-- A file, perhaps with an address to read it from, and what follows it. -/
  | file (name text : String) (location : Option String) (rest : Folder)
  /-- A directory, and what follows it. -/
  | directory (name : String) (below rest : Folder)

/-- The path to a place in a tree. -/
def pathOf (steps : List String) : String := "/".intercalate steps

/-- A file at its place in a tree. -/
structure Leaf where
  /-- The directories on the way to it, the outermost first. -/
  trail : List String
  name : String
  text : String
  location : Option String

/-- The path of a file. -/
def Leaf.path (l : Leaf) : String := pathOf (l.trail ++ [l.name])

namespace Folder

/-- The files in a directory and below it, depth first and in order. -/
def leaves (trail : List String) : Folder → List Leaf
  | empty => []
  | file name text location rest => ⟨trail, name, text, location⟩ :: rest.leaves trail
  | directory name below rest => below.leaves (trail ++ [name]) ++ rest.leaves trail

/-- The entries of a directory. -/
def entries (trail : List String) : Folder → List Entry
  | empty => []
  | file name _ location rest =>
      ⟨name, pathOf (trail ++ [name]), .file, location⟩ :: rest.entries trail
  | directory name _ rest =>
      ⟨name, pathOf (trail ++ [name]), .directory, none⟩ :: rest.entries trail

/-- Files below a directory are found on a way through it. -/
theorem trail_prefix_of_mem_leaves {root : Folder} {trail : List String} {l : Leaf}
    (h : l ∈ root.leaves trail) : trail <+: l.trail := by
  induction root generalizing trail with
  | empty => cases h
  | file name text location rest ih =>
    obtain rfl | h := List.mem_cons.1 h
    · exact List.prefix_rfl
    · exact ih h
  | directory name below rest ihbelow ihrest =>
    obtain h | h := List.mem_append.1 h
    · exact (List.prefix_append trail [name]).trans (ihbelow h)
    · exact ihrest h

end Folder

/-! ### Listings -/

/-- Fields that tell the name and the path of an entry. -/
structure TellsPlace (trail : List String) (name : String) (fields : List (String × Json)) :
    Prop where
  nonempty : name ≠ ""
  name_eq : fields.lookup "name" = some (.string name)
  path_eq : fields.lookup "path" = some (.string (pathOf (trail ++ [name])))

/-- Items that tell what is in a directory.  What is no directory counts as a file, and a file
without an address may have no field for it. -/
inductive Folder.IsListing (trail : List String) : Folder → List Json → Prop where
  | empty : IsListing trail .empty []
  | file {name text : String} {location : Option String} {rest : Folder}
      {fields : List (String × Json)} {items : List Json} (place : TellsPlace trail name fields)
      (type_ne : fields.lookup "type" ≠ some (.string "dir"))
      (location_eq : (fields.lookup "download_url").getD .null = .ofOption location)
      (others : IsListing trail rest items) :
      IsListing trail (.file name text location rest) (.object fields :: items)
  | directory {name : String} {below rest : Folder} {fields : List (String × Json)}
      {items : List Json} (place : TellsPlace trail name fields)
      (type_eq : fields.lookup "type" = some (.string "dir"))
      (others : IsListing trail rest items) :
      IsListing trail (.directory name below rest) (.object fields :: items)

namespace Client

variable {trail : List String} {name : String} {fields : List (String × Json)}

theorem isTruthy_name (h : TellsPlace trail name fields) : (Json.string name).isTruthy = true := by
  simp only [Json.isTruthy, Bool.not_eq_true', String.isEmpty_eq_false_iff]
  exact h.nonempty

theorem entryOfFields_directory (h : TellsPlace trail name fields)
    (htype : fields.lookup "type" = some (.string "dir")) :
    entryOfFields (.string (pathOf (trail ++ [name]))) fields =
      .ok ⟨name, pathOf (trail ++ [name]), .directory, none⟩ := by
  unfold entryOfFields
  simp only [htype, h.name_eq, Option.getD_some, isTruthy_name h, if_true]
  rfl

theorem entryOfFields_file (h : TellsPlace trail name fields) {location : Option String}
    (htype : fields.lookup "type" ≠ some (.string "dir"))
    (hlocation : (fields.lookup "download_url").getD .null = .ofOption location) :
    entryOfFields (.string (pathOf (trail ++ [name]))) fields =
      .ok ⟨name, pathOf (trail ++ [name]), .file, location⟩ := by
  unfold entryOfFields
  simp only [h.name_eq, Option.getD_some, isTruthy_name h, if_true, hlocation]
  -- What is left to read is the written form of the entry.
  have hread := Entry.ofJson_toJson ⟨name, pathOf (trail ++ [name]), .file, location⟩
  simp only [Entry.toJson, EntryKind.name] at hread
  simp only [Bool.false_eq_true, if_false, EntryKind.name, hread]

/-- **A client understands the listing of a directory.** -/
theorem entriesOf_of_isListing {folder : Folder} {items : List Json}
    (h : folder.IsListing trail items) : entriesOf items = .ok (folder.entries trail) := by
  induction h with
  | empty => rfl
  | file place htype hlocation _ ih =>
    rw [entriesOf, place.path_eq]
    dsimp only
    rw [entryOfFields_file place htype hlocation, ih]
    rfl
  | directory place htype _ ih =>
    rw [entriesOf, place.path_eq]
    dsimp only
    rw [entryOfFields_directory place htype, ih]
    rfl

end Client

end NavGraph

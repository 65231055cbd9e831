import NavGraph.Assoc

/-!
# JSON values

The one dynamic type of the library: what a host answers with, what a settings file or a request
body holds, and what a result is written as.

## Main definitions

* `Json` - values; whole numbers have any size, other numbers are floats
* `Json.field?` - look up a field of an object

## Design notes

Fields are kept in the order in which they were written; a field that is written twice keeps its
first place and takes its last value, as `Assoc.put` does.
-/

namespace NavGraph

/-- A JSON value. -/
inductive Json where
  | null
  | bool (b : Bool)
  | int (n : Int)
  | float (x : Float)
  | string (s : String)
  | array (items : List Json)
  | object (fields : List (String × Json))
  deriving Inhabited

namespace Json

/-- The value of a field of an object. -/
def field? (v : Json) (name : String) : Option Json :=
  match v with
  | object fields => fields.lookup name
  | _ => none

/-- A text or null. -/
def ofOption : Option String → Json
  | none => null
  | some s => string s

/-- A list of texts. -/
def ofStrings (texts : List String) : Json := array (texts.map string)

/-- Whether a value counts as present where an absent one has a default: everything but null,
`false`, zero and what is empty. -/
def isTruthy : Json → Bool
  | null => false
  | bool b => b
  | int n => n != 0
  | float x => !(x == 0.0)
  | string s => !s.isEmpty
  | array items => !items.isEmpty
  | object fields => !fields.isEmpty

@[simp] theorem field?_object (fields : List (String × Json)) (name : String) :
    (object fields).field? name = fields.lookup name := rfl

end Json

end NavGraph

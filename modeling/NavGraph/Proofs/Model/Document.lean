import NavGraph.Model.Document
import NavGraph.Proofs.Time.Timestamp

/-!
# Models read back

Every model is the reading of its own written form.  A field that is written is found, whether or
not it has a default, and what it holds reads back because the parts of the model do.

## Main statements

* `listOf_map` - a list reads back if its items do
* `ofJson_toJson` of `Repository`, `Entry`, `Connection`, `Metadata`, `Node`, `RouteEntry`,
  `Journey` and `Analysis`
-/

namespace NavGraph

open Schema

namespace Schema

variable {α : Type} {read : Json → Reading α} {write : α → Json}

theorem itemsFrom_map (h : ∀ a, read (write a) = .ok a) (i : Nat) (as : List α) :
    itemsFrom read i (as.map write) = .ok as := by
  induction as generalizing i with
  | nil => rfl
  | cons a as ih =>
    rw [List.map_cons, itemsFrom, h, ih]
    rfl

/-- **A list reads back** if its items do. -/
theorem listOf_map (h : ∀ a, read (write a) = .ok a) (as : List α) :
    listOf read (.array (as.map write)) = .ok as :=
  itemsFrom_map h 0 as

@[simp] theorem listOf_ofStrings (texts : List String) :
    listOf text (.ofStrings texts) = .ok texts := by
  have hread : ∀ s, text (Json.string s) = .ok s := fun _ => rfl
  exact listOf_map hread texts

@[simp] theorem text_string (s : String) : text (.string s) = .ok s := rfl

@[simp] theorem boolean_bool (b : Bool) : boolean (.bool b) = .ok b := rfl

@[simp] theorem integer_int (n : Int) : integer (.int n) = .ok n := rfl

@[simp] theorem choice_string {table : String → Option α} {s : String} {a : α}
    (h : table s = some a) : choice table (.string s) = .ok a := by
  rw [choice, h]

@[simp] theorem time_fieldText (t : Time.Timestamp) : time (.string t.fieldText) = .ok t := by
  rw [time, t.ofText?_fieldText]

@[simp] theorem orNull_ofOption (s? : Option String) : orNull text (.ofOption s?) = .ok s? :=
  orNull_text_eq_ok_iff.2 rfl

@[simp] theorem orNull_listOrNull (texts? : Option (List String)) :
    orNull (listOf text) (RouteEntry.listOrNull texts?) = .ok texts? := by
  cases texts? with
  | none => rfl
  | some texts => exact congrArg (Reading.map some) (listOf_ofStrings texts)

variable {name key : String} {v : Json} {fields : Fields}

@[simp] theorem required_cons_self :
    required name read ((name, v) :: fields) = Reading.within (.field name) (read v) := by
  rw [required, List.lookup_cons_self]

@[simp] theorem required_cons_of_ne (h : name ≠ key) :
    required name read ((key, v) :: fields) = required name read fields := by
  rw [required, List.lookup_cons, beq_false_of_ne h, required]

@[simp] theorem withDefault_cons_self {default : α} :
    withDefault name default read ((name, v) :: fields) =
      Reading.within (.field name) (read v) := by
  rw [withDefault, List.lookup_cons_self]

@[simp] theorem withDefault_cons_of_ne {default : α} (h : name ≠ key) :
    withDefault name default read ((key, v) :: fields) = withDefault name default read fields := by
  rw [withDefault, List.lookup_cons, beq_false_of_ne h, withDefault]

end Schema

@[simp] theorem Repository.ofJson_toJson (r : Repository) : ofJson r.toJson = .ok r := by
  simp [ofJson, toJson, object]

@[simp] theorem Entry.ofJson_toJson (e : Entry) : ofJson e.toJson = .ok e := by
  simp [ofJson, toJson, object]

@[simp] theorem Connection.ofJson_toJson (c : Connection) : ofJson c.toJson = .ok c := by
  simp [ofJson, toJson, object]

@[simp] theorem Metadata.ofJson_toJson (m : Metadata) : ofJson m.toJson = .ok m := by
  simp [ofJson, toJson, object]

@[simp] theorem Node.ofJson_toJson (n : Node) : ofJson n.toJson = .ok n := by
  have hconnections := listOf_map Connection.ofJson_toJson n.connections
  simp [ofJson, toJson, object, hconnections]

@[simp] theorem RouteEntry.ofJson_toJson (r : RouteEntry) : ofJson r.toJson = .ok r := by
  simp [ofJson, toJson, object]

@[simp] theorem Journey.ofJson_toJson (j : Journey) : ofJson j.toJson = .ok j := by
  have hsteps := listOf_map Node.ofJson_toJson j.steps
  simp [ofJson, toJson, object, hsteps]

/-- **A result reads back**, with all its nodes, routes and journeys and its time. -/
@[simp] theorem Analysis.ofJson_toJson (a : Analysis) : ofJson a.toJson = .ok a := by
  have hnodes := listOf_map Node.ofJson_toJson a.nodes
  have hroutes := listOf_map RouteEntry.ofJson_toJson a.routes
  have hjourneys := listOf_map Journey.ofJson_toJson a.journeys
  simp [ofJson, toJson, object, hnodes, hroutes, hjourneys]

end NavGraph

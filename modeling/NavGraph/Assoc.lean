/-!
# Association lists in order of insertion

A table that answers show in the order in which its keys came is an association list.  Putting a
value under a key that is there replaces the value and keeps the place.

## Main definitions

* `Assoc.put` - put a value under a key
* `Assoc.ofList` - the table of a list of pairs, later ones winning

## Main statements

* `lookup_put` - what is found after a value was put
-/

namespace NavGraph.Assoc

variable {κ α : Type} [DecidableEq κ]

/-- Put a value under a key: in place if the key is there, else at the end. -/
def put (key : κ) (value : α) : List (κ × α) → List (κ × α)
  | [] => [(key, value)]
  | (k, v) :: rest => if k = key then (k, value) :: rest else (k, v) :: put key value rest

/-- The table of a list of pairs: keys in order of first appearance, each with its last value. -/
def ofList (pairs : List (κ × α)) : List (κ × α) :=
  pairs.foldl (fun table p => put p.1 p.2 table) []

@[simp] theorem put_nil (key : κ) (value : α) : put key value [] = [(key, value)] := rfl

theorem lookup_put (key k : κ) (value : α) (table : List (κ × α)) :
    (put key value table).lookup k = if k = key then some value else table.lookup k := by
  induction table with
  | nil =>
      by_cases h : k = key
      · simp [h]
      · simp [List.lookup_cons, h, beq_false_of_ne h]
  | cons p rest ih =>
      obtain ⟨k', v⟩ := p
      rw [put]
      by_cases hk : k' = key
      · subst hk
        by_cases h : k = k'
        · simp [h]
        · simp [List.lookup_cons, h, beq_false_of_ne h]
      · rw [if_neg hk, List.lookup_cons, List.lookup_cons, ih]
        by_cases h : k = k'
        · subst h; simp [hk]
        · simp [beq_false_of_ne h]

end NavGraph.Assoc

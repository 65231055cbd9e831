import Mathlib.Data.List.Basic
import NavGraph.Assoc

/-!
# Lookups in association lists

What is found in an association list with distinct keys, after pairs were filtered out of it, put
into it, or taken for it from sources that may have nothing.

## Main statements

* `put_of_notMem` - a value under a new key is put at the end
* `lookup_filter` - what is found among the pairs that pass a test
* `lookup_foldl_put_or` - what is found after pairs were put into a table
* `lookup_filterMap` - what is found among the pairs that come from sources
-/

namespace NavGraph

namespace Assoc

variable {κ α : Type} [DecidableEq κ] {key : κ} {table : List (κ × α)}

theorem lookup_eq_none_of_notMem {pairs : List (κ × α)} (h : key ∉ pairs.map Prod.fst) :
    pairs.lookup key = none := by
  rw [List.lookup_eq_none_iff]
  intro pair hpair
  have hne : key ≠ pair.1 := fun heq => h (heq ▸ List.mem_map_of_mem hpair)
  simpa using hne

/-- A value under a new key is put at the end. -/
theorem put_of_notMem {a : α} (h : key ∉ table.map Prod.fst) :
    put key a table = table ++ [(key, a)] := by
  induction table with
  | nil => rfl
  | cons pair rest ih =>
    rw [List.map_cons, List.mem_cons, not_or] at h
    rw [put, if_neg (Ne.symm h.1), ih h.2, List.cons_append]

/-- Under distinct keys the pairs that pass a test are found where they were, and no others. -/
theorem lookup_filter {pairs : List (κ × α)} (hnodup : (pairs.map Prod.fst).Nodup) (p : α → Bool) :
    (pairs.filter fun pair => p pair.2).lookup key = (pairs.lookup key).filter p := by
  induction pairs with
  | nil => rfl
  | cons pair rest ih =>
    obtain ⟨k, a⟩ := pair
    rw [List.map_cons, List.nodup_cons] at hnodup
    obtain ⟨hnew, hrest⟩ := hnodup
    by_cases hkey : key = k
    · subst hkey
      have hnone : (rest.filter fun pair => p pair.2).lookup key = none :=
        lookup_eq_none_of_notMem fun hmem => hnew ((List.filter_sublist.map _).subset hmem)
      cases ha : p a with
      | true => simp [ha, Option.filter]
      | false => simp [ha, hnone, Option.filter]
    · have hne : (key == k) = false := beq_false_of_ne hkey
      rw [List.lookup_cons, hne, ← ih hrest, List.filter_cons]
      dsimp only
      split
      · rw [List.lookup_cons, hne]
      · rfl

/-- Pairs with distinct keys that are put into a table are found before what was there. -/
theorem lookup_foldl_put_or {pairs : List (κ × α)} (hnodup : (pairs.map Prod.fst).Nodup) :
    (pairs.foldl (fun table pair => put pair.1 pair.2 table) table).lookup key =
      (pairs.lookup key).or (table.lookup key) := by
  induction pairs generalizing table with
  | nil => rfl
  | cons pair rest ih =>
    rw [List.map_cons, List.nodup_cons] at hnodup
    obtain ⟨hnew, hrest⟩ := hnodup
    rw [List.foldl_cons, ih hrest, lookup_put, List.lookup_cons]
    by_cases hkey : key = pair.1
    · subst hkey
      simp [lookup_eq_none_of_notMem hnew]
    · rw [if_neg hkey, beq_false_of_ne hkey]

/-- The pairs that a list of keys, each under a source of its own, takes from the sources: a key is
found by what its source has. -/
theorem lookup_filterMap {σ : Type} {entries : List (σ × κ)} (value? : σ → Option α)
    (hnodup : (entries.map Prod.snd).Nodup) :
    (entries.filterMap fun entry => (value? entry.1).map (entry.2, ·)).lookup key =
      (entries.find? (·.2 = key)).bind fun entry => value? entry.1 := by
  induction entries with
  | nil => rfl
  | cons entry rest ih =>
    obtain ⟨source, k⟩ := entry
    rw [List.map_cons, List.nodup_cons] at hnodup
    obtain ⟨hnew, hrest⟩ := hnodup
    by_cases hkey : k = key
    · subst hkey
      have hnone :
          (rest.filterMap fun entry => (value? entry.1).map (entry.2, ·)).lookup k = none := by
        refine lookup_eq_none_of_notMem fun hmem => hnew ?_
        obtain ⟨pair, hpair, hk⟩ := List.mem_map.1 hmem
        obtain ⟨entry, hentry, hvalue⟩ := List.mem_filterMap.1 hpair
        obtain ⟨a, -, rfl⟩ := Option.map_eq_some_iff.1 hvalue
        exact List.mem_map.2 ⟨entry, hentry, hk⟩
      cases hvalue : value? source with
      | none => simp [hvalue, hnone]
      | some a => simp [hvalue]
    · have hne : (key == k) = false := beq_false_of_ne (Ne.symm hkey)
      rw [List.find?_cons_of_neg (by simpa using hkey), ← ih hrest]
      cases hvalue : value? source with
      | none => simp [hvalue]
      | some a => simp [hvalue, List.lookup_cons, hne]

end Assoc

end NavGraph

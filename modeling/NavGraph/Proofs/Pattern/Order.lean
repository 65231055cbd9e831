import NavGraph.Proofs.Pattern.Capture

/-!
# The order of matches

Matches in a text stand one behind the other: each begins no earlier than where the one before
ended, and farther on than where it began, even if a match takes no character.

## Main statements

* `pairwise_findAll` - of two matches the later one begins behind the earlier one
* `exists_place_of_mem_findAll` - the place of the text at which a match begins
-/

namespace NavGraph

/-- What leads on from a place of a text leads to a place of it. -/
theorem Place.Reaches.drop_eq {text taken : List Char} {p q : Place} (h : p.Reaches q taken)
    (hp : text.drop p.position = p.rest) : text.drop q.position = q.rest := by
  rw [h.position_eq, ← List.drop_drop, hp, h.rest_eq, List.drop_left]

namespace Pattern

variable {pattern : Pattern} {text : List Char} {m : Match}

/-- The search goes on from its place, and no match begins before the end of the last one. -/
theorem start_le_of_mem_findAllFrom {before : Option Char} {position start : Nat}
    (h : m ∈ findAllFrom pattern before position start text) :
    start ≤ m.start ∧ position ≤ m.start := by
  induction text generalizing before position start with
  | nil =>
    rw [findAllFrom] at h
    split at h
    · rename_i hstart
      obtain ⟨w, -, rfl⟩ := Option.map_eq_some_iff.1 (Option.mem_toList.1 h)
      exact ⟨hstart, Nat.le_refl _⟩
    · cases h
  | cons c rest ih =>
    have hlater : ∀ {start'}, start ≤ start' →
        m ∈ findAllFrom pattern (some c) (position + 1) start' rest →
          start ≤ m.start ∧ position ≤ m.start := by
      intro start' hstart h
      obtain ⟨hstart', hposition⟩ := ih h
      exact ⟨Nat.le_trans hstart hstart', Nat.le_of_succ_le hposition⟩
    rw [findAllFrom] at h
    split at h
    · rename_i hstart
      split at h
      · rename_i found hfound
        obtain ⟨w, -, rfl⟩ := Option.map_eq_some_iff.1 hfound
        obtain rfl | h := List.mem_cons.1 h
        · exact ⟨hstart, Nat.le_refl _⟩
        · refine hlater ?_ h
          exact Nat.le_trans hstart (Nat.le_trans (Nat.le_succ _) (Nat.le_max_right _ _))
      · exact hlater (Nat.le_refl _) h
    · exact hlater (Nat.le_refl _) h

theorem pairwise_findAllFrom (before : Option Char) (position start : Nat) :
    (findAllFrom pattern before position start text).Pairwise
      fun m n => m.stop ≤ n.start ∧ m.start < n.start := by
  induction text generalizing before position start with
  | nil =>
    rw [findAllFrom]
    split
    · cases pattern.at? ⟨before, position, []⟩ <;> simp
    · exact .nil
  | cons c rest ih =>
    rw [findAllFrom]
    split
    · split
      · rename_i found hfound
        refine .cons (fun n hn => ?_) (ih _ _ _)
        obtain ⟨hstop, hposition⟩ := start_le_of_mem_findAllFrom hn
        obtain ⟨w, -, rfl⟩ := Option.map_eq_some_iff.1 hfound
        exact ⟨Nat.le_trans (Nat.le_max_left _ _) hstop, hposition⟩
      · exact ih _ _ _
    · exact ih _ _ _

/-- **Matches stand one behind the other.** -/
theorem pairwise_findAll : (findAll pattern text).Pairwise
    fun m n => m.stop ≤ n.start ∧ m.start < n.start :=
  pairwise_findAllFrom none 0 0

/-- **A match begins at a place of the text**, and is a way of matching there. -/
theorem exists_place_of_mem_findAll (hm : m ∈ findAll pattern text) :
    ∃ p, text.drop p.position = p.rest ∧
      ∃ w ∈ ways pattern p [], m = ⟨p.position, w.1.position, w.2⟩ := by
  obtain ⟨p, passed, hreaches, hw⟩ := exists_way_of_mem_findAll hm
  exact ⟨p, hreaches.drop_eq rfl, hw⟩

end Pattern

end NavGraph

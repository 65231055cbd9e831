import NavGraph.Proofs.Pattern.Extent
import NavGraph.Proofs.Pattern.Language
import NavGraph.Proofs.Pattern.Moving
import NavGraph.Proofs.Text.Trim

/-!
# The first match

A search for the first match passes over what begins no match.  A pattern that begins with the
shortest run of any characters is such a search: it ends where the first match of its other parts
does, however far away that is.

## Main statements

* `findFrom?_append` - what a search passes over
* `exists_at?_of_findFrom?`, `findFrom?_eq_none_iff` - what is found is a match, and nothing is
  found if there is none
* `at?_after_of_avoids`, `findFrom?_append_cons` - no match reaches over a character that the
  pattern avoids, so that a search starts anew behind it
* `run_few` - the shortest run of any characters is a search
-/

namespace NavGraph

namespace Pattern

variable {pattern : Pattern} {p : Place} {cs : Captures} {before : Option Char} {position : Nat}
  {passed rest text : List Char} {m : Match}

/-! ### Searching -/

/-- **A search passes over a text** if no match begins in it. -/
theorem findFrom?_append (p : Place) (h : ∀ front back, passed = front ++ back → back ≠ [] →
      pattern.at? (p.after front (back ++ rest)) = none) :
    findFrom? pattern p.before p.position (passed ++ rest) =
      findFrom? pattern (p.after passed rest).before (p.after passed rest).position rest := by
  induction passed generalizing p with
  | nil => rfl
  | cons c passed ih =>
    have hfirst : pattern.at? ⟨p.before, p.position, c :: (passed ++ rest)⟩ = none :=
      h [] (c :: passed) rfl (List.cons_ne_nil c passed)
    rw [List.cons_append, findFrom?, hfirst, ← Place.step_after]
    refine ih (p.step c rest) fun front back hsplit hback => ?_
    rw [Place.step_after]
    exact h (c :: front) back (by rw [hsplit, List.cons_append]) hback

/-- What a search finds is a match at a place farther on. -/
theorem exists_at?_of_findFrom? (h : findFrom? pattern before position text = some m) :
    ∃ q passed, Place.Reaches ⟨before, position, text⟩ q passed ∧ pattern.at? q = some m := by
  induction text generalizing before position with
  | nil => exact ⟨_, [], .refl _, h⟩
  | cons c rest ih =>
    rw [findFrom?] at h
    split at h
    · rename_i found hfound
      cases h
      exact ⟨_, [], .refl _, hfound⟩
    · obtain ⟨q, passed, hreaches, hq⟩ := ih h
      exact ⟨q, c :: passed, .trans (.step rfl) hreaches, hq⟩

/-- **A search finds nothing if no match begins at its place or farther on.** -/
theorem findFrom?_eq_none_iff (p : Place) : findFrom? pattern p.before p.position text = none ↔
    ∀ passed rest, text = passed ++ rest → pattern.at? (p.after passed rest) = none := by
  constructor
  · intro h passed rest hsplit
    subst hsplit
    induction passed generalizing p with
    | nil =>
      cases rest with
      | nil => exact h
      | cons c rest =>
        rw [List.nil_append, findFrom?] at h
        split at h
        · cases h
        · assumption
    | cons c passed ih =>
      rw [List.cons_append, findFrom?] at h
      split at h
      · cases h
      · rw [← Place.step_after]
        exact ih (p.step c rest) h
  · intro h
    have hpassed : findFrom? pattern p.before p.position (text ++ []) =
        findFrom? pattern (p.after text []).before (p.after text []).position [] := by
      refine findFrom?_append p fun front back hsplit _ => ?_
      rw [List.append_nil]
      exact h front back hsplit
    rw [List.append_nil] at hpassed
    rw [hpassed]
    exact h text [] (List.append_nil text).symm

/-- The first match ends in the text. -/
theorem stop_le_of_find? (h : find? pattern text = some m) : m.stop ≤ text.length := by
  obtain ⟨q, passed, hreaches, hq⟩ := exists_at?_of_findFrom? h
  obtain ⟨w, hw, rfl⟩ := exists_way_of_at? hq
  obtain ⟨taken, hreaches'⟩ := ways_reach hw
  obtain ⟨hrest, hposition⟩ := hreaches.trans hreaches'
  have htext : text = passed ++ taken ++ w.1.rest := hrest
  dsimp only at hposition ⊢
  rw [hposition, htext]
  simp only [List.length_append]
  omega

/-! ### Characters that a pattern avoids -/

/-- What a pattern takes ends before a character that it avoids. -/
theorem at?_eq_none_of_avoids (hsimple : pattern.isSimple = true) (hblind : pattern.isBlind = true)
    {c : Char} (havoids : pattern.avoids c = true) {front : List Char}
    (hfront : pattern.at? ⟨before, position, front⟩ = none) :
    pattern.at? ⟨before, position, front ++ c :: rest⟩ = none := by
  rw [at?_eq_none_iff] at hfront ⊢
  intro w hw
  obtain ⟨taken, behind, hsplit, haccepts, rfl⟩ := (mem_ways_iff_accepts hsimple).1 hw
  obtain ⟨more, rfl⟩ := Text.prefix_of_prefix_append_cons (haccepts.not_mem havoids)
    (⟨behind, hsplit.symm⟩ : taken <+: front ++ c :: rest)
  exact hfront _ ((mem_ways_iff_accepts hsimple).2
    ⟨taken, more, rfl, haccepts.congr_next hblind _, rfl⟩)

/-- **No match begins in a text without matches and the avoided character behind it**, whatever
follows. -/
theorem at?_after_of_avoids (hsimple : pattern.isSimple = true) (hblind : pattern.isBlind = true)
    {c : Char} (havoids : pattern.avoids c = true) (p : Place) {front : List Char}
    (hfront : findFrom? pattern p.before p.position front = none) {behind : List Char}
    (hsplit : front ++ [c] = passed ++ behind) (hne : behind ≠ []) :
    pattern.at? (p.after passed (behind ++ rest)) = none := by
  obtain hnil | ⟨middle, d, rfl⟩ := List.eq_nil_or_concat behind
  · exact absurd hnil hne
  rw [List.concat_eq_append, ← List.append_assoc] at hsplit
  obtain ⟨rfl, hlast⟩ := List.append_inj' hsplit rfl
  obtain rfl := List.singleton_inj.1 hlast
  rw [List.concat_eq_append, List.append_assoc]
  exact at?_eq_none_of_avoids hsimple hblind havoids
    ((findFrom?_eq_none_iff p).1 hfront passed middle rfl)

/-- **A search starts anew behind a character that the pattern avoids**, if it finds nothing
before. -/
theorem findFrom?_append_cons (hsimple : pattern.isSimple = true) (hblind : pattern.isBlind = true)
    (hforward : pattern.isForward = true) {c : Char} (havoids : pattern.avoids c = true) (p : Place)
    {front : List Char} (hfront : findFrom? pattern p.before p.position front = none)
    (rest : List Char) : findFrom? pattern p.before p.position (front ++ c :: rest) =
      (find? pattern rest).map (Match.moved (p.position + (front.length + 1))) := by
  have hpassed : findFrom? pattern p.before p.position (front ++ [c] ++ rest) =
      findFrom? pattern (p.after (front ++ [c]) rest).before
        (p.after (front ++ [c]) rest).position rest :=
    findFrom?_append p fun passed behind hsplit hne =>
      at?_after_of_avoids hsimple hblind havoids p hfront hsplit hne
  have hmoved := findFrom?_moved (n := p.position + (front.length + 1)) hforward none
    (p.after (front ++ [c]) rest).before 0 rest
  rw [List.append_assoc, Place.after_position, List.length_append] at hpassed
  rw [Nat.zero_add] at hmoved
  exact hpassed.trans hmoved

/-! ### The shortest run of any characters -/

/-- A pattern without slots passes on what is remembered. -/
theorem ways_of_isSimple (h : pattern.isSimple = true) (p : Place) (cs : Captures) :
    ways pattern p cs = (ways pattern p []).map fun w => (w.1, cs) := by
  induction pattern generalizing p cs with
  | seq first second ih₁ ih₂ =>
    obtain ⟨hfirst, hsecond⟩ := Bool.and_eq_true_iff.1 h
    rw [ways, ways, ih₁ hfirst p cs, List.flatMap_map, List.map_flatMap]
    congr 1
    funext w
    rw [ih₂ hsecond w.1 cs, ih₂ hsecond w.1 w.2, List.map_map]
    rfl
  | alt first second ih₁ ih₂ =>
    obtain ⟨hfirst, hsecond⟩ := Bool.and_eq_true_iff.1 h
    rw [ways, ways, ih₁ hfirst, ih₂ hsecond, List.map_append]
  | char ok =>
    rw [ways, ways]
    split
    · rfl
    · split <;> rfl
  | empty => rfl
  | many ok | few ok => rw [ways, ways, List.map_map]; rfl
  | wordEdge => rw [ways, ways]; split <;> rfl
  | notAfter ok => rw [ways, ways]; split <;> rfl
  | capture slot body | textStart | textEnd => cases h

/-- A pattern without slots has no way of matching where there is no match, whatever is
remembered. -/
theorem not_mem_ways_of_isSimple {w : Place × Captures} (h : pattern.isSimple = true)
    (hnone : pattern.at? p = none) : w ∉ ways pattern p cs := by
  rw [ways_of_isSimple h]
  intro hw
  obtain ⟨v, hv, -⟩ := List.mem_map.1 hw
  exact at?_eq_none_iff.1 hnone v hv

/-- Where a pattern without slots ends, whatever is remembered. -/
theorem run_of_isSimple (h : pattern.isSimple = true) (p : Place) (cs : Captures) :
    (run pattern (fun q cs' => some (q, cs')) p cs).map (fun w => (w.1.position, w.2)) =
      (pattern.at? p).map fun m => (m.stop, cs) := by
  have hhead (cs : Captures) : run pattern (fun q cs' => some (q, cs')) p cs =
      (ways pattern p cs).head? := by
    rw [run_eq_findSome?_ways]
    cases ways pattern p cs <;> rfl
  rw [hhead, at?, matchAt_eq_head?, ways_of_isSimple h, List.head?_map, Option.map_map,
    Option.map_map]
  rfl

/-- **The shortest run of any characters is a search**: what stands behind it is taken at the first
place at which it can be. -/
theorem run_few {parts : List Pattern} (h : (sequence parts).isSimple = true) (p : Place)
    (cs : Captures) :
    (run (sequence (few (fun _ => true) :: parts)) (fun q cs' => some (q, cs')) p cs).map
        (fun w => (w.1.position, w.2)) =
      (findFrom? (sequence parts) p.before p.position p.rest).map fun m => (m.stop, cs) := by
  obtain ⟨before, position, text⟩ := p
  rw [run_sequence_cons, run]
  induction text generalizing before position with
  | nil => exact run_of_isSimple h ⟨before, position, []⟩ cs
  | cons c rest ih =>
    have hhere := run_of_isSimple h ⟨before, position, c :: rest⟩ cs
    rw [runFew, findFrom?]
    split
    · rename_i answer hanswer
      rw [hanswer] at hhere
      cases hfound : at? (sequence parts) ⟨before, position, c :: rest⟩ with
      | none => rw [hfound] at hhere; cases hhere
      | some m => rw [hhere, hfound]
    · rename_i hanswer
      rw [hanswer] at hhere
      rw [Option.map_eq_none_iff.1 hhere.symm, if_pos rfl]
      exact ih _ _

end Pattern

end NavGraph

import NavGraph.Proofs.Pattern.Capture

/-!
# Spelled patterns

A sequence is matched part by part, and where its parts are given texts a match says what the text
at its place begins with.  Of what the parts remember, a slot holds what the last of them put there.

## Main definitions

* `Pattern.spares` - whether a pattern puts nothing into a slot

## Main statements

* `mem_ways_sequence_append` - a sequence is matched in two parts, wherever it is cut
* `reaches_of_mem_ways_literal`, `reaches_of_mem_ways_words` - given texts take themselves
* `get?_of_mem_ways` - a slot that is spared holds what it held before
-/

namespace NavGraph

namespace Pattern

variable {p : Place} {cs : Captures} {w : Place × Captures} {slot : Nat}

/-! ### Parts of a pattern -/

theorem mem_ways_sequence_cons {first : Pattern} {rest : List Pattern} :
    w ∈ ways (sequence (first :: rest)) p cs ↔
      ∃ v ∈ ways first p cs, w ∈ ways (sequence rest) v.1 v.2 := by
  cases rest with
  | nil =>
    constructor
    · exact fun hw => ⟨w, hw, mem_ways_empty.2 rfl⟩
    · rintro ⟨v, hv, hw⟩
      obtain rfl : w = v := mem_ways_empty.1 hw
      exact hv
  | cons second rest => exact mem_ways_seq

/-- **A sequence is matched in two parts**, wherever it is cut. -/
theorem mem_ways_sequence_append {front back : List Pattern} :
    w ∈ ways (sequence (front ++ back)) p cs ↔
      ∃ v ∈ ways (sequence front) p cs, w ∈ ways (sequence back) v.1 v.2 := by
  induction front generalizing p cs with
  | nil =>
    constructor
    · exact fun hw => ⟨(p, cs), mem_ways_empty.2 rfl, hw⟩
    · rintro ⟨v, hv, hw⟩
      obtain rfl : v = (p, cs) := mem_ways_empty.1 hv
      exact hw
  | cons first front ih =>
    rw [List.cons_append, mem_ways_sequence_cons]
    constructor
    · rintro ⟨u, hu, hw⟩
      obtain ⟨v, hv, hw⟩ := ih.1 hw
      exact ⟨v, mem_ways_sequence_cons.2 ⟨u, hu, hv⟩, hw⟩
    · rintro ⟨v, hv, hw⟩
      obtain ⟨u, hu, hv⟩ := mem_ways_sequence_cons.1 hv
      exact ⟨u, hu, ih.2 ⟨v, hv, hw⟩⟩

/-- The same with the number of parts before the cut. -/
theorem mem_ways_sequence_cut {patterns : List Pattern} (count : Nat) :
    w ∈ ways (sequence patterns) p cs ↔
      ∃ v ∈ ways (sequence (patterns.take count)) p cs,
        w ∈ ways (sequence (patterns.drop count)) v.1 v.2 := by
  rw [← mem_ways_sequence_append, List.take_append_drop]

theorem mem_ways_anyOf {patterns : List Pattern} :
    w ∈ ways (anyOf patterns) p cs ↔ ∃ q ∈ patterns, w ∈ ways q p cs := by
  induction patterns with
  | nil =>
    refine iff_of_false (fun hw => ?_) nofun
    obtain ⟨c, rest, -, hc, -⟩ := mem_ways_char.1 hw
    cases hc
  | cons first rest ih =>
    simp only [List.mem_cons, exists_eq_or_imp, ← ih]
    cases rest with
    | nil => exact (or_iff_left (fun hw => by obtain ⟨q, hq, -⟩ := ih.1 hw; cases hq)).symm
    | cons second rest => exact mem_ways_alt

/-! ### Given texts -/

theorem reaches_of_mem_ways_single {c : Char} (hw : w ∈ ways (single c) p cs) :
    p.Reaches w.1 [c] := by
  obtain ⟨d, rest, hrest, hd, rfl⟩ := mem_ways_char.1 hw
  obtain rfl := beq_iff_eq.1 hd
  exact .step hrest

theorem reaches_of_mem_ways_many {ok : Char → Bool} (hw : w ∈ ways (many ok) p cs) :
    ∃ taken, p.Reaches w.1 taken ∧ ∀ c ∈ taken, ok c := by
  obtain ⟨q, hq, rfl⟩ := mem_ways_many.1 hw
  exact reaches_of_mem_manyWays hq

/-- **A given text takes itself.** -/
theorem reaches_of_mem_ways_literal {text : String} (hw : w ∈ ways (literal text) p cs) :
    p.Reaches w.1 text.toList := by
  rw [literal] at hw
  generalize text.toList = letters at hw ⊢
  induction letters generalizing p cs with
  | nil =>
    obtain rfl := mem_ways_empty.1 hw
    exact .refl p
  | cons c letters ih =>
    obtain ⟨v, hv, hw⟩ := mem_ways_sequence_cons.1 hw
    exact (reaches_of_mem_ways_single hv).trans (ih hw)

theorem reaches_of_mem_ways_words {texts : List String} (hw : w ∈ ways (words texts) p cs) :
    ∃ text ∈ texts, p.Reaches w.1 text.toList := by
  obtain ⟨q, hq, hw⟩ := mem_ways_anyOf.1 hw
  obtain ⟨text, htext, rfl⟩ := List.mem_map.1 hq
  exact ⟨text, htext, reaches_of_mem_ways_literal hw⟩

/-! ### Slots that are spared -/

/-- Whether a pattern puts nothing into a slot. -/
def spares (slot : Nat) : Pattern → Bool
  | capture other body => other != slot && body.spares slot
  | seq first second | alt first second => first.spares slot && second.spares slot
  | _ => true

/-- **A slot that is spared holds what it held before.** -/
theorem get?_of_mem_ways {pattern : Pattern} (h : pattern.spares slot = true)
    (hw : w ∈ ways pattern p cs) : w.2.get? slot = cs.get? slot := by
  induction pattern generalizing p cs w with
  | seq first second ih₁ ih₂ =>
    obtain ⟨hfirst, hsecond⟩ := Bool.and_eq_true_iff.1 h
    obtain ⟨v, hv, hw⟩ := mem_ways_seq.1 hw
    rw [ih₂ hsecond hw, ih₁ hfirst hv]
  | alt first second ih₁ ih₂ =>
    obtain ⟨hfirst, hsecond⟩ := Bool.and_eq_true_iff.1 h
    obtain hw | hw := mem_ways_alt.1 hw
    · exact ih₁ hfirst hw
    · exact ih₂ hsecond hw
  | capture other body ih =>
    obtain ⟨hother, hbody⟩ := Bool.and_eq_true_iff.1 h
    obtain ⟨v, hv, rfl⟩ := mem_ways_capture.1 hw
    have hslot : (slot == other) = false := beq_eq_false_iff_ne.2 (bne_iff_ne.1 hother).symm
    rw [← ih hbody hv, Captures.get?, List.lookup_cons, hslot, Captures.get?]
  | many ok =>
    obtain ⟨q, -, rfl⟩ := mem_ways_many.1 hw
    rfl
  | few ok =>
    obtain ⟨q, -, rfl⟩ := mem_ways_few.1 hw
    rfl
  | char ok =>
    obtain ⟨c, rest, -, -, rfl⟩ := mem_ways_char.1 hw
    rfl
  | empty => rw [mem_ways_empty.1 hw]
  | textStart => rw [(mem_ways_textStart.1 hw).2]
  | textEnd => rw [(mem_ways_textEnd.1 hw).2]
  | wordEdge => rw [(mem_ways_wordEdge.1 hw).2]
  | notAfter ok => rw [(mem_ways_notAfter.1 hw).2]

end Pattern

end NavGraph

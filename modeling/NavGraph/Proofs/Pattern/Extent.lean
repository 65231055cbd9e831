import NavGraph.Proofs.Pattern.Capture

/-!
# What a pattern takes

A way of matching takes a piece of the text: it begins where the pattern is tried, and ends farther
on in the same text.  What is remembered on the way is taken from there too.

## Main statements

* `ways_reach` - each way of matching leads to a place farther on
* `text?_subset_of_mem_findAll` - what a match remembers is a piece of the text
-/

namespace NavGraph

namespace Pattern

variable {pattern : Pattern} {p : Place} {cs : Captures} {w : Place × Captures}

theorem reaches_of_mem_fewWays {ok : Char → Bool} {before : Option Char} {position : Nat}
    {rest : List Char} {q : Place} (h : q ∈ fewWays ok before position rest) :
    ∃ taken, Place.Reaches ⟨before, position, rest⟩ q taken := by
  induction rest generalizing before position with
  | nil =>
    rw [List.mem_singleton.1 h]
    exact ⟨[], .refl _⟩
  | cons c rest ih =>
    rw [fewWays] at h
    obtain rfl | h := List.mem_cons.1 h
    · exact ⟨[], .refl _⟩
    · split at h
      · obtain ⟨taken, hreaches⟩ := ih h
        exact ⟨c :: taken, .trans (.step rfl) hreaches⟩
      · cases h

/-- **Each way of matching takes a piece of the text**, by induction on the pattern: a sequence
takes two pieces, and tests for a place take nothing. -/
theorem ways_reach (hw : w ∈ ways pattern p cs) : ∃ taken, p.Reaches w.1 taken := by
  induction pattern generalizing p cs w with
  | seq first second ih₁ ih₂ =>
    obtain ⟨v, hv, hw⟩ := mem_ways_seq.1 hw
    obtain ⟨taken, hreaches⟩ := ih₁ hv
    obtain ⟨later, hreaches'⟩ := ih₂ hw
    exact ⟨taken ++ later, hreaches.trans hreaches'⟩
  | alt first second ih₁ ih₂ =>
    obtain hw | hw := mem_ways_alt.1 hw
    · exact ih₁ hw
    · exact ih₂ hw
  | capture slot body ih =>
    obtain ⟨v, hv, rfl⟩ := mem_ways_capture.1 hw
    exact ih (w := v) hv
  | many ok =>
    obtain ⟨q, hq, rfl⟩ := mem_ways_many.1 hw
    obtain ⟨taken, hreaches, -⟩ := reaches_of_mem_manyWays hq
    exact ⟨taken, hreaches⟩
  | few ok =>
    obtain ⟨q, hq, rfl⟩ := mem_ways_few.1 hw
    exact reaches_of_mem_fewWays hq
  | char ok =>
    obtain ⟨c, rest, hrest, -, rfl⟩ := mem_ways_char.1 hw
    exact ⟨[c], .step hrest⟩
  | empty =>
    obtain rfl := mem_ways_empty.1 hw
    exact ⟨[], .refl p⟩
  | textStart =>
    obtain ⟨-, rfl⟩ := mem_ways_textStart.1 hw
    exact ⟨[], .refl p⟩
  | textEnd =>
    obtain ⟨-, rfl⟩ := mem_ways_textEnd.1 hw
    exact ⟨[], .refl p⟩
  | wordEdge =>
    obtain ⟨-, rfl⟩ := mem_ways_wordEdge.1 hw
    exact ⟨[], .refl p⟩
  | notAfter ok =>
    obtain ⟨-, rfl⟩ := mem_ways_notAfter.1 hw
    exact ⟨[], .refl p⟩

/-! ### Remembered texts -/

/-- What is remembered on a way of matching is taken from the text at hand. -/
theorem text_subset_of_mem_ways (hw : w ∈ ways pattern p cs) :
    ∀ c ∈ w.2, c ∈ cs ∨ c.2.text ⊆ p.rest := by
  induction pattern generalizing p cs w with
  | seq first second ih₁ ih₂ =>
    intro c hc
    obtain ⟨v, hv, hw⟩ := mem_ways_seq.1 hw
    obtain ⟨taken, hreaches⟩ := ways_reach hv
    obtain hc | hc := ih₂ hw c hc
    · exact ih₁ hv c hc
    · rw [hreaches.rest_eq]
      exact .inr (List.Subset.trans hc (List.subset_append_right _ _))
  | alt first second ih₁ ih₂ =>
    obtain hw | hw := mem_ways_alt.1 hw
    · exact ih₁ hw
    · exact ih₂ hw
  | capture slot body ih =>
    obtain ⟨v, hv, rfl⟩ := mem_ways_capture.1 hw
    exact List.forall_mem_cons.2 ⟨.inr (List.take_subset _ _), ih hv⟩
  | many ok' =>
    obtain ⟨q, -, rfl⟩ := mem_ways_many.1 hw
    exact fun c hc => .inl hc
  | few ok' =>
    obtain ⟨q, -, rfl⟩ := mem_ways_few.1 hw
    exact fun c hc => .inl hc
  | char ok' =>
    obtain ⟨c, rest, -, -, rfl⟩ := mem_ways_char.1 hw
    exact fun c hc => .inl hc
  | empty =>
    obtain rfl := mem_ways_empty.1 hw
    exact fun c hc => .inl hc
  | textStart =>
    obtain ⟨-, rfl⟩ := mem_ways_textStart.1 hw
    exact fun c hc => .inl hc
  | textEnd =>
    obtain ⟨-, rfl⟩ := mem_ways_textEnd.1 hw
    exact fun c hc => .inl hc
  | wordEdge =>
    obtain ⟨-, rfl⟩ := mem_ways_wordEdge.1 hw
    exact fun c hc => .inl hc
  | notAfter ok' =>
    obtain ⟨-, rfl⟩ := mem_ways_notAfter.1 hw
    exact fun c hc => .inl hc

/-- What a match remembers is a piece of the text. -/
theorem text?_subset_of_mem_findAll {text : List Char} {m : Match} (hm : m ∈ findAll pattern text)
    {slot : Nat} {held : String} (hheld : m.text? slot = some held) : held.toList ⊆ text := by
  obtain ⟨p, passed, hreaches, w, hw, c, hc, hheld⟩ := exists_capture_of_text? hm hheld
  rw [← hheld]
  obtain hc | hc := text_subset_of_mem_ways hw c hc
  · cases hc
  · have hrest : text = passed ++ p.rest := hreaches.rest_eq
    exact hrest ▸ List.Subset.trans hc (List.subset_append_right _ _)

theorem text_subset_of_mem_findAll {text : List Char} {m : Match} (hm : m ∈ findAll pattern text)
    (slot : Nat) : (m.text slot).toList ⊆ text := by
  unfold Match.text
  cases hheld : m.text? slot with
  | none => exact List.nil_subset _
  | some held => exact text?_subset_of_mem_findAll hm hheld

end Pattern

end NavGraph

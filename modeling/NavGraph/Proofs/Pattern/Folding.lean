import NavGraph.Proofs.Pattern.Running
import NavGraph.Proofs.Pattern.Spelling

/-!
# Patterns that ignore case

A pattern that ignores case takes a text for what folding makes of it.  Patterns of this kind are
put together from letters, and so is the list of the texts that they read; where no text of the list
begins with another one, there is one way of reading at a place or none.

## Main definitions

* `Pattern.ReadsFolded` - a pattern reads the texts of a list, whatever their letter case

## Main statements

* `Text.foldAscii_eq_iff` - nothing folds to a mark but the mark
* `ReadsFolded.cons`, `ReadsFolded.optional`, `readsFolded_anyCase`, `readsFolded_wordsAnyCase` -
  the lists of combinations
* `ReadsFolded.run_eq` - reading a text of a list in which no text begins with another
-/

namespace NavGraph

/-! ### Folding characters -/

namespace Text

variable {c d : Char}

/-- A fact about each character of the ASCII range is one about finitely many code points. -/
theorem forall_ascii (property : Char → Prop) (h : ∀ n < 128, property (Char.ofNat n)) :
    ∀ c : Char, c.toNat < 128 → property c := by
  intro c hc
  have hn := h c.toNat hc
  rwa [Char.ofNat_toNat] at hn

/-- Outside the ASCII range nothing is folded but the four characters that fold to letters. -/
theorem foldAscii_eq_or (h : ¬ c.toNat < 128) : foldAscii c = c ∨ (foldAscii c).isAlpha = true ∧
    c.toNat ∈ [0x17f, 0x212a, 0x131, 0x130] := by
  rw [foldAscii, if_neg h]
  split
  · exact .inr ⟨rfl, by simp_all⟩
  · split
    · exact .inr ⟨rfl, by simp_all⟩
    · split
      · exact .inr ⟨rfl, by simp_all⟩
      · exact .inl rfl

theorem foldAscii_of_isAlpha_eq_false (h : (foldAscii c).isAlpha = false) : foldAscii c = c := by
  by_cases hc : c.toNat < 128
  · rw [foldAscii, if_pos hc] at h ⊢
    exact forall_ascii (fun c => c.toLower.isAlpha = false → c.toLower = c)
      (by decide +kernel) c hc h
  · obtain hfold | ⟨halpha, -⟩ := foldAscii_eq_or hc
    · exact hfold
    · rw [h] at halpha
      cases halpha

/-- **Nothing folds to a mark but the mark.** -/
theorem foldAscii_eq_iff (hd : d.isAlpha = false) (hascii : d.toNat < 128) :
    foldAscii c = d ↔ c = d := by
  constructor
  · rintro rfl
    exact (foldAscii_of_isAlpha_eq_false hd).symm
  · rintro rfl
    rw [foldAscii, if_pos hascii]
    exact forall_ascii (fun c => c.isAlpha = false → c.toLower = c)
      (by decide +kernel) c hascii hd

/-- Blanks are folded to themselves. -/
theorem foldAscii_of_isBlank (h : isBlank c = true) : foldAscii c = c := by
  by_cases hc : c.toNat < 128
  · rw [foldAscii, if_pos hc]
    exact forall_ascii (fun c => isBlank c = true → c.toLower = c)
      (by decide +kernel) c hc h
  · obtain hfold | ⟨-, hspecial⟩ := foldAscii_eq_or hc
    · exact hfold
    · simp only [List.mem_cons, List.not_mem_nil, or_false] at hspecial
      obtain hn | hn | hn | hn := hspecial <;> simp [isBlank, hn] at h

end Text

namespace Pattern

/-! ### Lists of texts -/

variable {p : Place} {cs : Captures} {w : Place × Captures}

/-- A pattern reads the texts that folding makes one of a list, and remembers nothing. -/
def ReadsFolded (forms : List (List Char)) (pattern : Pattern) : Prop :=
  ∀ p cs w, w ∈ ways pattern p cs ↔ ∃ taken rest, p.rest = taken ++ rest ∧
    taken.map Text.foldAscii ∈ forms ∧ w = (p.after taken rest, cs)

/-- Every text of one list with every text of another behind it. -/
def product (first second : List (List Char)) : List (List Char) :=
  first.flatMap fun front => second.map (front ++ ·)

theorem readsFolded_char (chars : List Char) {ok : Char → Bool}
    (h : ∀ c, ok c = true ↔ Text.foldAscii c ∈ chars) :
    ReadsFolded (chars.map ([·])) (char ok) := by
  intro p cs w
  rw [mem_ways_char]
  constructor
  · rintro ⟨c, rest, hrest, hc, rfl⟩
    exact ⟨[c], rest, hrest, List.mem_map_of_mem ((h c).1 hc), rfl⟩
  · rintro ⟨taken, rest, hrest, hforms, rfl⟩
    obtain ⟨d, hd, hfold⟩ := List.mem_map.1 hforms
    obtain ⟨c, rfl, rfl⟩ := List.map_eq_singleton_iff.1 hfold.symm
    exact ⟨c, rest, hrest, (h c).2 hd, rfl⟩

theorem readsFolded_nil : ReadsFolded [[]] (sequence []) := by
  intro p cs w
  rw [sequence, mem_ways_empty]
  constructor
  · rintro rfl
    exact ⟨[], p.rest, rfl, List.mem_singleton_self _, rfl⟩
  · rintro ⟨taken, rest, hrest, hforms, rfl⟩
    obtain rfl := List.map_eq_nil_iff.1 (List.mem_singleton.1 hforms)
    rw [List.nil_append] at hrest
    rw [Place.after_nil hrest]

theorem ReadsFolded.optional {forms : List (List Char)} {pattern : Pattern}
    (h : ReadsFolded forms pattern) : ReadsFolded (forms ++ [[]]) (optional pattern) := by
  intro p cs w
  have hnil := readsFolded_nil p cs w
  rw [Pattern.optional, mem_ways_alt, h p cs w]
  rw [sequence] at hnil
  rw [hnil]
  constructor
  · rintro (⟨taken, rest, hrest, hforms, rfl⟩ | ⟨taken, rest, hrest, hforms, rfl⟩)
    · exact ⟨taken, rest, hrest, List.mem_append_left _ hforms, rfl⟩
    · exact ⟨taken, rest, hrest, List.mem_append_right _ hforms, rfl⟩
  · rintro ⟨taken, rest, hrest, hforms, rfl⟩
    obtain hforms | hforms := List.mem_append.1 hforms
    · exact .inl ⟨taken, rest, hrest, hforms, rfl⟩
    · exact .inr ⟨taken, rest, hrest, hforms, rfl⟩

theorem ReadsFolded.cons {forms forms' : List (List Char)} {first : Pattern}
    {others : List Pattern} (h : ReadsFolded forms first)
    (h' : ReadsFolded forms' (sequence others)) :
    ReadsFolded (product forms forms') (sequence (first :: others)) := by
  intro p cs w
  rw [mem_ways_sequence_cons]
  constructor
  · rintro ⟨v, hv, hw⟩
    obtain ⟨front, rest, hrest, hfront, rfl⟩ := (h p cs v).1 hv
    obtain ⟨back, rest', hrest', hback, rfl⟩ := (h' _ cs w).1 hw
    refine ⟨front ++ back, rest', ?_, ?_, ?_⟩
    · rw [hrest, List.append_assoc, ← hrest', Place.after_rest]
    · rw [List.map_append]
      exact List.mem_flatMap.2 ⟨_, hfront, List.mem_map_of_mem hback⟩
    · rw [Place.after_after]
  · rintro ⟨taken, rest, hrest, hforms, rfl⟩
    obtain ⟨front, hfront, hforms⟩ := List.mem_flatMap.1 hforms
    obtain ⟨back, hback, hfold⟩ := List.mem_map.1 hforms
    obtain ⟨front, back, rfl, rfl, rfl⟩ := List.map_eq_append_iff.1 hfold.symm
    rw [List.append_assoc] at hrest
    refine ⟨_, (h p cs _).2 ⟨front, back ++ rest, hrest, hfront, rfl⟩, ?_⟩
    exact (h' _ cs _).2 ⟨back, rest, rfl, hback, by rw [Place.after_after]⟩

/-- A text is read letter by letter. -/
theorem readsFolded_sequence {letters : List Char} {one : Char → Pattern}
    (h : ∀ c ∈ letters, ReadsFolded [[c]] (one c)) :
    ReadsFolded [letters] (sequence (letters.map one)) := by
  induction letters with
  | nil => exact readsFolded_nil
  | cons c letters ih =>
    obtain ⟨hc, hletters⟩ := List.forall_mem_cons.1 h
    exact hc.cons (ih hletters)

theorem readsFolded_anyCase (text : String) : ReadsFolded [text.toList] (anyCase text) :=
  readsFolded_sequence fun c _ => readsFolded_char [c] fun d => by simp

/-- A text of marks is read like any other. -/
theorem readsFolded_literal (text : String)
    (h : ∀ c ∈ text.toList, c.isAlpha = false ∧ c.toNat < 128) :
    ReadsFolded [text.toList] (literal text) :=
  readsFolded_sequence fun c hc => readsFolded_char [c] fun d => by
    rw [beq_iff_eq, List.mem_singleton, Text.foldAscii_eq_iff (h c hc).1 (h c hc).2]

/-- One of several texts is read like each of them. -/
theorem readsFolded_wordsAnyCase (texts : List String) :
    ReadsFolded (texts.map String.toList) (wordsAnyCase texts) := by
  intro p cs w
  rw [wordsAnyCase, mem_ways_anyOf]
  constructor
  · rintro ⟨q, hq, hw⟩
    obtain ⟨text, htext, rfl⟩ := List.mem_map.1 hq
    obtain ⟨taken, rest, hrest, htaken, rfl⟩ := (readsFolded_anyCase text p cs w).1 hw
    rw [List.mem_singleton] at htaken
    exact ⟨taken, rest, hrest, htaken ▸ List.mem_map_of_mem htext, rfl⟩
  · rintro ⟨taken, rest, hrest, htaken, rfl⟩
    obtain ⟨text, htext, hfold⟩ := List.mem_map.1 htaken
    refine ⟨anyCase text, List.mem_map_of_mem htext, ?_⟩
    exact (readsFolded_anyCase text p cs _).2
      ⟨taken, rest, hrest, List.mem_singleton.2 hfold.symm, rfl⟩

/-! ### Reading a text of a list -/

variable {α : Type} {k : Place → Captures → Option α} {forms : List (List Char)}
  {pattern : Pattern} {taken taken' rest rest' : List Char}

/-- Of a list in which no text begins with another one, a text begins with one only. -/
theorem eq_of_folded (hfree : ∀ form ∈ forms, ∀ other ∈ forms, form <+: other → form = other)
    (h : taken ++ rest = taken' ++ rest') (htaken : taken.map Text.foldAscii ∈ forms)
    (htaken' : taken'.map Text.foldAscii ∈ forms) : taken = taken' ∧ rest = rest' := by
  have hlength : taken.length = taken'.length := by
    obtain hle | hle := List.prefix_or_prefix_of_prefix (List.prefix_append taken rest)
      (h ▸ List.prefix_append taken' rest')
    · have heq := hfree _ htaken _ htaken' (hle.map Text.foldAscii)
      simpa using congrArg List.length heq
    · have heq := hfree _ htaken' _ htaken (hle.map Text.foldAscii)
      simpa using (congrArg List.length heq).symm
  exact List.append_inj h hlength

/-- **Reading a text of a list** in which no text begins with another one: there is no other way of
reading at the place. -/
theorem ReadsFolded.run_eq (h : ReadsFolded forms pattern)
    (hfree : ∀ form ∈ forms, ∀ other ∈ forms, form <+: other → form = other)
    (hrest : p.rest = taken ++ rest) (htaken : taken.map Text.foldAscii ∈ forms) :
    run pattern k p cs = k (p.after taken rest) cs := by
  have hall : ∀ w ∈ ways pattern p cs, w = (p.after taken rest, cs) := by
    intro w hw
    obtain ⟨taken', rest', hrest', htaken', rfl⟩ := (h p cs w).1 hw
    obtain ⟨rfl, rfl⟩ := eq_of_folded hfree (hrest.symm.trans hrest') htaken htaken'
    rfl
  have hmem := (h p cs _).2 ⟨taken, rest, hrest, htaken, rfl⟩
  rw [run_eq_findSome?_ways, List.eq_replicate_of_mem hall]
  exact List.findSome?_replicate_of_pos (List.length_pos_of_mem hmem)

end Pattern

end NavGraph

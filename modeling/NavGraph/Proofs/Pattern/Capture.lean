import NavGraph.Pattern.Search

/-!
# What a match remembers

Whatever a text is, the texts that a match remembers are of the form that the pattern gives them,
and what is kept when matches are replaced was there before.

## Main definitions

* `Place.Reaches` - a text leads from one place to another
* `Pattern.Remembers` - everything that a pattern remembers has a property

## Main statements

* `ways_remember` - so do the captures of each way of matching
* `text?_of_mem_findAll` - and the slots of each match in a text
* `remembers_capture_oneOrMore` - a slot around characters of a class holds at least one, and no
  other
* `mem_replaceAll` - no character comes from elsewhere when matches are replaced
-/

namespace NavGraph

/-! ### Places -/

/-- A text leads from one place to another. -/
structure Place.Reaches (p q : Place) (taken : List Char) : Prop where
  rest_eq : p.rest = taken ++ q.rest
  position_eq : q.position = p.position + taken.length

theorem Place.Reaches.refl (p : Place) : p.Reaches p [] := ⟨rfl, rfl⟩

theorem Place.Reaches.step {p : Place} {c : Char} {rest : List Char} (h : p.rest = c :: rest) :
    p.Reaches (p.step c rest) [c] := ⟨h, rfl⟩

theorem Place.Reaches.trans {p q r : Place} {taken later : List Char} (h : p.Reaches q taken)
    (h' : q.Reaches r later) : p.Reaches r (taken ++ later) where
  rest_eq := by rw [h.rest_eq, h'.rest_eq, List.append_assoc]
  position_eq := by rw [h'.position_eq, h.position_eq, List.length_append, Nat.add_assoc]

theorem Place.Reaches.textTo {p q : Place} {taken : List Char} (h : p.Reaches q taken) :
    p.textTo q = taken := by
  have hlength : q.position - p.position = taken.length := by
    rw [h.position_eq, Nat.add_sub_cancel_left]
  rw [Place.textTo, hlength, h.rest_eq, List.take_left]

namespace Pattern

variable {property : List Char → Prop} {ok : Char → Bool}

/-! ### What patterns remember -/

/-- Whatever text a pattern remembers, in whatever slot, has a property. -/
def Remembers (property : List Char → Prop) : Pattern → Prop
  | capture _ body =>
      (∀ p cs, ∀ w ∈ ways body p cs, property (p.textTo w.1)) ∧ body.Remembers property
  | seq first second => first.Remembers property ∧ second.Remembers property
  | alt first second => first.Remembers property ∧ second.Remembers property
  | _ => True

/-- **Each way of matching remembers what the pattern says**, by induction on the pattern: only a
slot adds to what is remembered, and only sequences and alternatives pass it on. -/
theorem ways_remember {pattern : Pattern} (h : pattern.Remembers property) {p : Place}
    {cs : Captures} (hcs : ∀ c ∈ cs, property c.2.text) :
    ∀ w ∈ ways pattern p cs, ∀ c ∈ w.2, property c.2.text := by
  induction pattern generalizing p cs with
  | seq first second ih₁ ih₂ =>
    intro w hw
    obtain ⟨v, hv, hw⟩ := mem_ways_seq.1 hw
    exact ih₂ h.2 (ih₁ h.1 hcs v hv) w hw
  | alt first second ih₁ ih₂ =>
    intro w hw
    obtain hw | hw := mem_ways_alt.1 hw
    · exact ih₁ h.1 hcs w hw
    · exact ih₂ h.2 hcs w hw
  | capture slot body ih =>
    intro w hw
    obtain ⟨v, hv, rfl⟩ := mem_ways_capture.1 hw
    exact List.forall_mem_cons.2 ⟨h.1 p cs v hv, ih h.2 hcs v hv⟩
  | many ok =>
    intro w hw
    obtain ⟨q, -, rfl⟩ := mem_ways_many.1 hw
    exact hcs
  | few ok =>
    intro w hw
    obtain ⟨q, -, rfl⟩ := mem_ways_few.1 hw
    exact hcs
  | char ok =>
    intro w hw
    obtain ⟨c, rest, -, -, rfl⟩ := mem_ways_char.1 hw
    exact hcs
  | empty =>
    intro w hw
    obtain rfl := mem_ways_empty.1 hw
    exact hcs
  | textStart =>
    intro w hw
    obtain ⟨-, rfl⟩ := mem_ways_textStart.1 hw
    exact hcs
  | textEnd =>
    intro w hw
    obtain ⟨-, rfl⟩ := mem_ways_textEnd.1 hw
    exact hcs
  | wordEdge =>
    intro w hw
    obtain ⟨-, rfl⟩ := mem_ways_wordEdge.1 hw
    exact hcs
  | notAfter ok =>
    intro w hw
    obtain ⟨-, rfl⟩ := mem_ways_notAfter.1 hw
    exact hcs

/-! ### Combinations -/

@[simp] theorem remembers_char : (char ok).Remembers property := trivial

@[simp] theorem remembers_many : (many ok).Remembers property := trivial

@[simp] theorem remembers_few : (few ok).Remembers property := trivial

@[simp] theorem remembers_seq {first second : Pattern} : (seq first second).Remembers property ↔
    first.Remembers property ∧ second.Remembers property := Iff.rfl

@[simp] theorem remembers_alt {first second : Pattern} : (alt first second).Remembers property ↔
    first.Remembers property ∧ second.Remembers property := Iff.rfl

@[simp] theorem remembers_optional {pattern : Pattern} :
    (optional pattern).Remembers property ↔ pattern.Remembers property :=
  and_iff_left trivial

@[simp] theorem remembers_oneOrMore : (oneOrMore ok).Remembers property := ⟨trivial, trivial⟩

@[simp] theorem remembers_single {c : Char} : (single c).Remembers property := trivial

@[simp] theorem remembers_sequence {patterns : List Pattern} :
    (sequence patterns).Remembers property ↔ ∀ p ∈ patterns, p.Remembers property := by
  induction patterns with
  | nil => exact iff_of_true trivial nofun
  | cons p rest ih =>
    rw [List.forall_mem_cons, ← ih]
    cases rest with
    | nil => exact (and_iff_left trivial).symm
    | cons q rest => rfl

@[simp] theorem remembers_anyOf {patterns : List Pattern} :
    (anyOf patterns).Remembers property ↔ ∀ p ∈ patterns, p.Remembers property := by
  induction patterns with
  | nil => exact iff_of_true trivial nofun
  | cons p rest ih =>
    rw [List.forall_mem_cons, ← ih]
    cases rest with
    | nil => exact (and_iff_left trivial).symm
    | cons q rest => rfl

@[simp] theorem remembers_literal {text : String} : (literal text).Remembers property := by
  rw [literal, remembers_sequence]
  rintro p hp
  obtain ⟨c, -, rfl⟩ := List.mem_map.1 hp
  exact remembers_single

@[simp] theorem remembers_words {texts : List String} : (words texts).Remembers property := by
  rw [words, remembers_anyOf]
  rintro p hp
  obtain ⟨text, -, rfl⟩ := List.mem_map.1 hp
  exact remembers_literal

/-! ### Runs of a class -/

theorem reaches_of_mem_manyWays {before : Option Char} {position : Nat} {rest : List Char}
    {q : Place} (h : q ∈ manyWays ok before position rest) :
    ∃ taken, Place.Reaches ⟨before, position, rest⟩ q taken ∧ ∀ c ∈ taken, ok c := by
  induction rest generalizing before position with
  | nil =>
    rw [List.mem_singleton.1 h]
    exact ⟨[], .refl _, nofun⟩
  | cons c rest ih =>
    rw [manyWays] at h
    obtain h | h := List.mem_append.1 h
    · split at h
      · rename_i hc
        obtain ⟨taken, hreaches, htaken⟩ := ih h
        exact ⟨c :: taken, .trans (.step rfl) hreaches, List.forall_mem_cons.2 ⟨hc, htaken⟩⟩
      · cases h
    · rw [List.mem_singleton.1 h]
      exact ⟨[], .refl _, nofun⟩

theorem reaches_of_mem_ways_oneOrMore {p : Place} {cs : Captures} {w : Place × Captures}
    (h : w ∈ ways (oneOrMore ok) p cs) :
    ∃ taken, p.Reaches w.1 taken ∧ taken ≠ [] ∧ ∀ c ∈ taken, ok c := by
  obtain ⟨v, hv, h⟩ := mem_ways_seq.1 h
  obtain ⟨c, rest, hrest, hc, rfl⟩ := mem_ways_char.1 hv
  obtain ⟨q, hq, rfl⟩ := mem_ways_many.1 h
  obtain ⟨taken, hreaches, htaken⟩ := reaches_of_mem_manyWays hq
  exact ⟨c :: taken, .trans (.step hrest) hreaches, List.cons_ne_nil c taken,
    List.forall_mem_cons.2 ⟨hc, htaken⟩⟩

/-- **A slot around characters of a class holds at least one of them, and nothing else.** -/
theorem remembers_capture_oneOrMore {slot : Nat}
    (h : ∀ taken, taken ≠ [] → (∀ c ∈ taken, ok c) → property taken) :
    (capture slot (oneOrMore ok)).Remembers property := by
  refine ⟨fun p cs w hw => ?_, remembers_oneOrMore⟩
  obtain ⟨taken, hreaches, hne, htaken⟩ := reaches_of_mem_ways_oneOrMore hw
  rw [hreaches.textTo]
  exact h taken hne htaken

/-! ### Searching -/

/-- There is no match at a place if there is no way of matching. -/
theorem at?_eq_none_iff {pattern : Pattern} {p : Place} :
    pattern.at? p = none ↔ ∀ w, w ∉ ways pattern p [] := by
  rw [at?, Option.map_eq_none_iff, matchAt_eq_head?, List.head?_eq_none_iff,
    List.eq_nil_iff_forall_not_mem]

/-- The match at a place is one of the ways of matching there. -/
theorem exists_way_of_at? {pattern : Pattern} {p : Place} {m : Match}
    (h : pattern.at? p = some m) :
    ∃ w ∈ ways pattern p [], m = ⟨p.position, w.1.position, w.2⟩ := by
  obtain ⟨w, hw, rfl⟩ := Option.map_eq_some_iff.1 h
  rw [matchAt_eq_head?] at hw
  exact ⟨w, List.mem_of_head? hw, rfl⟩

theorem exists_at?_of_mem_findAllFrom {pattern : Pattern} {before : Option Char}
    {position start : Nat} {text : List Char} {m : Match}
    (h : m ∈ findAllFrom pattern before position start text) :
    ∃ p passed, Place.Reaches ⟨before, position, text⟩ p passed ∧ pattern.at? p = some m := by
  induction text generalizing before position start with
  | nil =>
    rw [findAllFrom] at h
    split at h
    · exact ⟨_, [], .refl _, Option.mem_toList.1 h⟩
    · cases h
  | cons c rest ih =>
    have hlater : ∀ {start}, m ∈ findAllFrom pattern (some c) (position + 1) start rest →
        ∃ p passed, Place.Reaches ⟨before, position, c :: rest⟩ p passed ∧
          pattern.at? p = some m := by
      intro start h
      obtain ⟨p, passed, hreaches, hp⟩ := ih h
      exact ⟨p, c :: passed, .trans (.step rfl) hreaches, hp⟩
    rw [findAllFrom] at h
    split at h
    · split at h
      · rename_i found hfound
        obtain rfl | h := List.mem_cons.1 h
        · exact ⟨_, [], .refl _, hfound⟩
        · exact hlater h
      · exact hlater h
    · exact hlater h

/-- **A match is a way of matching somewhere in the text.** -/
theorem exists_way_of_mem_findAll {pattern : Pattern} {text : List Char} {m : Match}
    (hm : m ∈ findAll pattern text) : ∃ p passed, (Place.start text).Reaches p passed ∧
      ∃ w ∈ ways pattern p [], m = ⟨p.position, w.1.position, w.2⟩ := by
  obtain ⟨p, passed, hreaches, hp⟩ := exists_at?_of_mem_findAllFrom hm
  exact ⟨p, passed, hreaches, exists_way_of_at? hp⟩

/-- What a slot of a match holds was remembered on a way of matching somewhere in the text. -/
theorem exists_capture_of_text? {pattern : Pattern} {text : List Char} {m : Match}
    (hm : m ∈ findAll pattern text) {slot : Nat} {held : String}
    (hheld : m.text? slot = some held) :
    ∃ p passed, (Place.start text).Reaches p passed ∧
      ∃ w ∈ ways pattern p [], ∃ c ∈ w.2, c.2.text = held.toList := by
  obtain ⟨p, passed, hreaches, w, hw, rfl⟩ := exists_way_of_mem_findAll hm
  obtain ⟨span, hspan, rfl⟩ := Option.map_eq_some_iff.1 hheld
  obtain ⟨earlier, later, hsplit, -⟩ := List.lookup_eq_some_iff.1 hspan
  have hmem : (slot, span) ∈ w.2 := by
    dsimp only at hsplit
    rw [hsplit]
    exact List.mem_append_right _ List.mem_cons_self
  exact ⟨p, passed, hreaches, w, hw, _, hmem, String.toList_ofList.symm⟩

/-- **Whatever slot of a match holds a text, it is one that the pattern remembers.** -/
theorem text?_of_mem_findAll {pattern : Pattern} (hpattern : pattern.Remembers property)
    {text : List Char} {m : Match} (hm : m ∈ findAll pattern text) {slot : Nat} {held : String}
    (hheld : m.text? slot = some held) : property held.toList := by
  obtain ⟨p, passed, -, w, hw, c, hc, hheld⟩ := exists_capture_of_text? hm hheld
  have hnone : ∀ c ∈ ([] : Captures), property c.2.text := nofun
  rw [← hheld]
  exact ways_remember hpattern hnone w hw c hc

/-! ### Replacing -/

theorem mem_of_mem_piecesFrom {position : Nat} {text kept : List Char} {found : List Match}
    (h : Piece.plain kept ∈ piecesFrom position text found) : kept ⊆ text := by
  induction found generalizing position text with
  | nil =>
    cases List.mem_singleton.1 h
    exact List.Subset.refl _
  | cons m later ih =>
    rw [piecesFrom] at h
    obtain h | h := List.mem_cons.1 h
    · cases h
      exact List.take_subset _ _
    · obtain h | h := List.mem_cons.1 h
      · cases h
      · exact List.Subset.trans (ih h) (List.drop_subset _ _)

theorem mem_of_found_mem_piecesFrom {position : Nat} {text : List Char} {found : List Match}
    {m : Match} (h : Piece.found m ∈ piecesFrom position text found) : m ∈ found := by
  induction found generalizing position text with
  | nil => cases List.mem_singleton.1 h
  | cons first later ih =>
    rw [piecesFrom] at h
    obtain h | h := List.mem_cons.1 h
    · cases h
    · obtain h | h := List.mem_cons.1 h
      · cases h
        exact List.mem_cons_self
      · exact List.mem_cons_of_mem first (ih h)

/-- **A character of a text with replacements is one of the text or of a replacement.** -/
theorem mem_replaceAll {pattern : Pattern} {replacement text : List Char} {c : Char}
    (h : c ∈ replaceAll pattern replacement text) : c ∈ text ∨ c ∈ replacement := by
  obtain ⟨piece, hpiece, hc⟩ := List.mem_flatMap.1 h
  cases piece with
  | plain kept => exact .inl (mem_of_mem_piecesFrom hpiece hc)
  | found m => exact .inr hc

end Pattern

end NavGraph

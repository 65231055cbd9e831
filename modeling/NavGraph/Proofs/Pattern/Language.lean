import NavGraph.Proofs.Pattern.Running
import NavGraph.Proofs.Pattern.Spelling

/-!
# The language of a pattern

A pattern that remembers nothing and does not look for the ends of the text is a regular expression:
whether it takes a text hangs on the text, and on the characters before and behind it where the
pattern tests for a place.  This module says which texts it takes without saying how they are found.

## Main definitions

* `Pattern.isSimple` - patterns without slots that do not look for the ends of the text
* `Pattern.Accepts` - the texts that such a pattern takes between two characters
* `Pattern.isBlind`, `Pattern.avoids` - what a pattern does not look at, and does not take

## Main statements

* `mem_ways_iff_accepts` - the ways of matching are the texts that are taken
* `Accepts.congr_next` - where no place is tested, the text behind does not matter
* `Accepts.not_mem` - what a pattern avoids is in no text that it takes
-/

namespace NavGraph

namespace Pattern

/-! ### Taken texts -/

/-- Whether a pattern remembers nothing and does not look for the ends of the text. -/
def isSimple : Pattern → Bool
  | seq first second | alt first second => first.isSimple && second.isSimple
  | capture _ _ | textStart | textEnd => false
  | _ => true

/-- **The texts that a simple pattern takes**, between a character before them and one behind them;
either may be missing. -/
def Accepts : Pattern → Option Char → List Char → Option Char → Prop
  | empty, _, taken, _ => taken = []
  | char ok, _, taken, _ => ∃ c, taken = [c] ∧ ok c = true
  | seq first second, before, taken, next => ∃ front back, taken = front ++ back ∧
      first.Accepts before front (back.head?.or next) ∧
      second.Accepts (front.getLast?.or before) back next
  | alt first second, before, taken, next =>
      first.Accepts before taken next ∨ second.Accepts before taken next
  | many ok, _, taken, _ | few ok, _, taken, _ => ∀ c ∈ taken, ok c = true
  | wordEdge, before, taken, next =>
      taken = [] ∧ (before.any Text.isWord != next.any Text.isWord) = true
  | notAfter ok, before, taken, _ => taken = [] ∧ before.any ok = false
  | capture _ _, _, _, _ | textStart, _, _, _ | textEnd, _, _, _ => False

section

variable {ok : Char → Bool} {before : Option Char} {position : Nat} {text : List Char} {q : Place}

theorem mem_manyWays_iff : q ∈ manyWays ok before position text ↔ ∃ taken rest,
    text = taken ++ rest ∧ (∀ c ∈ taken, ok c = true) ∧
      q = Place.after ⟨before, position, text⟩ taken rest := by
  induction text generalizing before position with
  | nil =>
    rw [manyWays, List.mem_singleton]
    constructor
    · rintro rfl
      exact ⟨[], [], rfl, List.forall_mem_nil _, rfl⟩
    · rintro ⟨taken, rest, htext, -, rfl⟩
      obtain ⟨rfl, rfl⟩ := List.append_eq_nil_iff.1 htext.symm
      rfl
  | cons c text ih =>
    have hstep : ∀ {taken rest : List Char}, Place.after ⟨some c, position + 1, text⟩ taken rest =
        Place.after ⟨before, position, c :: text⟩ (c :: taken) rest :=
      Place.step_after (p := ⟨before, position, c :: text⟩)
    rw [manyWays, List.mem_append, List.mem_ite_nil_right, ih, List.mem_singleton]
    constructor
    · rintro (⟨hc, taken, rest, rfl, htaken, rfl⟩ | rfl)
      · exact ⟨c :: taken, rest, rfl, List.forall_mem_cons.2 ⟨hc, htaken⟩, hstep⟩
      · exact ⟨[], c :: text, rfl, List.forall_mem_nil _, rfl⟩
    · rintro ⟨taken, rest, htext, htaken, rfl⟩
      obtain ⟨rfl, rfl⟩ | ⟨taken, rfl, rfl⟩ := List.append_eq_cons_iff.1 htext.symm
      · exact .inr rfl
      · obtain ⟨hc, htaken⟩ := List.forall_mem_cons.1 htaken
        exact .inl ⟨hc, taken, rest, rfl, htaken, hstep.symm⟩

/-- Trying short runs first finds the same runs. -/
theorem mem_fewWays_iff_mem_manyWays :
    q ∈ fewWays ok before position text ↔ q ∈ manyWays ok before position text := by
  induction text generalizing before position with
  | nil => rfl
  | cons c text ih =>
    rw [fewWays, manyWays, List.mem_cons, List.mem_append, List.mem_singleton,
      List.mem_ite_nil_right, List.mem_ite_nil_right, ih, or_comm]

end

variable {pattern : Pattern} {p : Place} {cs : Captures} {w : Place × Captures}

/-- A test for a place takes nothing. -/
theorem eq_iff_exists_nil (holds : Option Char → Prop) :
    holds p.rest.head? ∧ w = (p, cs) ↔ ∃ taken rest, p.rest = taken ++ rest ∧
      (taken = [] ∧ holds rest.head?) ∧ w = (p.after taken rest, cs) := by
  constructor
  · rintro ⟨hholds, rfl⟩
    exact ⟨[], p.rest, rfl, ⟨rfl, hholds⟩, rfl⟩
  · rintro ⟨taken, rest, hrest, ⟨rfl, hholds⟩, rfl⟩
    rw [List.nil_append] at hrest
    rw [Place.after_nil hrest, hrest]
    exact ⟨hholds, rfl⟩

theorem mem_ways_many_iff {ok : Char → Bool} : w ∈ ways (many ok) p cs ↔ ∃ taken rest,
    p.rest = taken ++ rest ∧ (∀ c ∈ taken, ok c = true) ∧ w = (p.after taken rest, cs) := by
  rw [mem_ways_many]
  constructor
  · rintro ⟨q, hq, rfl⟩
    obtain ⟨taken, rest, hrest, htaken, rfl⟩ := mem_manyWays_iff.1 hq
    exact ⟨taken, rest, hrest, htaken, rfl⟩
  · rintro ⟨taken, rest, hrest, htaken, rfl⟩
    exact ⟨_, mem_manyWays_iff.2 ⟨taken, rest, hrest, htaken, rfl⟩, rfl⟩

/-- **The ways of matching are the texts that are taken**, by induction on the pattern: what a
sequence takes falls into two parts, and each part stands beside the other. -/
theorem mem_ways_iff_accepts (h : pattern.isSimple = true) : w ∈ ways pattern p cs ↔
    ∃ taken rest, p.rest = taken ++ rest ∧ pattern.Accepts p.before taken rest.head? ∧
      w = (p.after taken rest, cs) := by
  induction pattern generalizing p w with
  | empty =>
    rw [mem_ways_empty, ← true_and (w = (p, cs)), eq_iff_exists_nil fun _ => True]
    simp only [Accepts, and_true]
  | char ok =>
    rw [mem_ways_char]
    constructor
    · rintro ⟨c, rest, hrest, hc, rfl⟩
      exact ⟨[c], rest, hrest, ⟨c, rfl, hc⟩, rfl⟩
    · rintro ⟨_, rest, hrest, ⟨c, rfl, hc⟩, rfl⟩
      exact ⟨c, rest, hrest, hc, rfl⟩
  | seq first second ih₁ ih₂ =>
    obtain ⟨hfirst, hsecond⟩ := Bool.and_eq_true_iff.1 h
    rw [mem_ways_seq]
    constructor
    · rintro ⟨v, hv, hw⟩
      obtain ⟨front, rest, hrest, hfront, rfl⟩ := (ih₁ hfirst).1 hv
      obtain ⟨back, rest', rfl, hback, rfl⟩ := (ih₂ hsecond).1 hw
      rw [List.head?_append] at hfront
      refine ⟨front ++ back, rest', ?_, ⟨front, back, rfl, hfront, hback⟩, ?_⟩
      · rw [hrest, List.append_assoc]
      · rw [Place.after_after]
    · rintro ⟨_, rest, hrest, ⟨front, back, rfl, hfront, hback⟩, rfl⟩
      rw [List.append_assoc] at hrest
      rw [← List.head?_append] at hfront
      refine ⟨_, (ih₁ hfirst).2 ⟨front, back ++ rest, hrest, hfront, rfl⟩, ?_⟩
      exact (ih₂ hsecond).2 ⟨back, rest, rfl, hback, by rw [Place.after_after]⟩
  | alt first second ih₁ ih₂ =>
    obtain ⟨hfirst, hsecond⟩ := Bool.and_eq_true_iff.1 h
    rw [mem_ways_alt, ih₁ hfirst, ih₂ hsecond]
    constructor
    · rintro (⟨taken, rest, hrest, haccepts, rfl⟩ | ⟨taken, rest, hrest, haccepts, rfl⟩)
      · exact ⟨taken, rest, hrest, .inl haccepts, rfl⟩
      · exact ⟨taken, rest, hrest, .inr haccepts, rfl⟩
    · rintro ⟨taken, rest, hrest, haccepts | haccepts, rfl⟩
      · exact .inl ⟨taken, rest, hrest, haccepts, rfl⟩
      · exact .inr ⟨taken, rest, hrest, haccepts, rfl⟩
  | many ok => exact mem_ways_many_iff
  | few ok =>
    refine Iff.trans ?_ mem_ways_many_iff
    rw [mem_ways_few, mem_ways_many]
    simp only [mem_fewWays_iff_mem_manyWays]
  | capture slot body => cases h
  | textStart => cases h
  | textEnd => cases h
  | wordEdge => exact mem_ways_wordEdge.trans (eq_iff_exists_nil
      fun next => (p.before.any Text.isWord != next.any Text.isWord) = true)
  | notAfter ok =>
    exact mem_ways_notAfter.trans (eq_iff_exists_nil fun _ => p.before.any ok = false)

/-! ### What a pattern does not look at -/

/-- Whether a pattern does not look at what stands behind the text that it takes. -/
def isBlind : Pattern → Bool
  | seq first second | alt first second => first.isBlind && second.isBlind
  | wordEdge => false
  | _ => true

/-- Whether a pattern takes a given character nowhere. -/
def avoids (c : Char) : Pattern → Bool
  | seq first second | alt first second => first.avoids c && second.avoids c
  | char ok | many ok | few ok => !ok c
  | _ => true

variable {before next : Option Char} {taken : List Char}

/-- **Where no place is tested, the text behind does not matter.** -/
theorem Accepts.congr_next (h : pattern.isBlind = true) (next' : Option Char)
    (haccepts : pattern.Accepts before taken next) : pattern.Accepts before taken next' := by
  induction pattern generalizing before taken next next' with
  | seq first second ih₁ ih₂ =>
    obtain ⟨hfirst, hsecond⟩ := Bool.and_eq_true_iff.1 h
    obtain ⟨front, back, rfl, hfront, hback⟩ := haccepts
    exact ⟨front, back, rfl, ih₁ hfirst _ hfront, ih₂ hsecond _ hback⟩
  | alt first second ih₁ ih₂ =>
    obtain ⟨hfirst, hsecond⟩ := Bool.and_eq_true_iff.1 h
    exact haccepts.imp (ih₁ hfirst _) (ih₂ hsecond _)
  | wordEdge => cases h
  | _ => exact haccepts

/-- **What a pattern avoids is in no text that it takes.** -/
theorem Accepts.not_mem {c : Char} (h : pattern.avoids c = true)
    (haccepts : pattern.Accepts before taken next) : c ∉ taken := by
  induction pattern generalizing before taken next with
  | seq first second ih₁ ih₂ =>
    obtain ⟨hfirst, hsecond⟩ := Bool.and_eq_true_iff.1 h
    obtain ⟨front, back, rfl, hfront, hback⟩ := haccepts
    exact List.not_mem_append (ih₁ hfirst hfront) (ih₂ hsecond hback)
  | alt first second ih₁ ih₂ =>
    obtain ⟨hfirst, hsecond⟩ := Bool.and_eq_true_iff.1 h
    exact haccepts.elim (ih₁ hfirst) (ih₂ hsecond)
  | char ok =>
    obtain ⟨d, rfl, hd⟩ := haccepts
    rintro hmem
    obtain rfl := List.mem_singleton.1 hmem
    simp [avoids, hd] at h
  | many ok | few ok =>
    intro hmem
    simp [avoids, haccepts c hmem] at h
  | empty => simp [show taken = [] from haccepts]
  | wordEdge | notAfter ok => simp [haccepts.1]
  | capture slot body | textStart | textEnd => cases haccepts

/-! ### Sequences -/

/-- **A sequence takes what its first part takes, and what the others take behind it.** -/
theorem accepts_sequence_cons {first : Pattern} {others : List Pattern} :
    (sequence (first :: others)).Accepts before taken next ↔
      (seq first (sequence others)).Accepts before taken next := by
  cases others with
  | nil =>
    constructor
    · exact fun h => ⟨taken, [], (List.append_nil _).symm, h, rfl⟩
    · rintro ⟨front, back, rfl, hfront, rfl⟩
      rwa [List.append_nil]
  | cons second others => rfl

@[simp] theorem isSimple_sequence {patterns : List Pattern} :
    (sequence patterns).isSimple = patterns.all isSimple := by
  induction patterns with
  | nil => rfl
  | cons first others ih =>
    rw [List.all_cons, ← ih]
    cases others with
    | nil => exact (Bool.and_true _).symm
    | cons second others => rfl

@[simp] theorem accepts_char {ok : Char → Bool} :
    (char ok).Accepts before taken next ↔ ∃ c, taken = [c] ∧ ok c = true := Iff.rfl

@[simp] theorem accepts_single {c : Char} :
    (single c).Accepts before taken next ↔ taken = [c] := by
  simp [single]

end Pattern

end NavGraph

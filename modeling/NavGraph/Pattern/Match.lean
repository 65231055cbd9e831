import NavGraph.Pattern.Basic

/-!
# Matching at a place

A pattern is matched at a place of a text by trying its ways of matching in order.  What follows
the pattern is a continuation; the first way that the continuation accepts is the answer.

## Main definitions

* `Place` - a place of a text: the character before it, its position, and the text after it
* `Pattern.run` - the first way of matching that a continuation accepts
* `Pattern.ways` - all ways of matching, in order
* `Pattern.matchAt` - the first way of matching

## Main statements

* `run_eq_findSome?_ways` - running a pattern is searching its ways in order

## Design notes

`run` never builds the list of ways: on a long text a lazy repetition would have as many as the
text has characters.  `ways` says the same without continuations, and proofs are about it.
-/

namespace NavGraph

/-- A place of a text. -/
structure Place where
  /-- The character before the place, if there is one. -/
  before : Option Char
  /-- How many characters stand before the place. -/
  position : Nat
  /-- The text after the place. -/
  rest : List Char
  deriving DecidableEq, Repr, Inhabited

namespace Place

/-- The place before a text. -/
def start (text : List Char) : Place := ⟨none, 0, text⟩

/-- The place behind the next character, with the text that follows it. -/
def step (p : Place) (c : Char) (rest : List Char) : Place := ⟨some c, p.position + 1, rest⟩

/-- Whether the text ends here, or ends behind the line feed that stands here. -/
def atTextEnd (p : Place) : Bool :=
  match p.rest with
  | [] => true
  | [c] => c == '\n'
  | _ => false

/-- Whether exactly one of the two neighbouring characters is a word character. -/
def atWordEdge (p : Place) : Bool :=
  (p.before.any Text.isWord) != (p.rest.head?.any Text.isWord)

/-- The text between this place and a later one of the same text. -/
def textTo (p q : Place) : List Char := p.rest.take (q.position - p.position)

end Place

/-- A remembered text and the position at which it starts. -/
structure Span where
  start : Nat
  text : List Char
  deriving DecidableEq, Repr, Inhabited

/-- Remembered texts by slot, the latest first. -/
abbrev Captures := List (Nat × Span)

namespace Captures

/-- The text remembered last in a slot. -/
def get? (captures : Captures) (slot : Nat) : Option Span := captures.lookup slot

/-- The text remembered in a slot, as a string. -/
def text? (captures : Captures) (slot : Nat) : Option String :=
  (captures.get? slot).map fun span => String.ofList span.text

end Captures

namespace Pattern

/-- Consume characters of a class, trying to go on before trying to stop. -/
def runMany {α : Type} (ok : Char → Bool) (k : Place → Option α) (before : Option Char)
    (position : Nat) : List Char → Option α
  | [] => k ⟨before, position, []⟩
  | c :: rest =>
      if ok c then
        match runMany ok k (some c) (position + 1) rest with
        | some answer => some answer
        | none => k ⟨before, position, c :: rest⟩
      else k ⟨before, position, c :: rest⟩

/-- Consume characters of a class, trying to stop before trying to go on. -/
def runFew {α : Type} (ok : Char → Bool) (k : Place → Option α) (before : Option Char)
    (position : Nat) : List Char → Option α
  | [] => k ⟨before, position, []⟩
  | c :: rest =>
      match k ⟨before, position, c :: rest⟩ with
      | some answer => some answer
      | none => if ok c then runFew ok k (some c) (position + 1) rest else none

/-- The first way of matching, in order, that the continuation accepts. -/
def run {α : Type} : Pattern → (Place → Captures → Option α) → Place → Captures → Option α
  | empty, k, p, cs => k p cs
  | char ok, k, p, cs =>
      match p.rest with
      | [] => none
      | c :: rest => if ok c then k (p.step c rest) cs else none
  | seq first second, k, p, cs => run first (run second k) p cs
  | alt first second, k, p, cs =>
      match run first k p cs with
      | some answer => some answer
      | none => run second k p cs
  | many ok, k, p, cs => runMany ok (fun q => k q cs) p.before p.position p.rest
  | few ok, k, p, cs => runFew ok (fun q => k q cs) p.before p.position p.rest
  | capture slot body, k, p, cs =>
      run body (fun q cs' => k q ((slot, ⟨p.position, p.textTo q⟩) :: cs')) p cs
  | textStart, k, p, cs => if p.position = 0 then k p cs else none
  | textEnd, k, p, cs => if p.atTextEnd then k p cs else none
  | wordEdge, k, p, cs => if p.atWordEdge then k p cs else none
  | notAfter ok, k, p, cs => if p.before.any ok then none else k p cs

/-- Places that a run of characters of a class can end at, the farthest first. -/
def manyWays (ok : Char → Bool) (before : Option Char) (position : Nat) : List Char → List Place
  | [] => [⟨before, position, []⟩]
  | c :: rest =>
      (if ok c then manyWays ok (some c) (position + 1) rest else []) ++
        [⟨before, position, c :: rest⟩]

/-- Places that a run of characters of a class can end at, the nearest first. -/
def fewWays (ok : Char → Bool) (before : Option Char) (position : Nat) : List Char → List Place
  | [] => [⟨before, position, []⟩]
  | c :: rest =>
      ⟨before, position, c :: rest⟩ ::
        (if ok c then fewWays ok (some c) (position + 1) rest else [])

/-- All ways of matching, in the order in which they are tried. -/
def ways : Pattern → Place → Captures → List (Place × Captures)
  | empty, p, cs => [(p, cs)]
  | char ok, p, cs =>
      match p.rest with
      | [] => []
      | c :: rest => if ok c then [(p.step c rest, cs)] else []
  | seq first second, p, cs => (ways first p cs).flatMap fun w => ways second w.1 w.2
  | alt first second, p, cs => ways first p cs ++ ways second p cs
  | many ok, p, cs => (manyWays ok p.before p.position p.rest).map (·, cs)
  | few ok, p, cs => (fewWays ok p.before p.position p.rest).map (·, cs)
  | capture slot body, p, cs =>
      (ways body p cs).map fun w => (w.1, (slot, ⟨p.position, p.textTo w.1⟩) :: w.2)
  | textStart, p, cs => if p.position = 0 then [(p, cs)] else []
  | textEnd, p, cs => if p.atTextEnd then [(p, cs)] else []
  | wordEdge, p, cs => if p.atWordEdge then [(p, cs)] else []
  | notAfter ok, p, cs => if p.before.any ok then [] else [(p, cs)]

/-- The first way of matching at a place. -/
def matchAt (pattern : Pattern) (p : Place) : Option (Place × Captures) :=
  run pattern (fun q cs => some (q, cs)) p []

theorem findSome?_flatMap {α β γ : Type} (xs : List α) (f : α → List β) (g : β → Option γ) :
    (xs.flatMap f).findSome? g = xs.findSome? fun x => (f x).findSome? g := by
  induction xs with
  | nil => rfl
  | cons x xs ih =>
      rw [List.flatMap_cons, List.findSome?_append, List.findSome?_cons, ih]
      cases (f x).findSome? g <;> rfl

theorem runMany_eq_findSome? {α : Type} (ok : Char → Bool) (k : Place → Option α)
    (before : Option Char) (position : Nat) (rest : List Char) :
    runMany ok k before position rest = (manyWays ok before position rest).findSome? k := by
  induction rest generalizing before position with
  | nil => simp [runMany, manyWays]
  | cons c rest ih =>
      rw [runMany, manyWays]
      split
      · rw [ih, List.findSome?_append]
        cases (manyWays ok (some c) (position + 1) rest).findSome? k <;> simp
      · simp

theorem runFew_eq_findSome? {α : Type} (ok : Char → Bool) (k : Place → Option α)
    (before : Option Char) (position : Nat) (rest : List Char) :
    runFew ok k before position rest = (fewWays ok before position rest).findSome? k := by
  induction rest generalizing before position with
  | nil => simp [runFew, fewWays]
  | cons c rest ih =>
      rw [runFew, fewWays, List.findSome?_cons]
      cases k ⟨before, position, c :: rest⟩ with
      | some answer => rfl
      | none =>
          simp only
          split
          · exact ih _ _
          · rfl

/-- **Running a pattern is searching its ways in order**: the answer is the continuation's answer
at the first way of matching that it accepts. -/
theorem run_eq_findSome?_ways {α : Type} (pattern : Pattern) (k : Place → Captures → Option α)
    (p : Place) (cs : Captures) :
    run pattern k p cs = (ways pattern p cs).findSome? fun w => k w.1 w.2 := by
  induction pattern generalizing k p cs with
  | empty => simp [run, ways]
  | char ok =>
      rw [run, ways]
      split
      · rfl
      · split <;> simp
  | seq first second ih₁ ih₂ =>
      rw [run, ways, ih₁, findSome?_flatMap]
      congr 1
      funext w
      exact ih₂ _ _ _
  | alt first second ih₁ ih₂ =>
      rw [run, ways, ih₁, ih₂, List.findSome?_append]
      cases (ways first p cs).findSome? fun w => k w.1 w.2 <;> rfl
  | many ok =>
      rw [run, ways, runMany_eq_findSome?, List.findSome?_map]
      rfl
  | few ok =>
      rw [run, ways, runFew_eq_findSome?, List.findSome?_map]
      rfl
  | capture slot body ih =>
      rw [run, ways, ih, List.findSome?_map]
      rfl
  | textStart => rw [run, ways]; split <;> simp
  | textEnd => rw [run, ways]; split <;> simp
  | wordEdge => rw [run, ways]; split <;> simp
  | notAfter ok => rw [run, ways]; split <;> simp

/-! ### Ways of matching, constructor by constructor -/

section

variable {p : Place} {cs : Captures} {w : Place × Captures} {ok : Char → Bool}

theorem mem_ways_empty : w ∈ ways empty p cs ↔ w = (p, cs) := List.mem_singleton

theorem mem_ways_char : w ∈ ways (char ok) p cs ↔
    ∃ c rest, p.rest = c :: rest ∧ ok c = true ∧ w = (p.step c rest, cs) := by
  show w ∈ (match p.rest with
    | [] => []
    | c :: rest => if ok c then [(p.step c rest, cs)] else []) ↔ _
  cases p.rest with
  | nil => exact iff_of_false List.not_mem_nil nofun
  | cons d tail =>
    dsimp only
    rw [List.mem_ite_nil_right, List.mem_singleton]
    constructor
    · exact fun h => ⟨d, tail, rfl, h⟩
    · rintro ⟨c, rest, ⟨⟩, h⟩
      exact h

theorem mem_ways_seq {first second : Pattern} : w ∈ ways (seq first second) p cs ↔
    ∃ v ∈ ways first p cs, w ∈ ways second v.1 v.2 := List.mem_flatMap

theorem mem_ways_alt {first second : Pattern} : w ∈ ways (alt first second) p cs ↔
    w ∈ ways first p cs ∨ w ∈ ways second p cs := List.mem_append

theorem mem_ways_many : w ∈ ways (many ok) p cs ↔
    ∃ q ∈ manyWays ok p.before p.position p.rest, w = (q, cs) :=
  List.mem_map.trans (exists_congr fun _ => and_congr_right fun _ => eq_comm)

theorem mem_ways_few : w ∈ ways (few ok) p cs ↔
    ∃ q ∈ fewWays ok p.before p.position p.rest, w = (q, cs) :=
  List.mem_map.trans (exists_congr fun _ => and_congr_right fun _ => eq_comm)

theorem mem_ways_capture {slot : Nat} {body : Pattern} : w ∈ ways (capture slot body) p cs ↔
    ∃ v ∈ ways body p cs, w = (v.1, (slot, ⟨p.position, p.textTo v.1⟩) :: v.2) :=
  List.mem_map.trans (exists_congr fun _ => and_congr_right fun _ => eq_comm)

theorem mem_ways_textStart : w ∈ ways textStart p cs ↔ p.position = 0 ∧ w = (p, cs) :=
  List.mem_ite_nil_right.trans (and_congr_right fun _ => List.mem_singleton)

theorem mem_ways_textEnd : w ∈ ways textEnd p cs ↔ p.atTextEnd = true ∧ w = (p, cs) :=
  List.mem_ite_nil_right.trans (and_congr_right fun _ => List.mem_singleton)

theorem mem_ways_wordEdge : w ∈ ways wordEdge p cs ↔ p.atWordEdge = true ∧ w = (p, cs) :=
  List.mem_ite_nil_right.trans (and_congr_right fun _ => List.mem_singleton)

theorem mem_ways_notAfter : w ∈ ways (notAfter ok) p cs ↔
    p.before.any ok = false ∧ w = (p, cs) :=
  List.mem_ite_nil_left.trans (and_congr Bool.eq_false_iff.symm List.mem_singleton)

end

/-- The first match is the first way. -/
theorem matchAt_eq_head? (pattern : Pattern) (p : Place) :
    matchAt pattern p = (ways pattern p []).head? := by
  rw [matchAt, run_eq_findSome?_ways]
  cases ways pattern p [] <;> simp

end Pattern

end NavGraph

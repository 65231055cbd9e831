import Mathlib.Data.List.Forall2
import NavGraph.Proofs.Pattern.Running

/-!
# Matches farther on

Most patterns do not look at what stands before them.  Where such a pattern matches depends on the
text behind its place only: the same text farther on has the same matches, farther on by as much.

## Main definitions

* `Pattern.isForward` - patterns that do not look at what stands before their place
* `Place.IsMoved` - a place with the same text behind it, farther on
* `Captures.moved`, `Match.moved` - what is remembered, and a match, farther on

## Main statements

* `ways_moved` - the ways of matching are the same, in the same order
* `findAllFrom_moved` - and so are the matches that a search finds
* `findAll_of_match` - what is found behind a first match
-/

namespace NavGraph

variable {n : Nat}

/-! ### Places, captures and matches -/

/-- A place with the same text behind it, `n` characters farther on.  What stands before it may
differ. -/
structure Place.IsMoved (n : Nat) (p q : Place) : Prop where
  rest_eq : q.rest = p.rest
  position_eq : q.position = p.position + n

theorem Place.isMoved_mk (before before' : Option Char) (position : Nat) (rest : List Char) :
    (⟨before, position, rest⟩ : Place).IsMoved n ⟨before', position + n, rest⟩ := ⟨rfl, rfl⟩

/-- The text between two places is the same farther on. -/
theorem Place.IsMoved.textTo_eq {p p' q q' : Place} (h : p.IsMoved n q) (h' : p'.IsMoved n q') :
    q.textTo q' = p.textTo p' := by
  rw [Place.textTo, Place.textTo, h.rest_eq, h.position_eq, h'.position_eq, Nat.add_sub_add_right]

/-- What is remembered `n` characters farther on. -/
def Captures.moved (n : Nat) (cs : Captures) : Captures :=
  cs.map fun c => (c.1, ⟨c.2.start + n, c.2.text⟩)

/-- A match `n` characters farther on. -/
def Match.moved (n : Nat) (m : Match) : Match := ⟨m.start + n, m.stop + n, m.captures.moved n⟩

@[simp] theorem Captures.text?_moved (cs : Captures) (slot : Nat) :
    (cs.moved n).text? slot = cs.text? slot := by
  induction cs with
  | nil => rfl
  | cons c cs ih =>
    obtain ⟨other, span⟩ := c
    simp only [Captures.text?, Captures.get?, Captures.moved, List.map_cons, List.lookup_cons]
      at ih ⊢
    cases slot == other with
    | true => rfl
    | false => exact ih

@[simp] theorem Match.text?_moved (m : Match) (slot : Nat) :
    (m.moved n).text? slot = m.text? slot :=
  Captures.text?_moved m.captures slot

namespace Pattern

/-- Whether a pattern does not look at what stands before its place. -/
def isForward : Pattern → Bool
  | seq first second | alt first second => first.isForward && second.isForward
  | capture _ body => body.isForward
  | textStart | wordEdge | notAfter _ => false
  | _ => true

/-! ### Ways of matching -/

/-- A way of matching with the same text left, `n` characters farther on. -/
def IsMovedWay (n : Nat) (v w : Place × Captures) : Prop := v.1.IsMoved n w.1 ∧ w.2 = v.2.moved n

variable {pattern : Pattern} {p q : Place} {ok : Char → Bool} {before before' : Option Char}

theorem manyWays_moved (position : Nat) (text : List Char) :
    List.Forall₂ (Place.IsMoved n) (manyWays ok before position text)
      (manyWays ok before' (position + n) text) := by
  induction text generalizing before before' position with
  | nil => exact .cons ⟨rfl, rfl⟩ .nil
  | cons c text ih =>
    rw [manyWays, manyWays]
    refine List.rel_append ?_ (.cons ⟨rfl, rfl⟩ .nil)
    split
    · rw [Nat.add_right_comm]
      exact ih _
    · exact .nil

theorem fewWays_moved (position : Nat) (text : List Char) :
    List.Forall₂ (Place.IsMoved n) (fewWays ok before position text)
      (fewWays ok before' (position + n) text) := by
  induction text generalizing before before' position with
  | nil => exact .cons ⟨rfl, rfl⟩ .nil
  | cons c text ih =>
    rw [fewWays, fewWays]
    refine .cons ⟨rfl, rfl⟩ ?_
    split
    · rw [Nat.add_right_comm]
      exact ih _
    · exact .nil

/-- **The same text farther on is matched in the same ways, in the same order**, by induction on the
pattern: a place farther on leads to places farther on, and what a slot takes in between is the
same text. -/
theorem ways_moved (h : pattern.isForward = true) (hq : p.IsMoved n q) (cs : Captures) :
    List.Forall₂ (IsMovedWay n) (ways pattern p cs) (ways pattern q (cs.moved n)) := by
  induction pattern generalizing p q cs with
  | empty => exact .cons ⟨hq, rfl⟩ .nil
  | char ok =>
    rw [ways, ways, hq.rest_eq]
    split
    · exact .nil
    · split
      · refine .cons ⟨⟨rfl, ?_⟩, rfl⟩ .nil
        rw [Place.step, Place.step, hq.position_eq, Nat.add_right_comm]
      · exact .nil
  | seq first second ih₁ ih₂ =>
    obtain ⟨hfirst, hsecond⟩ := Bool.and_eq_true_iff.1 h
    refine List.rel_flatMap (ih₁ hfirst hq cs) ?_
    rintro ⟨p', cs'⟩ ⟨q', _⟩ ⟨hq', rfl⟩
    exact ih₂ hsecond hq' cs'
  | alt first second ih₁ ih₂ =>
    obtain ⟨hfirst, hsecond⟩ := Bool.and_eq_true_iff.1 h
    exact List.rel_append (ih₁ hfirst hq cs) (ih₂ hsecond hq cs)
  | many ok =>
    rw [ways, ways, hq.rest_eq, hq.position_eq]
    exact List.rel_map (fun _ _ hmoved => ⟨hmoved, rfl⟩) (manyWays_moved _ _)
  | few ok =>
    rw [ways, ways, hq.rest_eq, hq.position_eq]
    exact List.rel_map (fun _ _ hmoved => ⟨hmoved, rfl⟩) (fewWays_moved _ _)
  | capture slot body ih =>
    refine List.rel_map ?_ (ih h hq cs)
    rintro ⟨p', cs'⟩ ⟨q', _⟩ ⟨hq', rfl⟩
    refine ⟨hq', ?_⟩
    dsimp only at hq' ⊢
    rw [hq.textTo_eq hq', hq.position_eq]
    rfl
  | textEnd =>
    have hend : q.atTextEnd = p.atTextEnd := by rw [Place.atTextEnd, hq.rest_eq, Place.atTextEnd]
    rw [ways, ways, hend]
    split
    · exact .cons ⟨hq, rfl⟩ .nil
    · exact .nil
  | textStart | wordEdge | notAfter ok => cases h

/-! ### Searching -/

/-- A match at a place stands farther on at a place farther on. -/
theorem at?_moved (h : pattern.isForward = true) (hq : p.IsMoved n q) :
    pattern.at? q = (pattern.at? p).map (Match.moved n) := by
  rw [at?, at?, matchAt_eq_head?, matchAt_eq_head?]
  have hways : List.Forall₂ (IsMovedWay n) (ways pattern p []) (ways pattern q []) :=
    ways_moved h hq []
  generalize ways pattern p [] = here, ways pattern q [] = there at hways
  cases hways with
  | nil => rfl
  | cons hway _ =>
    obtain ⟨hplace, hcaptures⟩ := hway
    rw [List.head?_cons, List.head?_cons, Option.map_some, Option.map_some, Option.map_some,
      Match.moved, hq.position_eq, hplace.position_eq, hcaptures]

/-- **A search farther on finds the same matches**, farther on by as much. -/
theorem findAllFrom_moved (h : pattern.isForward = true) (before before' : Option Char)
    (position start : Nat) (text : List Char) :
    findAllFrom pattern before' (position + n) (start + n) text =
      (findAllFrom pattern before position start text).map (Match.moved n) := by
  induction text generalizing before before' position start with
  | nil =>
    rw [findAllFrom, findAllFrom, at?_moved h (Place.isMoved_mk before before' position [])]
    simp only [Nat.add_le_add_iff_right]
    split
    · cases pattern.at? ⟨before, position, []⟩ <;> rfl
    · rfl
  | cons c rest ih =>
    have hlater (start : Nat) : findAllFrom pattern (some c) (position + n + 1) (start + n) rest =
        (findAllFrom pattern (some c) (position + 1) start rest).map (Match.moved n) := by
      rw [Nat.add_right_comm]
      exact ih _ _ _ _
    rw [findAllFrom, findAllFrom,
      at?_moved h (Place.isMoved_mk before before' position (c :: rest))]
    simp only [Nat.add_le_add_iff_right]
    split
    · cases pattern.at? ⟨before, position, c :: rest⟩ with
      | none => exact hlater start
      | some m =>
        have hstart : max (m.moved n).stop (position + n + 1) = max m.stop (position + 1) + n := by
          rw [Match.moved, Nat.add_right_comm position, Nat.add_max_add_right]
        simp only [Option.map_some, List.map_cons, hstart, hlater]
    · exact hlater start

/-- **Behind a first match at the start of a text**, the rest of the text is searched as if it stood
alone. -/
theorem findAll_of_match (h : pattern.isForward = true) {taken rest : List Char}
    {captures : Captures} (hne : taken ≠ [])
    (hmatch : pattern.at? (Place.start (taken ++ rest)) = some ⟨0, taken.length, captures⟩) :
    findAll pattern (taken ++ rest) =
      ⟨0, taken.length, captures⟩ :: (findAll pattern rest).map (Match.moved taken.length) := by
  have hstop : ((Place.start (taken ++ rest)).after taken rest).position = 0 + taken.length := rfl
  have hlater := findAllFrom_moved (n := taken.length) h none
    ((Place.start (taken ++ rest)).after taken rest).before 0 0 rest
  rw [← Nat.zero_add taken.length, ← hstop] at hmatch
  have hfound := findAllFrom_of_match (Place.start (taken ++ rest)) (Nat.le_refl 0) hne hmatch
  rw [hstop, hlater, Nat.zero_add] at hfound
  exact hfound

/-- The first match of a search farther on is the same, farther on by as much. -/
theorem findFrom?_moved (h : pattern.isForward = true) (before before' : Option Char)
    (position : Nat) (text : List Char) :
    findFrom? pattern before' (position + n) text =
      (findFrom? pattern before position text).map (Match.moved n) := by
  induction text generalizing before before' position with
  | nil => exact at?_moved h (Place.isMoved_mk before before' position [])
  | cons c rest ih =>
    rw [findFrom?, findFrom?, at?_moved h (Place.isMoved_mk before before' position (c :: rest))]
    cases pattern.at? ⟨before, position, c :: rest⟩ with
    | none =>
      rw [Nat.add_right_comm]
      exact ih _ _ _
    | some m => rfl

end Pattern

end NavGraph

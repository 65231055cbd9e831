import NavGraph.Proofs.Pattern.Capture

/-!
# Running a pattern over a known text

Where the text at a place is known, so is the first way of matching: letters that stand there are
taken, an optional part is taken if it stands there and the rest of the pattern goes through behind
it, and a run of a class ends where the class does.  A search passes over what cannot begin a match,
and over what a match has taken.

## Main definitions

* `Place.after` - the place behind a text

## Main statements

* `run_letters`, `run_optional_letters` - letters on texts that spell them
* `run_many`, `run_oneOrMore` - runs of a class on texts that begin with them
* `findAllFrom_append` - what a search passes over
* `at?_of_findAll_eq_nil` - a text in which nothing is found has no match anywhere
-/

namespace NavGraph

/-- The place behind a text that stands at a place, with what follows it. -/
def Place.after (p : Place) (taken rest : List Char) : Place :=
  ⟨taken.getLast?.or p.before, p.position + taken.length, rest⟩

namespace Place

variable {p : Place} {taken later rest rest' : List Char}

@[simp] theorem after_position : (p.after taken rest).position = p.position + taken.length := rfl

@[simp] theorem after_rest : (p.after taken rest).rest = rest := rfl

theorem after_nil (h : p.rest = rest) : p.after [] rest = p := by
  subst h
  rfl

@[simp] theorem after_after :
    (p.after taken rest).after later rest' = p.after (taken ++ later) rest' := by
  simp [after, List.getLast?_append, Option.or_assoc, Nat.add_assoc]

theorem step_after {c : Char} : (p.step c rest).after taken rest' = p.after (c :: taken) rest' :=
  (after_after : (p.after [c] rest).after taken rest' = _)

theorem textTo_after (h : p.rest = taken ++ rest) : p.textTo (p.after taken rest) = taken := by
  rw [textTo, after_position, Nat.add_sub_cancel_left, h, List.take_left]

theorem atTextEnd_iff : p.atTextEnd = true ↔ p.rest = [] ∨ p.rest = ['\n'] := by
  rw [atTextEnd]
  split <;> simp_all

end Place

namespace Pattern

variable {α : Type} {k : Place → Captures → Option α} {p : Place} {cs : Captures} {a : α}
  {letters taken rest : List Char} {pattern : Pattern} {ok : Char → Bool}

/-! ### Letters -/

theorem run_sequence_cons {first : Pattern} {others : List Pattern} :
    run (sequence (first :: others)) k p cs = run first (run (sequence others) k) p cs := by
  cases others with
  | nil => rfl
  | cons second others => rfl

/-- A sequence is run in two parts, wherever it is cut. -/
theorem run_sequence_append {front back : List Pattern} :
    run (sequence (front ++ back)) k p cs =
      run (sequence front) (run (sequence back) k) p cs := by
  induction front generalizing p cs with
  | nil => rfl
  | cons first front ih =>
    rw [List.cons_append, run_sequence_cons, run_sequence_cons]
    congr 1
    funext q cs'
    exact ih

theorem run_single_of_cons {c : Char} (h : p.rest = c :: rest) :
    run (single c) k p cs = k (p.after [c] rest) cs := by
  rw [single, run, h]
  exact if_pos (beq_self_eq_true c)

theorem run_single_eq_none {c : Char} (h : p.rest.head? ≠ some c) :
    run (single c) k p cs = none := by
  rw [single, run]
  split
  · rfl
  · rename_i d tail hrest
    have hd : ¬ (d == c) = true := by
      rw [beq_iff_eq]
      rintro rfl
      exact h (by rw [hrest, List.head?_cons])
    exact if_neg hd

/-- **Letters are taken where they stand.** -/
theorem run_letters (h : p.rest = letters ++ rest) :
    run (sequence (letters.map single)) k p cs = k (p.after letters rest) cs := by
  induction letters generalizing p with
  | nil =>
    rw [List.nil_append] at h
    rw [Place.after_nil h]
    rfl
  | cons c letters ih =>
    rw [List.cons_append] at h
    rw [List.map_cons, run_sequence_cons, run_single_of_cons h, ih Place.after_rest,
      Place.after_after, List.singleton_append]

/-- Letters that do not stand at a place are not taken. -/
theorem run_letters_eq_none (h : ¬ letters <+: p.rest) :
    run (sequence (letters.map single)) k p cs = none := by
  induction letters generalizing p with
  | nil => exact absurd (List.nil_prefix) h
  | cons c letters ih =>
    rw [List.map_cons, run_sequence_cons]
    cases hrest : p.rest with
    | nil => exact run_single_eq_none (by simp [hrest])
    | cons d tail =>
      by_cases hd : d = c
      · subst hd
        rw [run_single_of_cons hrest]
        refine ih fun hprefix => h ?_
        rw [hrest]
        exact (List.prefix_cons_inj d).2 hprefix
      · exact run_single_eq_none (by simpa [hrest] using hd)

/-! ### Optional parts -/

theorem run_optional_of_some (h : run pattern k p cs = some a) :
    run (optional pattern) k p cs = some a := by
  rw [optional, run, h]

theorem run_optional_of_none (h : run pattern k p cs = none) :
    run (optional pattern) k p cs = k p cs := by
  rw [optional, run, h]
  rfl

/-- **Optional letters are taken if they stand at a place** and the rest of the pattern goes through
behind them, and passed over if they do not. -/
theorem run_optional_letters {present : Bool}
    (h : p.rest = (if present then letters else []) ++ rest)
    (habsent : present = false → ¬ letters <+: rest)
    (hk : k (p.after (if present then letters else []) rest) cs = some a) :
    run (optional (sequence (letters.map single))) k p cs = some a := by
  cases present with
  | true =>
    have hletters : p.rest = letters ++ rest := h
    refine run_optional_of_some ?_
    rwa [run_letters hletters]
  | false =>
    have hrest : p.rest = rest := h
    rw [run_optional_of_none (run_letters_eq_none (hrest ▸ habsent rfl))]
    rwa [if_neg Bool.false_ne_true, Place.after_nil hrest] at hk

/-! ### Runs of a class -/

/-- A run is taken whole if the rest of the pattern goes through behind it. -/
theorem runMany_of_some {k : Place → Option α} (p : Place) (htaken : ∀ d ∈ taken, ok d = true)
    (hrest : ∀ d ∈ rest.head?, ok d = false) (hk : k (p.after taken rest) = some a) :
    runMany ok k p.before p.position (taken ++ rest) = some a := by
  induction taken generalizing p with
  | nil =>
    cases rest with
    | nil => exact hk
    | cons c rest =>
      rw [List.nil_append, runMany, if_neg (by simp [hrest c rfl])]
      exact hk
  | cons d taken ih =>
    obtain ⟨hd, htaken⟩ := List.forall_mem_cons.1 htaken
    have hrun := ih (p.step d rest) htaken (by rwa [Place.step_after])
    rw [List.cons_append, runMany, if_pos hd]
    rw [Place.step] at hrun
    rw [hrun]

/-- **A run of a class is taken whole**, up to the end of the text or something else. -/
theorem run_many (h : p.rest = taken ++ rest) (htaken : ∀ d ∈ taken, ok d = true)
    (hrest : ∀ d ∈ rest.head?, ok d = false) (hk : k (p.after taken rest) cs = some a) :
    run (many ok) k p cs = some a := by
  rw [run, h]
  exact runMany_of_some p htaken hrest hk

/-- The same of a run that must not be empty. -/
theorem run_oneOrMore (h : p.rest = taken ++ rest) (hne : taken ≠ [])
    (htaken : ∀ d ∈ taken, ok d = true) (hrest : ∀ d ∈ rest.head?, ok d = false)
    (hk : k (p.after taken rest) cs = some a) : run (oneOrMore ok) k p cs = some a := by
  cases taken with
  | nil => exact absurd rfl hne
  | cons d taken =>
    obtain ⟨hd, htaken⟩ := List.forall_mem_cons.1 htaken
    rw [oneOrMore, run, run, h]
    dsimp only [List.cons_append]
    rw [if_pos hd]
    exact run_many (p := p.step d (taken ++ rest)) rfl htaken hrest (by rwa [Place.step_after])

/-- A run of a class ends before a character that is not of the class. -/
theorem head?_cons_not {c : Char} (h : ok c = false) (rest : List Char) :
    ∀ d ∈ (c :: rest).head?, ok d = false := by
  intro d hd
  rw [List.head?_cons, Option.mem_some_iff] at hd
  rwa [← hd]

/-- A run of a class is empty where something else stands. -/
theorem run_many_nil {c : Char} (hp : p.rest = c :: rest) (hc : ok c = false)
    (hk : k p cs = some a) : run (many ok) k p cs = some a := by
  refine run_many (List.nil_append _ ▸ hp) (List.forall_mem_nil _) (head?_cons_not hc rest) ?_
  rwa [Place.after_nil hp]

/-! ### Searching -/

theorem findAllFrom_cons_of_none {before : Option Char} {position start : Nat} {c : Char}
    (h : start ≤ position → pattern.at? ⟨before, position, c :: rest⟩ = none) :
    findAllFrom pattern before position start (c :: rest) =
      findAllFrom pattern (some c) (position + 1) start rest := by
  rw [findAllFrom]
  split
  · rename_i hstart
    rw [h hstart]
  · rfl

/-- **A search passes over characters** that begin no match or lie before the place from which
matches count. -/
theorem findAllFrom_append {start : Nat} {passed : List Char} (p : Place)
    (h : ∀ q c tail, q.rest = c :: tail → c ∈ passed → start ≤ q.position →
      q.position < p.position + passed.length → pattern.at? q = none) :
    findAllFrom pattern p.before p.position start (passed ++ rest) =
      findAllFrom pattern (p.after passed rest).before (p.after passed rest).position start
        rest := by
  induction passed generalizing p with
  | nil => rfl
  | cons c passed ih =>
    have hfirst : start ≤ p.position →
        pattern.at? ⟨p.before, p.position, c :: (passed ++ rest)⟩ = none :=
      fun hstart => h ⟨p.before, p.position, c :: (passed ++ rest)⟩ c _ rfl List.mem_cons_self
        hstart (Nat.lt_add_of_pos_right (Nat.succ_pos _))
    rw [List.cons_append, findAllFrom_cons_of_none hfirst, ← Place.step_after]
    refine ih (p.step c rest) fun q d tail hq hd hstart hposition => ?_
    have hwithin : q.position < p.position + 1 + passed.length := hposition
    refine h q d tail hq (List.mem_cons_of_mem c hd) hstart ?_
    rw [List.length_cons]
    omega

/-- **A search takes what matches at its place**, and goes on behind it. -/
theorem findAllFrom_of_match {start : Nat} {captures : Captures} (p : Place)
    (hstart : start ≤ p.position) (hne : taken ≠ [])
    (h : pattern.at? ⟨p.before, p.position, taken ++ rest⟩ =
      some ⟨p.position, (p.after taken rest).position, captures⟩) :
    findAllFrom pattern p.before p.position start (taken ++ rest) =
      ⟨p.position, (p.after taken rest).position, captures⟩ ::
        findAllFrom pattern (p.after taken rest).before (p.after taken rest).position
          (p.after taken rest).position rest := by
  cases taken with
  | nil => exact absurd rfl hne
  | cons c taken =>
    have hstop : p.position + 1 ≤ (p.after (c :: taken) rest).position := by
      rw [Place.after_position, List.length_cons]
      omega
    rw [List.cons_append] at h ⊢
    rw [findAllFrom, if_pos hstart, h]
    dsimp only
    rw [Nat.max_eq_left hstop, ← Place.step_after]
    refine congrArg _ (findAllFrom_append (p.step c rest) fun q d tail _ _ hbehind hposition => ?_)
    exact absurd hposition (Nat.not_lt.2 hbehind)

/-- Nothing is found where no match begins. -/
theorem findAllFrom_eq_nil {before : Option Char} {position start : Nat} {text : List Char}
    (h : ∀ passed rest, text = passed ++ rest →
      pattern.at? (Place.after ⟨before, position, text⟩ passed rest) = none) :
    findAllFrom pattern before position start text = [] := by
  induction text generalizing before position with
  | nil =>
    have hnone : pattern.at? ⟨before, position, []⟩ = none := h [] [] rfl
    rw [findAllFrom, hnone]
    exact ite_self []
  | cons c rest ih =>
    have hnone : pattern.at? ⟨before, position, c :: rest⟩ = none := h [] (c :: rest) rfl
    rw [findAllFrom_cons_of_none fun _ => hnone]
    refine ih fun passed tail hrest => ?_
    rw [← h (c :: passed) tail (by rw [hrest, List.cons_append])]
    exact congrArg _ (Place.step_after (p := ⟨before, position, c :: rest⟩))

/-- If nothing is found from a place on, no match begins there or behind it. -/
theorem at?_eq_none_of_findAllFrom_eq_nil {start : Nat} {passed : List Char} (p : Place)
    (hstart : start ≤ p.position)
    (h : findAllFrom pattern p.before p.position start (passed ++ rest) = []) :
    pattern.at? (p.after passed rest) = none := by
  induction passed generalizing p with
  | nil =>
    rw [List.nil_append] at h
    have hplace : p.after [] rest = ⟨p.before, p.position, rest⟩ := rfl
    rw [hplace]
    cases rest with
    | nil =>
      rw [findAllFrom, if_pos hstart] at h
      exact Option.toList_eq_nil_iff.1 h
    | cons d rest =>
      rw [findAllFrom, if_pos hstart] at h
      split at h
      · cases h
      · assumption
  | cons c passed ih =>
    rw [List.cons_append, findAllFrom, if_pos hstart] at h
    split at h
    · cases h
    · rw [← Place.step_after]
      exact ih (p.step c rest) (Nat.le_succ_of_le hstart) h

/-- **A text in which nothing is found has no match anywhere.** -/
theorem at?_of_findAll_eq_nil {passed : List Char}
    (h : findAll pattern (passed ++ rest) = []) :
    pattern.at? ((Place.start (passed ++ rest)).after passed rest) = none :=
  at?_eq_none_of_findAllFrom_eq_nil (Place.start (passed ++ rest)) (Nat.le_refl 0) h

end Pattern

end NavGraph

import Mathlib.Tactic.SplitIfs
import NavGraph.Proofs.Pattern.Growth
import NavGraph.Source.Complexity

/-!
# The complexity of a growing file

Text that is appended to a file never lowers its complexity.  Each of the counted signals is found
at the same places as before, and perhaps at others behind them, and no line is lost where the two
texts meet, even if a line feed joins a carriage return there.

## Main definitions

* `Complexity.level` - the order of the buckets

## Main statements

* `lineCount_le_append` - a longer text has no fewer lines
* `isSteady_of_mem_signals` - longer texts have the signals of shorter ones
* `score_append` - neither the score nor its bucket goes down when text is appended
-/

namespace NavGraph

/-! ### Lines -/

namespace Text

variable {text more : List Char}

/-- Line ends are counted one text after the other; of the first, only its last character matters to
the second. -/
theorem lineEnds_append (afterReturn : Bool) (text more : List Char) :
    lineEnds afterReturn (text ++ more) =
      lineEnds afterReturn text + lineEnds (text.getLast?.elim afterReturn (· == '\r')) more := by
  induction text generalizing afterReturn with
  | nil => simp [lineEnds]
  | cons c rest ih =>
    rw [List.cons_append, lineEnds, lineEnds, ih, Nat.add_assoc, List.getLast?_cons]
    cases rest.getLast? <;> rfl

/-- A line break ends a line, if no carriage return stands before the text: the first one does. -/
theorem lineEnds_pos {c : Char} (hc : c ∈ text) (hbreak : isLineBreak c = true) :
    0 < lineEnds false text := by
  induction text with
  | nil => cases hc
  | cons d rest ih =>
    rw [lineEnds]
    by_cases hd : isLineBreak d = true
    · rw [Bool.false_and, Bool.not_false, Bool.and_true, if_pos hd]
      exact Nat.lt_add_right _ Nat.one_pos
    · obtain rfl | hc := List.mem_cons.1 hc
      · exact absurd hbreak hd
      · have hreturn : (d == '\r') = false := by
          rw [beq_eq_false_iff_ne]
          rintro rfl
          exact hd (by decide)
        rw [hreturn]
        exact Nat.lt_add_left _ (ih hc)

theorem lineCount_pos (h : text ≠ []) : 0 < lineCount text := by
  rw [lineCount, List.getLast?_eq_some_getLast h]
  by_cases hbreak : isLineBreak (text.getLast h) = true
  · exact Nat.lt_add_right _ (lineEnds_pos (List.getLast_mem h) hbreak)
  · simp [hbreak]

/-- **A longer text has no fewer lines.**  If the first text ends within a line, the other one goes
on with that line at least. -/
theorem lineCount_le_append (text more : List Char) :
    lineCount text ≤ lineCount (text ++ more) := by
  by_cases hmore : more = []
  · simp [hmore]
  · have hlast : (text ++ more).getLast? = more.getLast? := by
      rw [List.getLast?_append, List.getLast?_eq_some_getLast hmore, Option.some_or]
    by_cases hbreak : text.getLast?.all isLineBreak = true
    · rw [lineCount, lineCount, lineEnds_append, if_pos hbreak]
      omega
    · obtain ⟨c, hc, hinner⟩ : ∃ c, text.getLast? = some c ∧ isLineBreak c = false := by
        cases hend : text.getLast? with
        | none => simp [hend] at hbreak
        | some c => exact ⟨c, rfl, by simpa [hend] using hbreak⟩
      have hreturn : (c == '\r') = false := by
        rw [beq_eq_false_iff_ne]
        rintro rfl
        exact absurd hinner (by decide)
      have hpositive := lineCount_pos hmore
      rw [lineCount] at hpositive
      rw [lineCount, lineCount, lineEnds_append, hlast, hc, Option.elim_some, hreturn,
        if_neg (by simp [hinner])]
      omega

end Text

namespace Source

open Pattern

/-! ### Signals -/

/-- A call of a hook ends with its bracket. -/
theorem isSteady_hookCall {hook : String} (h : hook ∈ stateHooks) : (hookCall hook).IsSteady := by
  have hbody : ∀ hook ∈ stateHooks, ([.literal hook, .blanks,
      .optional (.sequence [.single '<', .many (noneOf ">()"), .single '>']), .blanks].all
        (isBody '(')) = true := by
    decide +kernel
  exact (isClosedBy_sequence '(' _ (hbody hook h)).wordEdge.isSteady

theorem isSteady_conditionalExpression : conditionalExpression.IsSteady :=
  isSteady_between [Text.isBlank, (· == '?'), Text.isBlank]
    [Text.isBlank, (· == ':'), Text.isBlank] (List.cons_ne_nil _ _)

theorem isSteady_collectionCall : collectionCall.IsSteady :=
  (isClosedBy_sequence '(' [.single '.',
    .words ["map", "filter", "reduce", "forEach", "flatMap", "find", "some", "every", "sort"],
    .blanks] (by decide +kernel)).isSteady

theorem isSteady_inlineHandler : inlineHandler.IsSteady :=
  (isClosedBy_sequence (Char.ofNat 0x7b) [.literal "on", .char Char.isUpper, .many Text.isWord,
    .blanks, .single '=', .blanks] (by decide +kernel)).wordEdge.isSteady

theorem isSteady_networkCall : networkCall.IsSteady := by
  have hfetch := isClosedBy_sequence '(' [.literal "fetch", .blanks] (by decide +kernel)
  have haxios := isClosedBy_sequence '(' [.literal "axios",
    .optional (.seq (.single '.') (.oneOrMore Text.isWord)), .blanks] (by decide +kernel)
  have huse := isClosedBy_sequence '(' [.literal "use", .words ["Query", "Mutation", "SWR"],
    .blanks] (by decide +kernel)
  exact (hfetch.wordEdge.alt (haxios.wordEdge.alt huse.wordEdge)).isSteady

/-- **Longer texts have the signals of shorter ones**: calls and handlers end with a character that
stands nowhere else in them, and a conditional expression is the shortest text between its ends. -/
theorem isSteady_of_mem_signals {signal : Nat × Pattern} (h : signal ∈ signals) :
    signal.2.IsSteady := by
  obtain h | h := List.mem_append.1 h
  · obtain ⟨hook, hhook, rfl⟩ := List.mem_map.1 h
    exact isSteady_hookCall hhook
  · simp only [List.mem_cons, List.not_mem_nil, or_false] at h
    obtain rfl | rfl | rfl | rfl := h
    · exact isSteady_conditionalExpression
    · exact isSteady_collectionCall
    · exact isSteady_inlineHandler
    · exact isSteady_networkCall

/-! ### Scores -/

theorem lengthScore_mono {lines lines' : Nat} (h : lines ≤ lines') :
    lengthScore lines ≤ lengthScore lines' := by
  unfold lengthScore
  split_ifs <;> omega

end Source

/-- The place of a bucket among the buckets. -/
def Complexity.level : Complexity → Nat
  | low => 0
  | medium => 1
  | high => 2

namespace Source

open Pattern

theorem level_bucket_mono {score score' : Int} (h : score ≤ score') :
    (bucket score).level ≤ (bucket score').level := by
  unfold bucket
  split_ifs <;> first | omega | decide

/-- **Text that is appended never lowers the complexity of a file**: neither its score nor the
bucket of the score, since each signal is found where it was, before any others. -/
theorem score_append (text more : String) :
    score text ≤ score (text ++ more) ∧
      (bucket (score text)).level ≤ (bucket (score (text ++ more))).level ∧
      ∀ signal ∈ signals,
        signal.2.findAll text.toList <+: signal.2.findAll (text ++ more).toList := by
  have hfound : ∀ signal ∈ signals,
      signal.2.findAll text.toList <+: signal.2.findAll (text ++ more).toList := by
    intro signal hsignal
    rw [String.toList_append]
    exact (isSteady_of_mem_signals hsignal).prefix_findAll _ _
  have hscore : score text ≤ score (text ++ more) := by
    have hlines : lengthScore (Text.lineCount text.toList) ≤
        lengthScore (Text.lineCount (text ++ more).toList) := by
      rw [String.toList_append]
      exact lengthScore_mono (Text.lineCount_le_append _ _)
    unfold score
    generalize signals = counted at hfound
    induction counted with
    | nil => exact hlines
    | cons signal counted ih =>
      obtain ⟨hfirst, hothers⟩ := List.forall_mem_cons.1 hfound
      exact Nat.add_le_add (Nat.mul_le_mul_left _ hfirst.length_le) (ih hothers)
  exact ⟨hscore, level_bucket_mono (Int.ofNat_le.2 hscore), hfound⟩

end Source

end NavGraph

import Mathlib.Data.List.Forall2
import NavGraph.Proofs.Pattern.Language
import NavGraph.Proofs.Text.Trim

/-!
# Matches in a text that grows

Counting matches from left to right need not be monotone: a place that begins no match may begin one
once more text follows, and that match may take the place of matches that were found before.  For
some patterns this cannot happen, and then everything that was found in a text is found at the same
places when more text stands behind it.

## Main definitions

* `Pattern.IsSteady` - patterns of which longer texts have the matches of shorter ones
* `Pattern.IsClosedBy` - patterns that end with a character which they take nowhere else

## Main statements

* `IsSteady.prefix_findAll` - what is found in a text is found first in a longer one
* `IsClosedBy.isSteady` - patterns with a closing character are steady
* `isSteady_between` - and so are patterns with the shortest text between two fixed ends

## Design notes

Two things carry the induction.  The first way of matching is the shortest, so it stays the first
one when the text grows.  And if a match reaches beyond the end of the shorter text, no match of
that text begins behind it: such a match would have shortened it.
-/

namespace NavGraph

namespace Pattern

/-- **A pattern is steady** if its shortest way of matching is the first one, and what it takes can
be shortened to the end of any match in it. -/
structure IsSteady (pattern : Pattern) : Prop where
  isSimple : pattern.isSimple = true
  shortestFirst : ∀ p, (ways pattern p []).Pairwise (·.1.position ≤ ·.1.position)
  ne_nil : ∀ {before taken next}, pattern.Accepts before taken next → taken ≠ []
  congr_next : ∀ {before taken next} next',
    pattern.Accepts before taken next → pattern.Accepts before taken next'
  shortens : ∀ {before front middle back next}, front ≠ [] → back ≠ [] →
    pattern.Accepts before (front ++ (middle ++ back)) next →
    pattern.Accepts front.getLast? middle next → pattern.Accepts before (front ++ middle) next

namespace IsSteady

variable {pattern : Pattern} {p : Place} {m : Match} {text more : List Char}
  {before : Option Char} {position start : Nat}

/-- **There is no match at a place if no text that stands there is taken.** -/
theorem at?_eq_none_iff (h : pattern.IsSteady) : pattern.at? p = none ↔
    ∀ taken, taken <+: p.rest → ¬ pattern.Accepts p.before taken none := by
  rw [Pattern.at?_eq_none_iff]
  constructor
  · rintro hnone taken ⟨rest, hrest⟩ haccepts
    exact hnone _ ((mem_ways_iff_accepts h.isSimple).2
      ⟨taken, rest, hrest.symm, h.congr_next _ haccepts, rfl⟩)
  · intro hnone w hw
    obtain ⟨taken, rest, hrest, haccepts, -⟩ := (mem_ways_iff_accepts h.isSimple).1 hw
    exact hnone taken ⟨rest, hrest.symm⟩ (h.congr_next _ haccepts)

/-- **The match at a place is the shortest text that is taken there.** -/
theorem at?_eq_some_iff (h : pattern.IsSteady) : pattern.at? p = some m ↔
    ∃ taken, taken <+: p.rest ∧ pattern.Accepts p.before taken none ∧
      (∀ other, other <+: p.rest → pattern.Accepts p.before other none →
        taken.length ≤ other.length) ∧
      m = ⟨p.position, p.position + taken.length, []⟩ := by
  have hexists : ∀ {m}, pattern.at? p = some m → ∃ taken, taken <+: p.rest ∧
      pattern.Accepts p.before taken none ∧ (∀ other, other <+: p.rest →
        pattern.Accepts p.before other none → taken.length ≤ other.length) ∧
      m = ⟨p.position, p.position + taken.length, []⟩ := by
    intro m hm
    obtain ⟨w, hw, rfl⟩ := Option.map_eq_some_iff.1 hm
    rw [matchAt_eq_head?] at hw
    obtain ⟨taken, rest, hrest, haccepts, rfl⟩ :=
      (mem_ways_iff_accepts h.isSimple).1 (List.mem_of_head? hw)
    refine ⟨taken, ⟨rest, hrest.symm⟩, h.congr_next _ haccepts, ?_, rfl⟩
    rintro other ⟨rest', hrest'⟩ hother
    have hmem : (p.after other rest', []) ∈ ways pattern p [] :=
      (mem_ways_iff_accepts h.isSimple).2
        ⟨other, rest', hrest'.symm, h.congr_next _ hother, rfl⟩
    obtain ⟨later, hways⟩ := List.head?_eq_some_iff.1 hw
    have horder := h.shortestFirst p
    rw [hways] at horder hmem
    obtain heq | hlater := List.mem_cons.1 hmem
    · have hposition := congrArg (fun w => w.1.position) heq
      simp only [Place.after_position] at hposition
      omega
    · have hposition := List.rel_of_pairwise_cons horder hlater
      simp only [Place.after_position] at hposition
      omega
  refine ⟨hexists, ?_⟩
  rintro ⟨taken, hstarts, haccepts, hshortest, rfl⟩
  cases hm : pattern.at? p with
  | none => exact absurd haccepts (h.at?_eq_none_iff.1 hm taken hstarts)
  | some m =>
    obtain ⟨other, hother, hotherAccepts, hotherShortest, rfl⟩ := hexists hm
    rw [Nat.le_antisymm (hshortest other hother hotherAccepts)
      (hotherShortest taken hstarts haccepts)]

/-- A match at a place stays when more text stands behind it. -/
theorem at?_append (h : pattern.IsSteady)
    (hm : pattern.at? ⟨before, position, text⟩ = some m) :
    pattern.at? ⟨before, position, text ++ more⟩ = some m := by
  obtain ⟨taken, hstarts, haccepts, hshortest, rfl⟩ := h.at?_eq_some_iff.1 hm
  refine h.at?_eq_some_iff.2
    ⟨taken, hstarts.trans (List.prefix_append text more), haccepts, ?_, rfl⟩
  intro other hother hotherAccepts
  obtain hwithin | hbeyond := List.prefix_or_prefix_of_prefix hother (List.prefix_append text more)
  · exact hshortest other hwithin hotherAccepts
  · exact Nat.le_trans hstarts.length_le hbeyond.length_le

/-- **Behind a place that begins a match only in the longer text, the shorter one has none**: a
match there would shorten the one that reaches beyond the end. -/
theorem at?_eq_none_of_append (h : pattern.IsSteady) {front : List Char} (hfront : front ≠ [])
    (hnone : pattern.at? ⟨before, position, front ++ text⟩ = none)
    (hm : pattern.at? ⟨before, position, front ++ text ++ more⟩ = some m) (position' : Nat) :
    pattern.at? ⟨front.getLast?, position', text⟩ = none := by
  rw [h.at?_eq_none_iff] at hnone ⊢
  rintro middle ⟨rest, rfl⟩ hmiddle
  obtain ⟨taken, hstarts, haccepts, -⟩ := h.at?_eq_some_iff.1 hm
  obtain hwithin | ⟨back, rfl⟩ :=
    List.prefix_or_prefix_of_prefix hstarts (List.prefix_append _ more)
  · exact hnone taken hwithin haccepts
  · have hlonger : rest ++ back ≠ [] := by
      rintro hnil
      obtain ⟨rfl, rfl⟩ := List.append_eq_nil_iff.1 hnil
      exact hnone _ (List.prefix_refl _) (by simpa using haccepts)
    refine hnone (front ++ middle) ?_ (h.shortens hfront hlonger (by simpa using haccepts) hmiddle)
    exact (List.prefix_append_right_inj front).2 (List.prefix_append middle rest)

/-- **The search in a longer text finds first what it finds in the shorter one**, by induction on
the shorter text: up to its end both searches stop at the same matches, until one match reaches
beyond the end. -/
theorem prefix_findAllFrom (h : pattern.IsSteady) (before : Option Char) (position start : Nat) :
    findAllFrom pattern before position start text <+:
      findAllFrom pattern before position start (text ++ more) := by
  induction text generalizing before position start with
  | nil =>
    have hnone : pattern.at? ⟨before, position, []⟩ = none := by
      rw [h.at?_eq_none_iff]
      rintro taken hstarts haccepts
      exact h.ne_nil haccepts (List.prefix_nil.1 hstarts)
    rw [findAllFrom, hnone]
    simp
  | cons c text ih =>
    rw [List.cons_append, findAllFrom, findAllFrom]
    split
    · cases hm : pattern.at? ⟨before, position, c :: text⟩ with
      | some m =>
        rw [← List.cons_append, h.at?_append hm]
        exact (List.prefix_cons_inj m).2 (ih _ _ _)
      | none =>
        cases hlonger : pattern.at? ⟨before, position, c :: (text ++ more)⟩ with
        | none => exact ih _ _ _
        | some m =>
          have hlater : findAllFrom pattern (some c) (position + 1) start text = [] := by
            refine findAllFrom_eq_nil fun passed rest htext => ?_
            subst htext
            have hplace : Place.after ⟨some c, position + 1, passed ++ rest⟩ passed rest =
                ⟨(c :: passed).getLast?, position + 1 + passed.length, rest⟩ := by
              rw [Place.after, List.getLast?_cons]
              cases passed.getLast? <;> rfl
            rw [hplace]
            exact h.at?_eq_none_of_append (List.cons_ne_nil c passed) hm hlonger _
          rw [hlater]
          exact List.nil_prefix
    · exact ih _ _ _

/-- **What is found in a text is found first in a longer one**, at the same places. -/
theorem prefix_findAll (h : pattern.IsSteady) (text more : List Char) :
    findAll pattern text <+: findAll pattern (text ++ more) :=
  h.prefix_findAllFrom none 0 0

end IsSteady

/-! ### Patterns with a closing character -/

/-- A pattern **is closed by** a character if that is the last one that it takes, and only the last
one. -/
structure IsClosedBy (closing : Char) (pattern : Pattern) : Prop where
  isSimple : pattern.isSimple = true
  congr_next : ∀ {before taken next} next',
    pattern.Accepts before taken next → pattern.Accepts before taken next'
  closes : ∀ {before taken next}, pattern.Accepts before taken next →
    ∃ body, taken = body ++ [closing] ∧ closing ∉ body

variable {closing : Char} {pattern : Pattern}

/-- It takes one text at a place if any. -/
theorem IsClosedBy.position_eq (h : pattern.IsClosedBy closing) {p : Place}
    {v w : Place × Captures} (hv : v ∈ ways pattern p []) (hw : w ∈ ways pattern p []) :
    v.1.position = w.1.position := by
  have hends : ∀ w ∈ ways pattern p [], ∃ body rest, p.rest = body ++ closing :: rest ∧
      (∀ c ∈ body, (c != closing) = true) ∧ w.1.position = p.position + (body.length + 1) := by
    intro w hw
    obtain ⟨taken, rest, hrest, haccepts, rfl⟩ := (mem_ways_iff_accepts h.isSimple).1 hw
    obtain ⟨body, rfl, hbody⟩ := h.closes haccepts
    refine ⟨body, rest, by simpa using hrest, fun c hc => ?_, ?_⟩
    · rw [bne_iff_ne]
      rintro rfl
      exact hbody hc
    · rw [Place.after_position, List.length_append, List.length_singleton]
  obtain ⟨body, rest, hrest, hbody, hv⟩ := hends v hv
  obtain ⟨body', rest', hrest', hbody', hw⟩ := hends w hw
  have hsame := (Text.append_cons_inj (· != closing) hbody hbody' (by simp) (by simp)
    (hrest.symm.trans hrest')).1
  rw [hv, hw, hsame]

/-- **A pattern with a closing character is steady**: a text that it takes does not go on behind the
end of another. -/
theorem IsClosedBy.isSteady (h : pattern.IsClosedBy closing) : pattern.IsSteady where
  isSimple := h.isSimple
  congr_next := h.congr_next
  shortestFirst p := List.pairwise_of_forall_mem_list fun _ hv _ hw =>
    Nat.le_of_eq (h.position_eq hv hw)
  ne_nil := by
    intro before taken next haccepts
    obtain ⟨body, rfl, -⟩ := h.closes haccepts
    exact List.concat_ne_nil _ _
  shortens := by
    intro before front middle back next hfront hback haccepts hmiddle
    obtain ⟨body, hbody, hclosing⟩ := h.closes haccepts
    obtain ⟨body', rfl, -⟩ := h.closes hmiddle
    -- The closing character of the text within would stand before the end of the other.
    have hdrop := congrArg List.dropLast hbody
    rw [List.dropLast_concat, ← List.append_assoc, List.dropLast_append_of_ne_nil hback] at hdrop
    refine absurd ?_ hclosing
    rw [← hdrop]
    simp

/-- The parts of a pattern before its closing character: they do not take it, and look at nothing
behind what they take. -/
def isBody (closing : Char) (pattern : Pattern) : Bool :=
  pattern.isSimple && pattern.isBlind && pattern.avoids closing

theorem isClosedBy_sequence (closing : Char) (front : List Pattern)
    (h : front.all (isBody closing) = true) :
    (sequence (front ++ [single closing])).IsClosedBy closing := by
  induction front with
  | nil =>
    refine ⟨rfl, fun next' haccepts => haccepts.congr_next rfl next', fun haccepts => ⟨[], ?_, ?_⟩⟩
    · exact accepts_single.1 haccepts
    · exact List.not_mem_nil
  | cons first front ih =>
    rw [List.all_cons, Bool.and_eq_true, isBody, Bool.and_eq_true, Bool.and_eq_true] at h
    obtain ⟨⟨⟨hsimple, hblind⟩, havoids⟩, hfront⟩ := h
    obtain ⟨hsimple', hcongr, hcloses⟩ := ih hfront
    rw [isSimple_sequence] at hsimple'
    rw [List.cons_append]
    refine ⟨?_, fun {before taken next} next' haccepts => ?_,
      fun {before taken next} haccepts => ?_⟩
    · rw [isSimple_sequence, List.all_cons, hsimple, hsimple']
      rfl
    · rw [accepts_sequence_cons] at haccepts ⊢
      obtain ⟨front', back, rfl, hfirst, hback⟩ := haccepts
      exact ⟨front', back, rfl, hfirst.congr_next hblind _, hcongr _ hback⟩
    · obtain ⟨front', back, rfl, hfirst, hback⟩ := accepts_sequence_cons.1 haccepts
      obtain ⟨body, rfl, hbody⟩ := hcloses hback
      exact ⟨front' ++ body, by rw [List.append_assoc],
        List.not_mem_append (hfirst.not_mem havoids) hbody⟩

/-- A test for the edge of a word may stand before a pattern with a closing character. -/
theorem IsClosedBy.wordEdge {others : List Pattern} (h : (sequence others).IsClosedBy closing) :
    (sequence (.wordEdge :: others)).IsClosedBy closing where
  isSimple := by
    have hothers := h.isSimple
    rw [isSimple_sequence] at hothers ⊢
    exact hothers
  congr_next := by
    intro before taken next next' haccepts
    rw [accepts_sequence_cons] at haccepts ⊢
    obtain ⟨front, back, rfl, ⟨rfl, hedge⟩, hback⟩ := haccepts
    obtain ⟨body, rfl, -⟩ := h.closes hback
    -- The edge is one between the character before and the first one that is taken.
    refine ⟨[], _, rfl, ⟨rfl, ?_⟩, h.congr_next _ hback⟩
    cases body <;> exact hedge
  closes := by
    intro before taken next haccepts
    obtain ⟨front, back, rfl, ⟨rfl, -⟩, hback⟩ := accepts_sequence_cons.1 haccepts
    exact h.closes hback

theorem IsClosedBy.alt {first second : Pattern} (h : first.IsClosedBy closing)
    (h' : second.IsClosedBy closing) : (alt first second).IsClosedBy closing where
  isSimple := Bool.and_eq_true_iff.2 ⟨h.isSimple, h'.isSimple⟩
  congr_next next' haccepts := haccepts.imp (h.congr_next next') (h'.congr_next next')
  closes haccepts := haccepts.elim h.closes h'.closes

/-! ### Patterns with the shortest text between two ends -/

/-- A text **fits** classes if its characters are of them, one by one. -/
def Fits (classes : List (Char → Bool)) (text : List Char) : Prop :=
  List.Forall₂ (fun ok c => ok c = true) classes text

variable {opening closings : List (Char → Bool)} {ok : Char → Bool} {before next : Option Char}
  {taken : List Char}

theorem accepts_classes :
    (sequence (closings.map char)).Accepts before taken next ↔ Fits closings taken := by
  induction closings generalizing before taken with
  | nil => exact List.forall₂_nil_left_iff.symm
  | cons test closings ih =>
    rw [Fits, List.map_cons, accepts_sequence_cons, List.forall₂_cons_left_iff]
    constructor
    · rintro ⟨front, back, rfl, ⟨c, rfl, hc⟩, hback⟩
      exact ⟨c, back, hc, ih.1 hback, rfl⟩
    · rintro ⟨c, back, hc, hback, rfl⟩
      exact ⟨[c], back, rfl, ⟨c, rfl, hc⟩, ih.2 hback⟩

/-- **What is taken between two ends**: a text that fits the first ones, characters of a class, and
a text that fits the last ones. -/
theorem accepts_between :
    (sequence (opening.map char ++ few ok :: closings.map char)).Accepts before taken next ↔
      ∃ front middle back, taken = front ++ (middle ++ back) ∧ Fits opening front ∧
        (∀ c ∈ middle, ok c = true) ∧ Fits closings back := by
  induction opening generalizing before taken with
  | nil =>
    rw [List.map_nil, List.nil_append, accepts_sequence_cons]
    constructor
    · rintro ⟨middle, back, rfl, hmiddle, hback⟩
      exact ⟨[], middle, back, rfl, .nil, hmiddle, accepts_classes.1 hback⟩
    · rintro ⟨front, middle, back, rfl, hfront, hmiddle, hback⟩
      obtain rfl := List.forall₂_nil_left_iff.1 hfront
      exact ⟨middle, back, rfl, hmiddle, accepts_classes.2 hback⟩
  | cons test opening ih =>
    rw [List.map_cons, List.cons_append, accepts_sequence_cons]
    constructor
    · rintro ⟨_, _, rfl, ⟨c, rfl, hc⟩, hrest⟩
      obtain ⟨front, middle, back, rfl, hfront, hmiddle, hback⟩ := ih.1 hrest
      exact ⟨c :: front, middle, back, rfl, .cons hc hfront, hmiddle, hback⟩
    · rintro ⟨_, middle, back, rfl, hfront, hmiddle, hback⟩
      obtain ⟨c, front, hc, hfits, rfl⟩ := List.forall₂_cons_left_iff.1 hfront
      exact ⟨[c], _, rfl, ⟨c, rfl, hc⟩, ih.2 ⟨front, middle, back, rfl, hfits, hmiddle, hback⟩⟩

theorem isSimple_between :
    (sequence (opening.map char ++ few ok :: closings.map char)).isSimple = true := by
  simp [isSimple]

theorem ways_sequence_cons {first : Pattern} {others : List Pattern} {p : Place} {cs : Captures} :
    ways (sequence (first :: others)) p cs =
      (ways first p cs).flatMap fun w => ways (sequence others) w.1 w.2 := by
  cases others with
  | nil => exact (List.flatMap_singleton' _).symm
  | cons second others => rfl

theorem pairwise_fewWays {position : Nat} {text : List Char} :
    (fewWays ok before position text).Pairwise (·.position ≤ ·.position) := by
  induction text generalizing before position with
  | nil => exact List.pairwise_singleton _ _
  | cons c text ih =>
    rw [fewWays, List.pairwise_cons]
    split
    · refine ⟨fun q hq => ?_, ih⟩
      obtain ⟨taken, rest, -, -, rfl⟩ := mem_manyWays_iff.1 (mem_fewWays_iff_mem_manyWays.1 hq)
      rw [Place.after_position]
      dsimp only
      omega
    · exact ⟨List.forall_mem_nil _, .nil⟩

/-- Short texts between two ends are tried first: the last end has a length of its own. -/
theorem shortestFirst_between (p : Place) (cs : Captures) :
    (ways (sequence (opening.map char ++ few ok :: closings.map char)) p cs).Pairwise
      (·.1.position ≤ ·.1.position) := by
  induction opening generalizing p cs with
  | nil =>
    have hlength : ∀ {q cs}, ∀ w ∈ ways (sequence (closings.map char)) q cs,
        w.1.position = q.position + closings.length := by
      intro q cs w hw
      obtain ⟨taken, rest, -, haccepts, rfl⟩ := (mem_ways_iff_accepts (by simp [isSimple])).1 hw
      rw [Place.after_position, (accepts_classes.1 haccepts).length_eq]
    rw [List.map_nil, List.nil_append, ways_sequence_cons, List.pairwise_flatMap]
    refine ⟨fun v _ => List.pairwise_of_forall_mem_list fun w hw w' hw' => ?_, ?_⟩
    · exact Nat.le_of_eq ((hlength w hw).trans (hlength w' hw').symm)
    · rw [ways, List.pairwise_map]
      refine pairwise_fewWays.imp fun {q q'} hle w hw w' hw' => ?_
      rw [hlength w hw, hlength w' hw']
      exact Nat.add_le_add_right hle _
  | cons test opening ih =>
    rw [List.map_cons, List.cons_append, ways_sequence_cons, ways]
    split
    · exact .nil
    · split
      · rw [List.flatMap_singleton]
        exact ih _ _
      · exact .nil

/-- **The shortest text between two fixed ends**: where one of them is found within another, the
latter can be cut there. -/
theorem isSteady_between (opening closings : List (Char → Bool)) (h : opening ≠ []) :
    (sequence (opening.map char ++ few ok :: closings.map char)).IsSteady where
  isSimple := isSimple_between
  shortestFirst p := shortestFirst_between p []
  congr_next _ haccepts := accepts_between.2 (accepts_between.1 haccepts)
  ne_nil := by
    rintro before taken next haccepts rfl
    obtain ⟨front, middle, back, hnil, hfront, -, -⟩ := accepts_between.1 haccepts
    obtain ⟨rfl, -⟩ := List.append_eq_nil_iff.1 hnil.symm
    exact h (List.forall₂_nil_right_iff.1 hfront)
  shortens := by
    intro before outer inner behind next _ hbehind haccepts hinner
    obtain ⟨front, middle, back, htaken, hfront, hmiddle, hback⟩ := accepts_between.1 haccepts
    obtain ⟨front', middle', back', rfl, hfront', -, hback'⟩ := accepts_between.1 hinner
    -- What stands before the inner closing begins with the opening and ends before the outer one.
    have hlength : front.length = front'.length ∧ back.length = back'.length :=
      ⟨hfront.length_eq.symm.trans hfront'.length_eq, hback.length_eq.symm.trans hback'.length_eq⟩
    have hlengths := congrArg List.length htaken
    simp only [List.length_append] at hlengths
    have hpositive := List.length_pos_iff.2 hbehind
    have hstarts : outer ++ (front' ++ middle') <+: front ++ middle := by
      refine List.prefix_of_prefix_length_le ⟨back' ++ behind, ?_⟩
        (List.prefix_append (front ++ middle) back) ?_
      · simpa using htaken
      · simp only [List.length_append]
        omega
    have hopening : front <+: outer ++ (front' ++ middle') := by
      refine List.prefix_of_prefix_length_le (List.prefix_append _ _) hstarts ?_
      simp only [List.length_append]
      omega
    obtain ⟨kept, hkept⟩ := hopening
    rw [← hkept, List.prefix_append_right_inj] at hstarts
    refine accepts_between.2 ⟨front, kept, back', ?_, hfront, ?_, hback'⟩
    · rw [← List.append_assoc front, hkept]
      simp
    · exact fun c hc => hmiddle c (hstarts.subset hc)

end Pattern

end NavGraph

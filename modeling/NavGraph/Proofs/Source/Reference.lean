import NavGraph.Proofs.Pattern.Extent
import NavGraph.Proofs.Pattern.Order
import NavGraph.Proofs.Pattern.Spelling
import NavGraph.Proofs.Text.Trim
import NavGraph.Source.Reference

/-!
# Places that lead elsewhere

Four searches go through a text, each with its own notion of what overlaps, and what they find is
put into one order.  No two of them can find something at the same place but the two that look for
calls, and these read the same target there; so nothing is reported twice, and a condition before a
call changes nothing but what is said about the way it is reached.

## Main definitions

* `IsTarget` - what a reference may lead to
* `IsCall` - the text of a call that navigates
* `IsClickOn`, `RedirectsTo` - what a click on a link is called, and where a redirect leads
* `ReportedOnce` - a reference that shares its position with no other
* `IsAccountOf` - a list that says of a text everything that leads elsewhere, and nothing else

## Main statements

* `IsCall.target_unique` - no text begins with calls to two targets
* `pairwise_unorderedReferences` - what the four searches find stands at different positions
* `references_isAccountOf` - the references of a text are an account of it
-/

namespace NavGraph.Source

open Pattern

variable {text target taken : List Char} {m : Match} {p : Place} {cs : Captures}
  {w : Place × Captures} {slot : Nat}

/-! ### Targets and calls -/

/-- Targets that are written out: at least one character, and no quotation mark and no sign for a
value among them. -/
structure IsTarget (target : List Char) : Prop where
  ne_nil : target ≠ []
  plain : ∀ c ∈ target, isQuotationMark c = false ∧ c ≠ '$'

/-- A target between quotation marks. -/
def IsQuoted (target taken : List Char) : Prop :=
  IsTarget target ∧ ∃ opening closing, isQuotationMark opening = true ∧
    isQuotationMark closing = true ∧ taken = opening :: (target ++ [closing])

/-- Functions that navigate. -/
def navigators : List String :=
  ["navigate", "router.push", "router.replace", "history.push", "history.replace"]

/-- A call that navigates, up to its target: blanks may stand on both sides of the bracket. -/
def IsCall (target taken : List Char) : Prop :=
  ∃ name ∈ navigators, ∃ before after quoted : List Char,
    (∀ c ∈ before, Text.isBlank c = true) ∧ (∀ c ∈ after, Text.isBlank c = true) ∧
      IsQuoted target quoted ∧ taken = name.toList ++ (before ++ '(' :: (after ++ quoted))

theorem quoted_of_mem_ways (hw : w ∈ ways (quotedTarget slot) p cs) :
    ∃ target taken, IsQuoted target taken ∧ p.Reaches w.1 taken ∧
      w.2.text? slot = some (String.ofList target) := by
  obtain ⟨u, hu, hw⟩ := mem_ways_sequence_cons.1 hw
  obtain ⟨v, hv, hw⟩ := mem_ways_sequence_cons.1 hw
  obtain ⟨opening, rest, hrest, hopening, rfl⟩ := mem_ways_char.1 hu
  obtain ⟨v, hv', rfl⟩ := mem_ways_capture.1 hv
  obtain ⟨closing, later, hlater, hclosing, rfl⟩ := mem_ways_char.1 hw
  obtain ⟨target, hreaches, hne, htarget⟩ := reaches_of_mem_ways_oneOrMore hv'
  have hplain : IsTarget target := ⟨hne, fun c hc => by simpa [isTargetChar] using htarget c hc⟩
  refine ⟨target, _, ⟨hplain, opening, closing, hopening, hclosing, rfl⟩, ?_, ?_⟩
  · exact .trans (.step hrest) (.trans hreaches (.step hlater))
  · rw [hreaches.textTo]
    simp [Captures.text?, Captures.get?]

theorem exists_navigator_of_member {object : String} {members : List String}
    (hall : ∀ member ∈ members, object ++ member ∈ navigators)
    (hw : w ∈ ways (seq (literal object) (words members)) p cs) :
    ∃ name ∈ navigators, p.Reaches w.1 name.toList := by
  obtain ⟨v, hv, hw⟩ := mem_ways_seq.1 hw
  obtain ⟨member, hmember, hreaches⟩ := reaches_of_mem_ways_words hw
  refine ⟨object ++ member, hall member hmember, ?_⟩
  rw [String.toList_append]
  exact (reaches_of_mem_ways_literal hv).trans hreaches

/-- **A call that is matched is written as one, and its target is remembered.** -/
theorem call_of_mem_ways (hw : w ∈ ways (navigationCall slot) p cs) :
    ∃ target taken, IsCall target taken ∧ p.Reaches w.1 taken ∧
      w.2.text? slot = some (String.ofList target) := by
  obtain ⟨a, ha, hw⟩ := mem_ways_sequence_cons.1 hw
  obtain ⟨b, hb, hw⟩ := mem_ways_sequence_cons.1 hw
  obtain ⟨c, hbracket, hw⟩ := mem_ways_sequence_cons.1 hw
  obtain ⟨d, hd, hw⟩ := mem_ways_sequence_cons.1 hw
  obtain ⟨before, hbefore, hbefore'⟩ := reaches_of_mem_ways_many hb
  obtain ⟨after, hafter, hafter'⟩ := reaches_of_mem_ways_many hd
  obtain ⟨target, quoted, hquoted, hreaches, htext⟩ := quoted_of_mem_ways hw
  have hname : ∃ name ∈ navigators, p.Reaches a.1 name.toList := by
    obtain ⟨q, hq, ha⟩ := mem_ways_anyOf.1 ha
    simp only [List.mem_cons, List.not_mem_nil, or_false] at hq
    obtain rfl | rfl | rfl := hq
    · exact ⟨"navigate", by decide, reaches_of_mem_ways_literal ha⟩
    · exact exists_navigator_of_member (by decide) ha
    · exact exists_navigator_of_member (by decide) ha
  obtain ⟨name, hname, hname'⟩ := hname
  exact ⟨target, _, ⟨name, hname, before, after, quoted, hbefore', hafter', hquoted, rfl⟩,
    hname'.trans (hbefore.trans ((reaches_of_mem_ways_single hbracket).trans
      (hafter.trans hreaches))), htext⟩

theorem IsCall.ne_nil (h : IsCall target taken) : taken ≠ [] := by
  obtain ⟨name, -, before, after, quoted, -, -, -, rfl⟩ := h
  simp

theorem not_isBlank_of_isQuotationMark {c : Char} (h : isQuotationMark c = true) :
    Text.isBlank c = false := by
  simp only [isQuotationMark, Bool.or_eq_true, beq_iff_eq] at h
  obtain (rfl | rfl) | rfl := h <;> decide

/-- No name of a function that navigates goes on to another. -/
theorem eq_of_navigators {name name' : String} (h : name ∈ navigators) (h' : name' ∈ navigators)
    {rest rest' : List Char} (heq : name.toList ++ rest = name'.toList ++ rest') :
    name = name' := by
  have hall : ∀ a ∈ navigators, ∀ b ∈ navigators, a.toList <+: b.toList → a = b := by
    decide +kernel
  have hprefix : name'.toList <+: name.toList ++ rest := heq ▸ List.prefix_append _ _
  obtain hlonger | hlonger :=
    List.prefix_or_prefix_of_prefix (List.prefix_append name.toList rest) hprefix
  · exact hall name h name' h' hlonger
  · exact (hall name' h' name h hlonger).symm

/-- **No text begins with calls to two targets.** -/
theorem IsCall.target_unique {target' taken' later later' : List Char} (h : IsCall target taken)
    (h' : IsCall target' taken') (heq : taken ++ later = taken' ++ later') : target = target' := by
  obtain ⟨name, hname, before, after, _, hbefore, hafter, hquoted, rfl⟩ := h
  obtain ⟨name', hname', before', after', _, hbefore', hafter', hquoted', rfl⟩ := h'
  obtain ⟨htarget, opening, closing, hopening, hclosing, rfl⟩ := hquoted
  obtain ⟨htarget', opening', closing', hopening', hclosing', rfl⟩ := hquoted'
  simp only [List.append_assoc, List.cons_append, List.nil_append] at heq
  obtain rfl := eq_of_navigators hname hname' heq
  have hbracket : Text.isBlank '(' = false := by decide
  obtain ⟨-, heq⟩ := Text.append_cons_inj Text.isBlank hbefore hbefore' hbracket hbracket
    (List.append_cancel_left heq)
  obtain ⟨-, heq⟩ := Text.append_cons_inj Text.isBlank hafter hafter'
    (not_isBlank_of_isQuotationMark hopening) (not_isBlank_of_isQuotationMark hopening') heq
  exact (Text.append_cons_inj (fun c => !isQuotationMark c)
    (fun c hc => by simp [(htarget.plain c hc).1]) (fun c hc => by simp [(htarget'.plain c hc).1])
    (by simp [hclosing]) (by simp [hclosing']) heq).1

/-! ### Where references stand -/

/-- The two characters that a text has at a position. -/
def opening (text : List Char) (position : Nat) : List Char := (text.drop position).take 2

/-- How links begin. -/
def linkOpenings : List (List Char) := [['<', 'L']]

/-- How calls begin that navigate. -/
def callOpenings : List (List Char) := [['n', 'a'], ['r', 'o'], ['h', 'i']]

/-- How redirecting tags and calls begin. -/
def redirectOpenings : List (List Char) := [['<', 'N'], ['r', 'e']]

/-- A name that a text has at a position opens it. -/
theorem opening_of_drop {openings : List (List Char)} {position : Nat} {name : String}
    {later : List Char} (h : text.drop position = name.toList ++ later)
    (hname : 2 ≤ name.toList.length ∧ name.toList.take 2 ∈ openings) :
    opening text position ∈ openings := by
  rw [opening, h, List.take_append_of_le_length hname.1]
  exact hname.2

/-- A call that navigates to a target stands at a position of a text. -/
def CallAt (text : List Char) (position : Nat) (target : List Char) : Prop :=
  ∃ taken later, IsCall target taken ∧ text.drop position = taken ++ later

theorem CallAt.opening_mem {position : Nat} (h : CallAt text position target) :
    opening text position ∈ callOpenings := by
  obtain ⟨taken, later, ⟨name, hname, before, after, quoted, -, -, -, rfl⟩, hdrop⟩ := h
  have hopening : ∀ name ∈ navigators, 2 ≤ name.toList.length ∧
      name.toList.take 2 ∈ callOpenings := by decide +kernel
  rw [List.append_assoc] at hdrop
  exact opening_of_drop hdrop (hopening name hname)

theorem CallAt.unique {position : Nat} {target' : List Char} (h : CallAt text position target)
    (h' : CallAt text position target') : target = target' := by
  obtain ⟨taken, later, hcall, hdrop⟩ := h
  obtain ⟨taken', later', hcall', hdrop'⟩ := h'
  exact hcall.target_unique hcall' (hdrop.symm.trans hdrop')

theorem CallAt.isTarget {position : Nat} (h : CallAt text position target) : IsTarget target := by
  obtain ⟨taken, later, ⟨name, hname, before, after, quoted, -, -, hquoted, -⟩, hdrop⟩ := h
  exact hquoted.1

/-- **A link that is found has a target**, which is not lost in what is read behind it. -/
theorem link_of_mem_findAll (hm : m ∈ linkPattern.findAll text) :
    opening text m.start ∈ linkOpenings ∧ IsTarget (m.text 1).toList := by
  obtain ⟨p, hplace, w, hw, rfl⟩ := exists_place_of_mem_findAll hm
  -- Six parts stand between the name of the tag and the target.
  obtain ⟨tag, htag, hw⟩ := mem_ways_sequence_cons.1 hw
  obtain ⟨fore, hfore, hw⟩ := (mem_ways_sequence_cut 6).1 hw
  obtain ⟨v, hv, hw⟩ := mem_ways_sequence_cons.1 hw
  obtain ⟨target, taken, hquoted, -, htext⟩ := quoted_of_mem_ways hv
  have hkept : w.2.text? 1 = v.2.text? 1 := by
    rw [Captures.text?, get?_of_mem_ways (by decide +kernel) hw, Captures.text?]
  refine ⟨?_, ?_⟩
  · have hname := (reaches_of_mem_ways_literal htag).rest_eq
    exact opening_of_drop (hplace.trans hname) (by decide +kernel)
  · rw [Match.text, Match.text?, hkept, htext]
    simpa using hquoted.1

/-- **A call that is found is written as one at its position.** -/
theorem call_of_mem_findAll (hm : m ∈ callPattern.findAll text) :
    CallAt text m.start (m.text 1).toList := by
  obtain ⟨p, hplace, w, hw, rfl⟩ := exists_place_of_mem_findAll hm
  obtain ⟨v, hv, hw⟩ := mem_ways_seq.1 hw
  obtain ⟨-, rfl⟩ := mem_ways_notAfter.1 hv
  obtain ⟨target, taken, hcall, hreaches, htext⟩ := call_of_mem_ways hw
  refine ⟨taken, w.1.rest, ?_, hplace.trans hreaches.rest_eq⟩
  rw [Match.text, Match.text?, htext]
  simpa using hcall

/-- **A call that is found behind a condition stands within the match**, at the position that is
remembered for it. -/
theorem conditional_of_mem_findAll (hm : m ∈ conditionalPattern.findAll text) :
    ∃ position, m.position? 1 = some position ∧ m.start ≤ position ∧ position < m.stop ∧
      CallAt text position (m.text 2).toList := by
  obtain ⟨p, hplace, w, hw, rfl⟩ := exists_place_of_mem_findAll hm
  -- The call is the last of eleven parts.
  obtain ⟨v, hv, hw⟩ := (mem_ways_sequence_cut 10).1 hw
  obtain ⟨u, hu, rfl⟩ := mem_ways_capture.1 hw
  obtain ⟨front, hfront⟩ := ways_reach hv
  obtain ⟨target, taken, hcall, hreaches, htext⟩ := call_of_mem_ways hu
  have hdrop : text.drop v.1.position = taken ++ u.1.rest :=
    (hfront.drop_eq hplace).trans hreaches.rest_eq
  have hlength : 0 < taken.length := List.length_pos_iff.2 hcall.ne_nil
  have hstart := hfront.position_eq
  have hstop := hreaches.position_eq
  refine ⟨v.1.position, rfl, ?_, ?_, taken, u.1.rest, ?_, hdrop⟩
  · dsimp only
    omega
  · dsimp only
    omega
  · have hslot : Match.text? ⟨p.position, u.1.position, (1, ⟨v.1.position, v.1.textTo u.1⟩) :: u.2⟩
        2 = u.2.text? 2 := rfl
    rw [Match.text, hslot, htext]
    simpa using hcall

/-- A redirect leads to a target: the one of a tag if there is a tag, else that of a call. -/
def RedirectsTo (m : Match) (target : String) : Prop :=
  m.text? 1 = some target ∨ m.text? 1 = none ∧ m.text? 2 = some target

/-- **A redirect that is found has a target.** -/
theorem redirect_of_mem_findAll (hm : m ∈ redirectPattern.findAll text) :
    opening text m.start ∈ redirectOpenings ∧
      ∃ target, RedirectsTo m target ∧ IsTarget target.toList := by
  obtain ⟨p, hplace, w, hw, rfl⟩ := exists_place_of_mem_findAll hm
  obtain hw | hw := mem_ways_alt.1 hw
  · obtain ⟨tag, htag, hw⟩ := mem_ways_sequence_cons.1 hw
    obtain ⟨fore, hfore, hw⟩ := (mem_ways_sequence_cut 5).1 hw
    obtain ⟨target, taken, hquoted, -, htext⟩ := quoted_of_mem_ways hw
    refine ⟨?_, String.ofList target, .inl htext, ?_⟩
    · have hname := (reaches_of_mem_ways_literal htag).rest_eq
      exact opening_of_drop (hplace.trans hname) (by decide +kernel)
    · rw [String.toList_ofList]
      exact hquoted.1
  · -- Nothing is put into the first slot, so that the second one is read.
    have hnone : w.2.text? 1 = none := by
      rw [Captures.text?, get?_of_mem_ways (by decide +kernel) hw]
      rfl
    obtain ⟨fresh, hfresh, hw⟩ := mem_ways_sequence_cons.1 hw
    obtain ⟨-, rfl⟩ := mem_ways_notAfter.1 hfresh
    obtain ⟨named, hnamed, hw⟩ := mem_ways_sequence_cons.1 hw
    obtain ⟨fore, hfore, hw⟩ := (mem_ways_sequence_cut 3).1 hw
    obtain ⟨target, taken, hquoted, -, htext⟩ := quoted_of_mem_ways hw
    refine ⟨?_, String.ofList target, .inr ⟨hnone, htext⟩, ?_⟩
    · have hname := (reaches_of_mem_ways_literal hnamed).rest_eq
      exact opening_of_drop (hplace.trans hname) (by decide +kernel)
    · rw [String.toList_ofList]
      exact hquoted.1

/-! ### References in order -/

/-- A call with a condition before it is reported under one. -/
def IsConditional (text : List Char) (position : Nat) : Prop :=
  ∃ m ∈ conditionalPattern.findAll text, m.position? 1 = some position

/-- A reference is reported once, and at its position nothing else is. -/
def ReportedOnce (reported : List Reference) (r : Reference) : Prop :=
  reported.filter (·.position == r.position) = [r]

theorem reportedOnce_of_mem {reported : List Reference}
    (h : reported.Pairwise fun r s => r.position < s.position) {r : Reference}
    (hr : r ∈ reported) : ReportedOnce reported r := by
  induction h with
  | nil => cases hr
  | @cons first rest hfirst hrest ih =>
    obtain rfl | hr := List.mem_cons.1 hr
    · have hnone : rest.filter (·.position == r.position) = [] := by
        rw [List.filter_eq_nil_iff]
        intro s hs heq
        exact Nat.ne_of_gt (hfirst s hs) (beq_iff_eq.1 heq)
      rw [ReportedOnce, List.filter_cons_of_pos (by simp), hnone]
    · have hother : ¬ (first.position == r.position) = true := by
        rw [beq_iff_eq]
        exact Nat.ne_of_lt (hfirst r hr)
      rw [ReportedOnce, List.filter_cons, if_neg hother]
      exact ih hr

/-- What a click on a link is called: by the text of the link without the blanks around it, or by
what it is if there is nothing else. -/
inductive IsClickOn (inner : List Char) : String → Prop where
  | label {before label after : List Char} (hinner : inner = before ++ label ++ after)
      (hbefore : ∀ c ∈ before, Text.isBlank c = true) (hafter : ∀ c ∈ after, Text.isBlank c = true)
      (hne : label ≠ []) (hhead : ∀ c ∈ label.head?, Text.isBlank c = false)
      (hlast : ∀ c ∈ label.getLast?, Text.isBlank c = false) :
      IsClickOn inner (String.ofList label ++ " click")
  | blank (h : ∀ c ∈ inner, Text.isBlank c = true) : IsClickOn inner "Link click"

/-- A link is reported with its target, at its position. -/
theorem linkReference_eq (m : Match) : ∃ trigger, IsClickOn (m.text 2).toList trigger ∧
    linkReference m = ⟨m.text 1, .navigation, trigger, none, m.start⟩ := by
  unfold linkReference
  -- What is left of the text between the tags decides: nothing, or a label.
  cases hlabel : Text.trim (m.text 2).toList with
  | nil => exact ⟨"Link click", .blank (Text.trimWhile_eq_nil_iff.1 hlabel), rfl⟩
  | cons c label =>
    obtain ⟨before, after, hinner, hbefore, hafter⟩ :=
      Text.exists_eq_trimWhile Text.isBlank (m.text 2).toList
    have hhead : ∀ d ∈ (Text.trim (m.text 2).toList).head?, Text.isBlank d = false :=
      Text.head?_trimWhile
    have hlast : ∀ d ∈ (Text.trim (m.text 2).toList).getLast?, Text.isBlank d = false :=
      Text.getLast?_trimEndWhile
    rw [← Text.trim, hlabel] at hinner
    rw [hlabel] at hhead hlast
    exact ⟨_, .label hinner hbefore hafter (List.cons_ne_nil c label) hhead hlast, rfl⟩

/-- A redirect is reported with the target that it leads to, at its position. -/
theorem redirectReference_eq {target : String} (h : RedirectsTo m target) :
    redirectReference m = ⟨target, .redirect, "Automatic redirect", none, m.start⟩ := by
  obtain h | ⟨hnone, h⟩ := h
  · rw [redirectReference, h, Option.getD_some]
  · rw [redirectReference, hnone, Option.getD_none, Match.text, h, Option.getD_some]

/-- A call behind a condition is reported at the position that is remembered for it. -/
theorem conditionalReference_eq {position : Nat} (h : m.position? 1 = some position) :
    conditionalReference m = ⟨m.text 2, .conditional, "Conditional redirect",
      some "Based on state/props", position⟩ := by
  rw [conditionalReference, h, Option.getD_some]

theorem position_conditionalReference {position : Nat} (h : m.position? 1 = some position) :
    (conditionalReference m).position = position := by
  rw [conditionalReference_eq h]

theorem any_conditional_iff {position : Nat} :
    ((conditionalPattern.findAll text).map conditionalReference).any
      (·.position == position) = true ↔ IsConditional text position := by
  rw [List.any_eq_true]
  constructor
  · rintro ⟨r, hr, hposition⟩
    obtain ⟨m, hm, rfl⟩ := List.mem_map.1 hr
    obtain ⟨q, hq, -⟩ := conditional_of_mem_findAll hm
    rw [position_conditionalReference hq, beq_iff_eq] at hposition
    exact ⟨m, hm, hposition ▸ hq⟩
  · rintro ⟨m, hm, hposition⟩
    refine ⟨_, List.mem_map_of_mem hm, ?_⟩
    rw [position_conditionalReference hposition, beq_self_eq_true]

/-- What is found of one sort stands at different positions, from left to right. -/
theorem pairwise_conditional : ((conditionalPattern.findAll text).map conditionalReference).Pairwise
    fun r s => r.position ≠ s.position := by
  rw [List.pairwise_map]
  refine pairwise_findAll.imp_of_mem fun {m n} hm hn h => ?_
  obtain ⟨q, hq, -, hstop, -⟩ := conditional_of_mem_findAll hm
  obtain ⟨q', hq', hstart, -, -⟩ := conditional_of_mem_findAll hn
  rw [position_conditionalReference hq, position_conditionalReference hq']
  have := h.1
  omega

/-- References that stand where their matches begin stand at different positions. -/
theorem pairwise_map_findAll {pattern : Pattern} {reference : Match → Reference}
    (hposition : ∀ m, (reference m).position = m.start) :
    ((pattern.findAll text).map reference).Pairwise fun r s => r.position ≠ s.position := by
  rw [List.pairwise_map]
  refine pairwise_findAll.imp fun {m n} h => ?_
  rw [hposition, hposition]
  exact Nat.ne_of_lt h.2

theorem mem_unorderedReferences {r : Reference} : r ∈ unorderedReferences text ↔
    (∃ m ∈ linkPattern.findAll text, linkReference m = r) ∨
      (∃ m ∈ conditionalPattern.findAll text, conditionalReference m = r) ∨
      (∃ m ∈ callPattern.findAll text, ¬ IsConditional text m.start ∧ callReference m = r) ∨
      ∃ m ∈ redirectPattern.findAll text, redirectReference m = r := by
  have hcalls : r ∈ ((callPattern.findAll text).map callReference).filter (fun r =>
      !((conditionalPattern.findAll text).map conditionalReference).any
        (·.position == r.position)) ↔
      ∃ m ∈ callPattern.findAll text, ¬ IsConditional text m.start ∧ callReference m = r := by
    rw [List.mem_filter, List.mem_map, Bool.not_eq_true', ← Bool.not_eq_true,
      any_conditional_iff]
    constructor
    · rintro ⟨⟨m, hm, rfl⟩, hfree⟩
      exact ⟨m, hm, hfree, rfl⟩
    · rintro ⟨m, hm, hfree, rfl⟩
      exact ⟨⟨m, hm, rfl⟩, hfree⟩
  rw [unorderedReferences, List.mem_append, List.mem_append, List.mem_append, hcalls,
    List.mem_map, List.mem_map, List.mem_map, or_assoc, or_assoc]

/-- Texts that begin differently stand at different positions. -/
theorem ne_of_opening {first second : List (List Char)} {position position' : Nat}
    (hapart : ∀ begun ∈ first, begun ∉ second) (h : opening text position ∈ first)
    (h' : opening text position' ∈ second) : position ≠ position' := by
  rintro rfl
  exact hapart _ h h'

/-- **What the searches find stands at different positions**: links, calls and redirects begin
differently, and a call that is found twice is kept once. -/
theorem pairwise_unorderedReferences :
    (unorderedReferences text).Pairwise fun r s => r.position ≠ s.position := by
  have hlink : ∀ r ∈ (linkPattern.findAll text).map linkReference,
      opening text r.position ∈ linkOpenings := by
    intro r hr
    obtain ⟨m, hm, rfl⟩ := List.mem_map.1 hr
    exact (link_of_mem_findAll hm).1
  have hconditional : ∀ r ∈ (conditionalPattern.findAll text).map conditionalReference,
      opening text r.position ∈ callOpenings := by
    intro r hr
    obtain ⟨m, hm, rfl⟩ := List.mem_map.1 hr
    obtain ⟨position, hposition, -, -, hcall⟩ := conditional_of_mem_findAll hm
    rw [position_conditionalReference hposition]
    exact hcall.opening_mem
  have hcall : ∀ r ∈ (callPattern.findAll text).map callReference,
      opening text r.position ∈ callOpenings := by
    intro r hr
    obtain ⟨m, hm, rfl⟩ := List.mem_map.1 hr
    exact (call_of_mem_findAll hm).opening_mem
  have hredirect : ∀ r ∈ (redirectPattern.findAll text).map redirectReference,
      opening text r.position ∈ redirectOpenings := by
    intro r hr
    obtain ⟨m, hm, rfl⟩ := List.mem_map.1 hr
    exact (redirect_of_mem_findAll hm).1
  unfold unorderedReferences
  simp only [List.pairwise_append, List.mem_append]
  refine ⟨⟨⟨pairwise_map_findAll fun _ => rfl, pairwise_conditional, ?_⟩,
    (pairwise_map_findAll fun _ => rfl).filter _, ?_⟩, pairwise_map_findAll fun _ => rfl, ?_⟩
  · exact fun r hr s hs => ne_of_opening (by decide) (hlink r hr) (hconditional s hs)
  · rintro r (hr | hr) s hs
    · exact ne_of_opening (by decide) (hlink r hr) (hcall s (List.mem_filter.1 hs).1)
    · intro heq
      have hfree := (List.mem_filter.1 hs).2
      rw [Bool.not_eq_true', List.any_eq_false] at hfree
      exact hfree r hr (beq_iff_eq.2 heq)
  · rintro r ((hr | hr) | hr) s hs
    · exact ne_of_opening (by decide) (hlink r hr) (hredirect s hs)
    · exact ne_of_opening (by decide) (hconditional r hr) (hredirect s hs)
    · exact ne_of_opening (by decide) (hcall r (List.mem_filter.1 hr).1) (hredirect s hs)

theorem mem_references {text : String} {r : Reference} :
    r ∈ references text ↔ r ∈ unorderedReferences text.toList :=
  (List.mergeSort_perm _ _).mem_iff

/-- **References stand in the order of their positions, and no two at the same.** -/
theorem pairwise_references (text : String) :
    (references text).Pairwise fun r s => r.position < s.position := by
  have hsorted : (references text).Pairwise fun r s => r.position ≤ s.position := by
    refine (List.pairwise_mergeSort ?_ ?_ _).imp of_decide_eq_true
    · intro r s t hrs hst
      exact decide_eq_true (Nat.le_trans (of_decide_eq_true hrs) (of_decide_eq_true hst))
    · intro r s
      simpa using Nat.le_total r.position s.position
  have hapart : (references text).Pairwise fun r s => r.position ≠ s.position :=
    ((List.mergeSort_perm _ _).pairwise_iff Ne.symm).2 pairwise_unorderedReferences
  exact (hsorted.and hapart).imp fun h => Nat.lt_of_le_of_ne h.1 h.2

theorem reportedOnce_of_mem_unordered {text : String} {r : Reference}
    (hr : r ∈ unorderedReferences text.toList) : ReportedOnce (references text) r :=
  reportedOnce_of_mem (pairwise_references text) (mem_references.2 hr)

/-- A list is an **account** of a text if it says of everything that leads elsewhere where it stands
and where it leads, once, and says nothing else. -/
structure IsAccountOf (text : List Char) (reported : List Reference) : Prop where
  /-- No two references share a position. -/
  increasing : reported.Pairwise fun r s => r.position < s.position
  /-- Every link is reported with its own target and at its own position. -/
  link : ∀ m ∈ linkPattern.findAll text, ∃ trigger, IsClickOn (m.text 2).toList trigger ∧
    ReportedOnce reported ⟨m.text 1, .navigation, trigger, none, m.start⟩
  /-- Every redirect is reported with the target that it leads to and at its own position. -/
  redirect : ∀ m ∈ redirectPattern.findAll text, ∃ target, RedirectsTo m target ∧
    ReportedOnce reported ⟨target, .redirect, "Automatic redirect", none, m.start⟩
  /-- Every call behind a condition is reported, at the position of the call. -/
  conditional : ∀ m ∈ conditionalPattern.findAll text, ∃ position, m.position? 1 = some position ∧
    ReportedOnce reported
      ⟨m.text 2, .conditional, "Conditional redirect", some "Based on state/props", position⟩
  /-- Every call is reported with its own target and at its own position, whether a condition stands
  before it or not. -/
  call : ∀ m ∈ callPattern.findAll text,
    (IsConditional text m.start → ReportedOnce reported
      ⟨m.text 1, .conditional, "Conditional redirect", some "Based on state/props", m.start⟩) ∧
    (¬ IsConditional text m.start → ReportedOnce reported
      ⟨m.text 1, .navigation, "Programmatic navigation", none, m.start⟩)
  /-- Nothing else is reported. -/
  only : ∀ r ∈ reported,
    (∃ m ∈ linkPattern.findAll text, ∃ trigger, IsClickOn (m.text 2).toList trigger ∧
      r = ⟨m.text 1, .navigation, trigger, none, m.start⟩) ∨
    (∃ m ∈ conditionalPattern.findAll text, ∃ position, m.position? 1 = some position ∧
      r = ⟨m.text 2, .conditional, "Conditional redirect", some "Based on state/props",
        position⟩) ∨
    (∃ m ∈ callPattern.findAll text, ¬ IsConditional text m.start ∧
      r = ⟨m.text 1, .navigation, "Programmatic navigation", none, m.start⟩) ∨
    ∃ m ∈ redirectPattern.findAll text, ∃ target, RedirectsTo m target ∧
      r = ⟨target, .redirect, "Automatic redirect", none, m.start⟩
  /-- Every target is one that is written out. -/
  target : ∀ r ∈ reported, IsTarget r.target.toList

/-- **The references of a text are an account of it.**  A call that a condition stands before is in
the list for the condition's sake; what it says of the target is right because a text names only one
at a position. -/
theorem references_isAccountOf (text : String) : IsAccountOf text.toList (references text) where
  increasing := pairwise_references text
  link m hm := by
    obtain ⟨trigger, htrigger, heq⟩ := linkReference_eq m
    refine ⟨trigger, htrigger, ?_⟩
    rw [← heq]
    exact reportedOnce_of_mem_unordered (mem_unorderedReferences.2 (.inl ⟨m, hm, rfl⟩))
  redirect m hm := by
    obtain ⟨-, target, hredirects, -⟩ := redirect_of_mem_findAll hm
    refine ⟨target, hredirects, ?_⟩
    rw [← redirectReference_eq hredirects]
    exact reportedOnce_of_mem_unordered
      (mem_unorderedReferences.2 (.inr (.inr (.inr ⟨m, hm, rfl⟩))))
  conditional m hm := by
    obtain ⟨position, hposition, -⟩ := conditional_of_mem_findAll hm
    refine ⟨position, hposition, ?_⟩
    rw [← conditionalReference_eq hposition]
    exact reportedOnce_of_mem_unordered (mem_unorderedReferences.2 (.inr (.inl ⟨m, hm, rfl⟩)))
  call m hm := by
    constructor
    · rintro ⟨c, hc, hposition⟩
      obtain ⟨position, hposition', -, -, hcall⟩ := conditional_of_mem_findAll hc
      obtain rfl : m.start = position := Option.some.inj (hposition.symm.trans hposition')
      have htarget : m.text 1 = c.text 2 :=
        String.toList_inj.1 ((call_of_mem_findAll hm).unique hcall)
      rw [htarget, ← conditionalReference_eq hposition]
      exact reportedOnce_of_mem_unordered (mem_unorderedReferences.2 (.inr (.inl ⟨c, hc, rfl⟩)))
    · exact fun hfree => reportedOnce_of_mem_unordered
        (mem_unorderedReferences.2 (.inr (.inr (.inl ⟨m, hm, hfree, rfl⟩))))
  only r hr := by
    obtain ⟨m, hm, rfl⟩ | ⟨m, hm, rfl⟩ | ⟨m, hm, hfree, rfl⟩ | ⟨m, hm, rfl⟩ :=
      mem_unorderedReferences.1 (mem_references.1 hr)
    · exact .inl ⟨m, hm, linkReference_eq m⟩
    · obtain ⟨position, hposition, -⟩ := conditional_of_mem_findAll hm
      exact .inr (.inl ⟨m, hm, position, hposition, conditionalReference_eq hposition⟩)
    · exact .inr (.inr (.inl ⟨m, hm, hfree, rfl⟩))
    · obtain ⟨-, target, hredirects, -⟩ := redirect_of_mem_findAll hm
      exact .inr (.inr (.inr ⟨m, hm, target, hredirects, redirectReference_eq hredirects⟩))
  target r hr := by
    obtain ⟨m, hm, rfl⟩ | ⟨m, hm, rfl⟩ | ⟨m, hm, -, rfl⟩ | ⟨m, hm, rfl⟩ :=
      mem_unorderedReferences.1 (mem_references.1 hr)
    · exact (link_of_mem_findAll hm).2
    · obtain ⟨position, -, -, -, hcall⟩ := conditional_of_mem_findAll hm
      exact hcall.isTarget
    · exact (call_of_mem_findAll hm).isTarget
    · obtain ⟨-, target, hredirects, htarget⟩ := redirect_of_mem_findAll hm
      rwa [redirectReference_eq hredirects]

/-- Both calls are found by the search for calls, and the first one by that for conditions too. -/
example : (unorderedReferences "if (a) navigate(\"/b\"); router.push(\"/c\")".toList).map
    (fun r => (r.position, r.kind, r.target)) =
      [(7, .conditional, "/b"), (23, .navigation, "/c")] := by
  decide +kernel

end NavGraph.Source

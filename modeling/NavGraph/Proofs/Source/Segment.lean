import NavGraph.Proofs.Source.Extension
import NavGraph.Proofs.Text.LowerCase
import NavGraph.Proofs.Text.Trim

/-!
# Segments with parameters

A segment of a path is text and parameters in brackets, in any number and order.  The pattern that
finds the parameters tries brackets and points that are optional, and gives back a bracket that it
should not have taken; what it finds all the same is every parameter, whole, and nothing else.

## Main definitions

* `Parameter` - a parameter with the way it is bracketed
* `Translates` - a segment of a path and the segment of a route that it means

## Main statements

* `at?_bracketGroup` - at a parameter the pattern takes it, whole
* `Translates.routeSegment_eq` - a segment is written in a route as its grammar says
* `LosesExtension.exists_translates` - a segment that loses its extension is one still
-/

namespace NavGraph.Source

open Pattern

/-- A text without brackets. -/
def IsPlain (text : List Char) : Prop := ∀ c ∈ text, c ≠ '[' ∧ c ≠ ']'

instance (text : List Char) : Decidable (IsPlain text) := List.decidableBAll _ text

/-- A parameter of a route, as a segment of a path spells it. -/
structure Parameter where
  name : List Char
  /-- Whether it stands in two pairs of brackets. -/
  doubled : Bool
  /-- Whether three points stand before its name. -/
  dotted : Bool
  ne_nil : name ≠ []
  plain : IsPlain name
  /-- Points before a name do not belong to it. -/
  pointless : ¬ "...".toList <+: name

/-- What stands before the name of a parameter. -/
def Parameter.opening (parameter : Parameter) : List Char :=
  ['['] ++ ((if parameter.doubled then ['['] else []) ++
    if parameter.dotted then "...".toList else [])

/-- What stands behind the name of a parameter. -/
def Parameter.closing (parameter : Parameter) : List Char :=
  (if parameter.doubled then [']'] else []) ++ [']']

/-- A parameter in its brackets. -/
def Parameter.spelling (parameter : Parameter) : List Char :=
  parameter.opening ++ (parameter.name ++ parameter.closing)

/-- **The grammar of segments**: text without brackets, which is put into lower case, and parameters
between such texts, which are put behind a colon as they are. -/
inductive Translates : List Char → List Char → Prop
  | text {text : List Char} (plain : IsPlain text) : Translates text (Text.lower text)
  | parameter {text rest out : List Char} (plain : IsPlain text) (parameter : Parameter)
      (tail : Translates rest out) :
      Translates (text ++ (parameter.spelling ++ rest))
        (Text.lower text ++ (':' :: parameter.name ++ out))

/-! ### Parameters -/

variable {p : Place} {rest : List Char} {cs : Captures}

/-- **Behind a name the brackets are taken that belong to the parameter.**  If there is one, it is
taken for the optional one and then given back. -/
theorem run_closing {α : Type} {k : Place → Captures → Option α} {a : α} {parameter : Parameter}
    (hp : p.rest = parameter.closing ++ rest) (hrest : rest.head? ≠ some ']')
    (hk : k (p.after parameter.closing rest) cs = some a) :
    run (sequence [optional (single ']'), single ']']) k p cs = some a := by
  rw [run_sequence_cons]
  rw [Parameter.closing] at hp hk
  cases hdoubled : parameter.doubled with
  | true =>
    have hp : p.rest = ']' :: ']' :: rest := by simpa [hdoubled] using hp
    refine run_optional_of_some ?_
    rw [run_single_of_cons hp]
    refine (run_single_of_cons Place.after_rest).trans ?_
    simpa [hdoubled] using hk
  | false =>
    have hp : p.rest = ']' :: rest := by simpa [hdoubled] using hp
    have hback : run (single ']') (run (sequence [single ']']) k) p cs = none := by
      rw [run_single_of_cons hp]
      exact run_single_eq_none hrest
    rw [run_optional_of_none hback]
    refine (run_single_of_cons hp).trans ?_
    simpa [hdoubled] using hk

/-- **Before a name everything is taken that does not belong to it.**  Neither a bracket nor three
points can be taken from the name. -/
theorem run_opening {α : Type} {k : Place → Captures → Option α} {a : α} {parameter : Parameter}
    {others : List Pattern} (hp : p.rest = parameter.opening ++ (parameter.name ++ ']' :: rest))
    (hk : run (sequence others) k (p.after parameter.opening (parameter.name ++ ']' :: rest)) cs =
      some a) :
    run (sequence (single '[' :: optional (single '[') :: optional (literal "...") :: others)) k p
      cs = some a := by
  have hbracket : optional (single '[') = optional (sequence (['['].map single)) := rfl
  have hfresh : ¬ ['['] <+: (if parameter.dotted then "...".toList else []) ++
      (parameter.name ++ ']' :: rest) := by
    intro h
    cases hdotted : parameter.dotted with
    | true => simp [hdotted] at h
    | false =>
      rw [hdotted] at h
      have hname := (Text.prefix_of_prefix_append_cons (by decide) h).subset List.mem_cons_self
      exact (parameter.plain '[' hname).1 rfl
  have hpointless : ¬ "...".toList <+: parameter.name ++ ']' :: rest :=
    fun h => parameter.pointless (Text.prefix_of_prefix_append_cons (by decide) h)
  -- Each optional part is tried where the one before it has ended.
  simp only [Parameter.opening, List.append_assoc] at hp hk
  rw [run_sequence_cons, run_single_of_cons hp, run_sequence_cons, hbracket]
  refine run_optional_letters Place.after_rest (fun _ => hfresh) ?_
  rw [run_sequence_cons, literal]
  refine run_optional_letters Place.after_rest (fun _ => hpointless) ?_
  rw [Place.after_after, Place.after_after]
  simpa using hk

theorem Parameter.exists_closing (parameter : Parameter) (rest : List Char) :
    ∃ tail, parameter.closing ++ rest = ']' :: tail := by
  cases h : parameter.doubled <;> simp [closing, h]

/-- **At a parameter the pattern takes it, whole.** -/
theorem matchAt_bracketGroup {parameter : Parameter} (hp : p.rest = parameter.spelling ++ rest)
    (hrest : rest.head? ≠ some ']') :
    bracketGroup.matchAt p = some (p.after parameter.spelling rest,
      [(1, ⟨p.position + parameter.opening.length, parameter.name⟩)]) := by
  obtain ⟨tail, htail⟩ := parameter.exists_closing rest
  have hname : ∀ d ∈ parameter.name, noneOf "[]" d = true := by
    intro d hd
    have := parameter.plain d hd
    simp [noneOf, this]
  simp only [Parameter.spelling, List.append_assoc, htail] at hp
  refine run_opening hp ?_
  rw [run_sequence_cons, run]
  refine run_oneOrMore Place.after_rest parameter.ne_nil hname (by simp; decide) ?_
  refine run_closing (Place.after_rest.trans htail.symm) hrest ?_
  rw [Place.textTo_after Place.after_rest, Place.after_after, Place.after_after]
  simp [Parameter.spelling]

theorem at?_bracketGroup_eq_none {q : Place} (h : q.rest.head? ≠ some '[') :
    bracketGroup.at? q = none := by
  rw [at?, matchAt, bracketGroup, run_sequence_cons, run_single_eq_none h]
  rfl

theorem at?_bracketGroup {parameter : Parameter} (hp : p.rest = parameter.spelling ++ rest)
    (hrest : rest.head? ≠ some ']') :
    bracketGroup.at? p = some ⟨p.position, (p.after parameter.spelling rest).position,
      [(1, ⟨p.position + parameter.opening.length, parameter.name⟩)]⟩ := by
  rw [at?, matchAt_bracketGroup hp hrest]
  rfl

/-! ### Segments -/

theorem IsPlain.lower {text : List Char} (h : IsPlain text) : IsPlain (Text.lower text) := by
  intro c hc
  constructor
  · rintro rfl
    exact (h _ (Text.mem_of_bracket_mem_lower (.inl rfl) hc)).1 rfl
  · rintro rfl
    exact (h _ (Text.mem_of_bracket_mem_lower (.inr rfl) hc)).2 rfl

theorem Parameter.spelling_ne_nil (parameter : Parameter) : parameter.spelling ≠ [] := nofun

theorem IsPlain.head?_ne {text : List Char} (h : IsPlain text) : text.head? ≠ some ']' :=
  fun hhead => (h ']' (List.mem_of_head? hhead)).2 rfl

/-- No segment begins with a bracket that closes something. -/
theorem Translates.head?_ne {text out : List Char} (h : Translates text out) :
    text.head? ≠ some ']' := by
  cases h with
  | text plain => exact plain.head?_ne
  | @parameter text rest out plain parameter tail =>
    cases text with
    | nil => simp [Parameter.spelling, Parameter.opening]
    | cons c text => exact plain.head?_ne

/-- A piece of a segment as it stands in a route. -/
def routePiece : Piece → List Char
  | .plain text => Text.lower text
  | .found m => ':' :: (m.text 1).toList

theorem routeSegment_eq_flatMap (segment : List Char) :
    routeSegment segment = (bracketGroup.pieces segment).flatMap routePiece := by
  rw [routeSegment]
  congr 1

/-- A search for parameters passes over text without brackets. -/
theorem findAllFrom_plain {text : List Char} (h : IsPlain text) (p : Place) (start : Nat) :
    findAllFrom bracketGroup p.before p.position start (text ++ rest) =
      findAllFrom bracketGroup (p.after text rest).before (p.after text rest).position start
        rest := by
  refine findAllFrom_append p fun q c tail hq hc _ _ => at?_bracketGroup_eq_none ?_
  rw [hq, List.head?_cons]
  rintro ⟨⟩
  exact (h '[' hc).1 rfl

/-- **From every place on a segment is written as its grammar says**, by induction on its
parameters: the search passes over the text before one, takes it, and goes on behind it. -/
theorem Translates.flatMap_piecesFrom {text out : List Char} (h : Translates text out) (p : Place) :
    (piecesFrom p.position text
      (findAllFrom bracketGroup p.before p.position p.position text)).flatMap routePiece = out := by
  induction h generalizing p with
  | @text text plain =>
    have hnone : findAllFrom bracketGroup p.before p.position p.position text = [] := by
      rw [← List.append_nil text, findAllFrom_plain plain p, findAllFrom,
        at?_bracketGroup_eq_none (by simp)]
      exact ite_self []
    rw [hnone]
    exact List.append_nil _
  | @parameter text rest out plain parameter tail ih =>
    -- What stands behind a parameter begins with no bracket that could be taken for one of its own.
    rw [findAllFrom_plain plain p, findAllFrom_of_match _ (Nat.le_add_right _ _)
      parameter.spelling_ne_nil (at?_bracketGroup rfl tail.head?_ne), piecesFrom, Place.after_after]
    have hbefore : (text ++ (parameter.spelling ++ rest)).take
        ((p.after text (parameter.spelling ++ rest)).position - p.position) = text := by
      rw [Place.after_position, Nat.add_sub_cancel_left, List.take_left]
    have hbehind : (text ++ (parameter.spelling ++ rest)).drop
        ((p.after (text ++ parameter.spelling) rest).position - p.position) = rest := by
      rw [Place.after_position, Nat.add_sub_cancel_left, ← List.append_assoc, List.drop_left]
    have hname : ∀ start stop position, routePiece
        (.found ⟨start, stop, [(1, ⟨position, parameter.name⟩)]⟩) = ':' :: parameter.name := by
      intro start stop position
      simp [routePiece, Match.text, Match.text?, Captures.text?, Captures.get?]
    rw [hbefore, hbehind, List.flatMap_cons, List.flatMap_cons, hname, ih]
    rfl

/-- **A segment is written in a route as its grammar says.** -/
theorem Translates.routeSegment_eq {text out : List Char} (h : Translates text out) :
    routeSegment text = out := by
  rw [routeSegment_eq_flatMap]
  exact h.flatMap_piecesFrom (Place.start text)

/-- What a segment with parameters means has no bracket in it. -/
theorem Translates.isPlain {text out : List Char} (h : Translates text out) : IsPlain out := by
  induction h with
  | text plain => exact plain.lower
  | @parameter text rest out plain parameter tail ih =>
    refine List.forall_mem_append.2 ⟨plain.lower, List.forall_mem_append.2 ⟨?_, ih⟩⟩
    exact List.forall_mem_cons.2 ⟨by decide, parameter.plain⟩

/-! ### Segments without an extension -/

/-- There are no brackets in an ending or behind it. -/
theorem IsScriptExtension.isPlain {ending tail : List Char} (h : IsScriptExtension ending)
    (htail : IsTail tail) : IsPlain (ending ++ tail) := by
  have hforms : ∀ form ∈ scriptExtensions.map String.toList, IsPlain form := by decide +kernel
  have hfold : Text.foldAscii '[' = '[' ∧ Text.foldAscii ']' = ']' := by decide
  have hending : IsPlain ending := by
    intro c hc
    have := hforms _ h _ (List.mem_map_of_mem hc)
    constructor
    · rintro rfl
      exact this.1 hfold.1
    · rintro rfl
      exact this.2 hfold.2
  refine List.forall_mem_append.2 ⟨hending, ?_⟩
  obtain rfl | rfl := htail
  · nofun
  · exact List.forall_mem_singleton.2 (by decide)

theorem Parameter.getLast?_spelling (parameter : Parameter) :
    parameter.spelling.getLast? = some ']' := by
  simp [spelling, closing]

/-- The last bracket of a parameter does not stand in a text without brackets at the end. -/
theorem Parameter.exists_between {parameter : Parameter} {text rest stem ending : List Char}
    (h : text ++ (parameter.spelling ++ rest) = stem ++ ending) (hending : IsPlain ending) :
    ∃ between, stem = text ++ (parameter.spelling ++ between) ∧ rest = between ++ ending := by
  rw [← List.append_assoc] at h
  obtain ⟨between, hstem, hrest⟩ | ⟨surplus, htext, hsurplus⟩ := List.append_eq_append_iff.1 h
  · exact ⟨between, by rw [hstem, List.append_assoc], hrest⟩
  · cases hlast : surplus.getLast? with
    | none =>
      obtain rfl := List.getLast?_eq_none_iff.1 hlast
      exact ⟨[], by simpa using htext.symm, by simpa using hsurplus.symm⟩
    | some c =>
      have hbracket := congrArg List.getLast? htext
      rw [List.getLast?_append, List.getLast?_append, parameter.getLast?_spelling,
        hlast] at hbracket
      obtain rfl : ']' = c := by simpa using hbracket
      have hmem : ']' ∈ ending := hsurplus ▸ List.mem_append_left _ (List.mem_of_getLast? hlast)
      exact absurd rfl (hending ']' hmem).2

/-- A text without brackets at the end of a segment may be exchanged for another one. -/
theorem Translates.exists_append {text out : List Char} (h : Translates text out)
    {stem ending ending' : List Char} (heq : text = stem ++ ending) (hending : IsPlain ending)
    (hending' : IsPlain ending') : ∃ out', Translates (stem ++ ending') out' := by
  induction h generalizing stem with
  | text plain =>
    subst heq
    refine ⟨_, .text (List.forall_mem_append.2 ⟨fun c hc => ?_, hending'⟩)⟩
    exact plain c (List.mem_append_left _ hc)
  | @parameter text rest out plain parameter tail ih =>
    obtain ⟨between, rfl, hrest⟩ := parameter.exists_between heq hending
    obtain ⟨out', hout'⟩ := ih hrest
    rw [List.append_assoc, List.append_assoc]
    exact ⟨_, .parameter plain parameter hout'⟩

/-- **What is left of a segment is a segment**: an extension has no bracket in it. -/
theorem LosesExtension.exists_translates {file stem out : List Char} (h : LosesExtension file stem)
    (hfile : Translates file out) : ∃ out', Translates stem out' := by
  cases h with
  | whole without => exact ⟨out, hfile⟩
  | ending stem hending htail =>
    have hplain := hending.isPlain htail
    exact hfile.exists_append rfl hplain fun c hc => hplain c (List.mem_append_right _ hc)

end NavGraph.Source

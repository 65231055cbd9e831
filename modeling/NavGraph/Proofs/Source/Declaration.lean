import NavGraph.Proofs.Pattern.First
import NavGraph.Proofs.Source.Description
import NavGraph.Source.Declaration

/-!
# How far a declaration reaches

An export counts as a declaration if a tag is returned behind the brace that opens its body.  No
brace closes the body: a function that returns no markup takes the first tag that is returned behind
it, in whatever function, for its own, and hides what is declared up to there.  Where no tag is
returned there is no declaration at all.

## Main definitions

* `returnedTag`, `openedTag` - a return and the tag behind it, or the sign that opens one
* `exportedFunction` - an exported function on a line of its own

## Main statements

* `declarations_eq_nil` - without a returned tag nothing is declared
* `declarations_exportedFunction` - what a function without tags in its body does to the
  declarations behind it
* `not_declarations_exportedFunction` - it hides some of them
-/

namespace NavGraph

namespace Source

open Pattern

/-! ### Words and blanks -/

/-- No word character is blank. -/
theorem isBlank_of_isWord {c : Char} (h : Text.isWord c = true) : Text.isBlank c = false := by
  have hblanks : ∀ n ∈ List.range' 9 5 ++ List.range' 28 5 ++ [0x85, 0xa0, 0x1680] ++
      List.range' 0x2000 11 ++ [0x2028, 0x2029, 0x202f, 0x205f, 0x3000],
      Text.isWord (Char.ofNat n) = false := by
    decide +kernel
  by_contra hblank
  rw [Bool.not_eq_false] at hblank
  refine absurd h (Bool.eq_false_iff.1 ?_)
  rw [← Char.ofNat_toNat c]
  refine hblanks _ ?_
  simp only [Text.isBlank, Bool.or_eq_true, Bool.and_eq_true, decide_eq_true_eq, beq_iff_eq]
    at hblank
  simp only [List.mem_append, List.mem_range'_1, List.mem_cons, List.not_mem_nil]
  omega

/-! ### Returned tags -/

/-- A return with the sign that opens a tag behind it. -/
def openedTag : Pattern :=
  .sequence [.literal "return", .blanks, .optional (.single '('), .blanks, .single '<']

/-- The parts of a return with a tag behind it, up to the end of the tag. -/
def tagParts : List Pattern :=
  [.literal "return", .blanks, .optional (.single '('), .blanks, .single '<', .few fun _ => true,
    .single '>']

/-- A return with a tag behind it. -/
def returnedTag : Pattern := .sequence tagParts

theorem returnedMarkup_eq : returnedMarkup =
    .sequence (.char (· == '\x7b') :: .few (fun _ => true) :: tagParts) := rfl

theorem isSimple_openedTag : openedTag.isSimple = true := rfl

theorem isBlind_openedTag : openedTag.isBlind = true := rfl

theorem isForward_openedTag : openedTag.isForward = true := rfl

/-- Between a return and the sign of its tag there is no brace. -/
theorem avoids_openedTag {c : Char} (h : c = '\x7b' ∨ c = '\x7d') : openedTag.avoids c = true := by
  obtain rfl | rfl := h <;> rfl

theorem isSimple_returnedTag : returnedTag.isSimple = true := rfl

theorem isForward_returnedTag : returnedTag.isForward = true := rfl

theorem isForward_declarationPattern : declarationPattern.isForward = true := rfl

variable {p : Place} {cs : Captures} {w : Place × Captures} {body rest text : List Char}

/-- A tag is returned only where one is opened. -/
theorem at?_returnedTag_eq_none (h : openedTag.at? p = none) : returnedTag.at? p = none := by
  rw [at?_eq_none_iff] at h ⊢
  intro w hw
  obtain ⟨v, hv, -⟩ := (mem_ways_sequence_cut 5).1 hw
  exact h v hv

/-- No return begins with a line feed. -/
theorem at?_openedTag_lineFeed (hrest : p.rest = '\n' :: rest) : openedTag.at? p = none := by
  rw [at?_eq_none_iff]
  intro w hw
  obtain ⟨v, hv, -⟩ := mem_ways_sequence_cons.1 hw
  have hfirst := congrArg List.head? (reaches_of_mem_ways_literal hv).rest_eq
  rw [hrest, List.head?_append, List.head?_cons] at hfirst
  exact absurd hfirst (by simp)

/-- Where the sign of a tag does not stand, none is opened. -/
theorem find?_openedTag_eq_none (h : '<' ∉ text) : openedTag.find? text = none := by
  refine (findFrom?_eq_none_iff (Place.start text)).2 fun passed rest hsplit =>
    at?_eq_none_iff.2 fun w hw => h ?_
  obtain ⟨v, hv, hw⟩ := (mem_ways_sequence_cut 4).1 hw
  obtain ⟨taken, hreaches⟩ := ways_reach hv
  have hrest : rest = taken ++ ('<' :: w.1.rest) :=
    hreaches.rest_eq.trans (congrArg _ (reaches_of_mem_ways_single hw).rest_eq)
  rw [hsplit, hrest]
  exact List.mem_append_right _ (List.mem_append_right _ List.mem_cons_self)

/-- **A search for a returned tag passes over a line that a brace ends** and in which no tag is
opened. -/
theorem findFrom?_returnedTag_line (p : Place) (hbody : openedTag.find? body = none)
    (text : List Char) : returnedTag.findFrom? p.before p.position
        (body ++ ['\x7d', '\n'] ++ text) =
      (returnedTag.find? text).map (Match.moved (p.position + (body.length + 2))) := by
  have hfront : openedTag.findFrom? p.before p.position body = none := by
    have hmoved := findFrom?_moved (n := p.position) isForward_openedTag none p.before 0 body
    rw [find?] at hbody
    rwa [Nat.zero_add, hbody, Option.map_none] at hmoved
  rw [findFrom?_append p]
  · have hmoved := findFrom?_moved (n := p.position + (body.length + 2)) isForward_returnedTag none
      (p.after (body ++ ['\x7d', '\n']) text).before 0 text
    rw [Nat.zero_add] at hmoved
    rw [find?, ← hmoved, Place.after_position, List.length_append]
    rfl
  · intro front behind hsplit hne
    obtain hnil | ⟨middle, last, rfl⟩ := List.eq_nil_or_concat behind
    · exact absurd hnil hne
    rw [List.concat_eq_append] at hsplit ⊢
    have hends : body ++ ['\x7d'] ++ ['\n'] = front ++ middle ++ [last] := by
      rw [List.append_assoc, List.append_assoc]
      exact hsplit
    obtain ⟨hline, hlast⟩ := List.append_inj' hends rfl
    obtain rfl := List.singleton_inj.1 hlast
    refine at?_returnedTag_eq_none ?_
    cases middle with
    | nil => exact at?_openedTag_lineFeed rfl
    | cons c middle =>
      rw [List.append_assoc]
      exact at?_after_of_avoids isSimple_openedTag isBlind_openedTag (avoids_openedTag (.inr rfl)) p
        hfront hline (List.cons_ne_nil c middle)

/-! ### Texts without returned tags -/

/-- Every declaration ends with a returned tag. -/
theorem exists_place_of_mem_ways_declarationPattern (hw : w ∈ ways declarationPattern p cs) :
    ∃ u taken, p.Reaches u taken ∧ ∃ cs', w ∈ ways returnedTag u cs' := by
  obtain ⟨v, hv, hw⟩ := (mem_ways_sequence_cut 7).1 hw
  obtain ⟨u, hu, hw⟩ := (mem_ways_sequence_cut 2).1 (show w ∈ ways returnedMarkup v.1 v.2 from hw)
  obtain ⟨taken, hreaches⟩ := ways_reach hv
  obtain ⟨later, hreaches'⟩ := ways_reach hu
  exact ⟨u.1, taken ++ later, hreaches.trans hreaches', u.2, hw⟩

/-- **Where no tag is returned, nothing is declared.** -/
theorem declarations_eq_nil {text : String} (h : returnedTag.find? text.toList = none) :
    declarations text = [] := by
  have hnone : declarationPattern.findAll text.toList = [] := by
    refine findAllFrom_eq_nil fun passed rest hsplit => at?_eq_none_iff.2 fun w hw => ?_
    obtain ⟨u, taken, hreaches, cs, hw⟩ := exists_place_of_mem_ways_declarationPattern hw
    have hrest : rest = taken ++ u.rest := hreaches.rest_eq
    have htag := (findFrom?_eq_none_iff (Place.start text.toList)).1 h (passed ++ taken) u.rest
      (by rw [hsplit, hrest, List.append_assoc])
    -- What stands before the return does not matter, so the search would have found it.
    have hmoved : ((Place.start text.toList).after (passed ++ taken) u.rest).IsMoved 0 u := by
      refine ⟨rfl, ?_⟩
      rw [hreaches.position_eq, Place.after_position, Place.after_position, List.length_append]
      exact Nat.add_assoc _ _ _
    refine not_mem_ways_of_isSimple isSimple_returnedTag ?_ hw
    rw [at?_moved isForward_returnedTag hmoved, htag, Option.map_none]
  rw [declarations, declaredNames, hnone]
  rfl

/-! ### A function in front of a text -/

/-- The head of an exported function, up to the brace that opens its body. -/
def exportedHead (name parameters : List Char) : List Char :=
  "export".toList ++ ([' '] ++ ("function".toList ++ ([' '] ++ (name ++
    '(' :: (parameters ++ [')', ' '])))))

/-- An exported function on a line of its own. -/
def exportedFunction (name parameters body : String) : String :=
  "export function " ++ name ++ "(" ++ parameters ++ ") \x7b" ++ body ++ "\x7d\n"

theorem toList_exportedFunction (name parameters body : String) :
    (exportedFunction name parameters body).toList =
      exportedHead name.toList parameters.toList ++ '\x7b' :: (body.toList ++ ['\x7d', '\n']) := by
  have hhead : "export function ".toList =
      "export".toList ++ ([' '] ++ ("function".toList ++ [' '])) := rfl
  have hopen : "(".toList = ['('] := rfl
  have hbrace : ") \x7b".toList = [')', ' ', '\x7b'] := rfl
  have hend : "\x7d\n".toList = ['\x7d', '\n'] := rfl
  unfold exportedFunction exportedHead
  simp only [String.toList_append, hhead, hopen, hbrace, hend, List.append_assoc, List.cons_append,
    List.nil_append]

variable {α : Type} {k : Place → Captures → Option α} {a : α} {name parameters : List Char}

/-- A parameter list is taken up to its closing parenthesis. -/
theorem run_parameterList (hparameters : ')' ∉ parameters)
    (hp : p.rest = '(' :: (parameters ++ ')' :: rest))
    (hk : k (p.after ('(' :: (parameters ++ [')'])) rest) cs = some a) :
    run parameterList k p cs = some a := by
  have hnone : ∀ c ∈ parameters, noneOf ")" c = true := by
    intro c hc
    have hclosing : ")".toList = [')'] := rfl
    rw [noneOf, hclosing, Bool.not_eq_true', ← Bool.not_eq_true, List.contains_iff_mem,
      List.mem_singleton]
    rintro rfl
    exact hparameters hc
  unfold parameterList
  rw [run_sequence_cons, run_single_of_cons hp, run_sequence_cons]
  refine run_many Place.after_rest hnone (head?_cons_not (by decide) _) ?_
  rw [run_sequence_cons, run_single_of_cons Place.after_rest, Place.after_after, Place.after_after]
  exact hk

/-- The head of a function is taken whole, and its name is remembered. -/
theorem run_functionHead (hname : IsName name) (hparameters : ')' ∉ parameters)
    (hp : p.rest = "function".toList ++ ([' '] ++ (name ++
      '(' :: (parameters ++ ')' :: rest))))
    (hk : k (p.after ("function".toList ++ ([' '] ++ (name ++ '(' :: (parameters ++ [')'])))) rest)
      ((1, ⟨p.position + 9, name⟩) :: cs) = some a) :
    run functionHead k p cs = some a := by
  have hasync : ¬ "async".toList <+: p.rest := by
    rw [hp]
    simp
  have hstart : ∀ d ∈ (name ++ '(' :: (parameters ++ ')' :: rest)).head?,
      Text.isBlank d = false := by
    obtain ⟨c, tail, rfl⟩ := List.exists_cons_of_ne_nil hname.ne_nil
    exact head?_cons_not (isBlank_of_isWord (hname.isWord c List.mem_cons_self)) _
  unfold functionHead
  rw [run_sequence_cons, run_optional_of_none (by rw [run]; exact run_letters_eq_none hasync),
    run_sequence_cons, literal, run_letters hp, run_sequence_cons]
  refine run_oneOrMore Place.after_rest (List.cons_ne_nil _ _)
    (List.forall_mem_singleton.2 rfl) hstart ?_
  rw [run_sequence_cons, run]
  refine run_oneOrMore Place.after_rest hname.ne_nil hname.isWord
    (head?_cons_not (by decide) _) ?_
  rw [Place.textTo_after Place.after_rest, run_sequence_cons]
  refine run_many_nil Place.after_rest (by decide) ?_
  rw [run_sequence_cons, typeParameters, run_optional_of_none]
  · rw [run_sequence_cons]
    refine run_many_nil Place.after_rest (by decide) ?_
    refine run_parameterList hparameters Place.after_rest ?_
    rw [Place.after_after, Place.after_after, Place.after_after]
    simpa using hk
  · rw [run_sequence_cons]
    refine run_single_eq_none ?_
    simp

/-- **The head of an exported function is taken whole**, and its name is remembered. -/
theorem run_declarationPattern (hname : IsName name) (hparameters : ')' ∉ parameters)
    (hp : p.rest = exportedHead name parameters ++ '\x7b' :: rest)
    (hk : run returnedMarkup k (p.after (exportedHead name parameters) ('\x7b' :: rest))
      ((1, ⟨p.position + 16, name⟩) :: cs) = some a) :
    run declarationPattern k p cs = some a := by
  have hsplit : p.rest = "export".toList ++ ([' '] ++ ("function".toList ++ ([' '] ++ (name ++
      '(' :: (parameters ++ ')' :: ([' '] ++ '\x7b' :: rest)))))) := by
    rw [hp]
    unfold exportedHead
    simp only [List.append_assoc, List.cons_append, List.nil_append]
  have hfunction : ∃ tail, "function".toList = 'f' :: tail := ⟨_, rfl⟩
  obtain ⟨tail, htail⟩ := hfunction
  unfold declarationPattern
  rw [run_sequence_cons, literal, run_letters hsplit, run_sequence_cons]
  refine run_oneOrMore Place.after_rest (List.cons_ne_nil _ _)
    (List.forall_mem_singleton.2 rfl) ?_ ?_
  · rw [htail]
    exact head?_cons_not (by decide) _
  rw [run_sequence_cons, run_optional_of_none]
  · rw [run_sequence_cons]
    refine run_optional_of_some (run_functionHead hname hparameters Place.after_rest ?_)
    rw [run_sequence_cons]
    refine run_many Place.after_rest (List.forall_mem_singleton.2 rfl)
      (head?_cons_not (by decide) _) ?_
    rw [run_sequence_cons, run_optional_of_none]
    · rw [run_sequence_cons]
      refine run_many_nil Place.after_rest (by decide) ?_
      unfold exportedHead at hk
      simpa [Pattern.sequence, Nat.add_assoc] using hk
    · rw [run_sequence_cons]
      refine run_single_eq_none ?_
      simp
  · rw [run]
    refine run_letters_eq_none ?_
    simp

/-- **An exported function reaches to the first tag that is returned behind it**, if none is opened
in its body. -/
theorem at?_exportedFunction (hname : IsName name) (hparameters : ')' ∉ parameters)
    (hbody : openedTag.find? body = none) {tag : Match} (htag : returnedTag.find? text = some tag)
    (hp : p.rest = exportedHead name parameters ++ '\x7b' :: (body ++ ['\x7d', '\n'] ++ text)) :
    declarationPattern.at? p = some ⟨p.position,
      p.position + (exportedHead name parameters ++ '\x7b' :: (body ++ ['\x7d', '\n'])).length +
        tag.stop, [(1, ⟨p.position + 16, name⟩)]⟩ := by
  -- The place behind the brace that opens the body.
  let inner : Place := (p.after (exportedHead name parameters)
    ('\x7b' :: (body ++ ['\x7d', '\n'] ++ text))).step '\x7b' (body ++ ['\x7d', '\n'] ++ text)
  have hfew := run_few isSimple_returnedTag inner [(1, ⟨p.position + 16, name⟩)]
  have hline : returnedTag.findFrom? inner.before inner.position inner.rest =
      (returnedTag.find? text).map (Match.moved (inner.position + (body.length + 2))) :=
    findFrom?_returnedTag_line inner hbody text
  rw [returnedTag] at hline htag
  rw [hline, htag, Option.map_some, Option.map_some] at hfew
  obtain ⟨w, hw, hends⟩ := Option.map_eq_some_iff.1 hfew
  obtain ⟨hstop, hcaptures⟩ := Prod.mk.inj hends
  have hrun : run declarationPattern (fun q cs' => some (q, cs')) p [] = some w := by
    refine run_declarationPattern hname hparameters hp ?_
    rw [returnedMarkup_eq, run_sequence_cons, run]
    exact hw
  have hinner : inner.position = p.position + (exportedHead name parameters).length + 1 := rfl
  have hend : w.1.position = p.position +
      (exportedHead name parameters ++ '\x7b' :: (body ++ ['\x7d', '\n'])).length + tag.stop := by
    rw [hstop, Match.moved, hinner]
    simp only [List.length_append, List.length_cons, List.length_nil]
    omega
  rw [at?, matchAt, hrun, Option.map_some, hend, hcaptures]

/-- **The name of an exported function comes first, and then the names that are declared behind the
tag that it reaches.** -/
theorem declaredNames_exportedFunction {name parameters body text : String}
    (hname : IsName name.toList) (hparameters : ')' ∉ parameters.toList)
    (hbody : openedTag.find? body.toList = none) {tag : Match}
    (htag : returnedTag.find? text.toList = some tag) :
    declaredNames (exportedFunction name parameters body ++ text) =
      name :: declaredNames (String.ofList (text.toList.drop tag.stop)) := by
  -- What the function takes, and what is left of the text.
  let taken : List Char :=
    (exportedFunction name parameters body).toList ++ text.toList.take tag.stop
  let rest : List Char := text.toList.drop tag.stop
  have hsplit : (exportedFunction name parameters body ++ text).toList = taken ++ rest := by
    rw [String.toList_append, List.append_assoc, List.take_append_drop]
  have hlength : taken.length =
      (exportedFunction name parameters body).toList.length + tag.stop := by
    rw [List.length_append, List.length_take, Nat.min_eq_left (stop_le_of_find? htag)]
  have hmatch : declarationPattern.at? (Place.start (taken ++ rest)) =
      some ⟨0, taken.length, [(1, ⟨16, name.toList⟩)]⟩ := by
    have hp : (Place.start (taken ++ rest)).rest = exportedHead name.toList parameters.toList ++
        '\x7b' :: (body.toList ++ ['\x7d', '\n'] ++ text.toList) := by
      rw [Place.start, ← hsplit, String.toList_append, toList_exportedFunction]
      simp only [List.append_assoc, List.cons_append]
    rw [at?_exportedFunction hname hparameters hbody htag hp, ← toList_exportedFunction, hlength]
    simp only [Place.start, Nat.zero_add]
  have hne : taken ≠ [] := by
    refine List.append_ne_nil_of_left_ne_nil ?_ _
    rw [toList_exportedFunction]
    exact List.append_ne_nil_of_right_ne_nil _ (List.cons_ne_nil _ _)
  rw [declaredNames, hsplit, findAll_of_match isForward_declarationPattern hne hmatch,
    List.filterMap_cons, List.filterMap_map]
  have hfirst : Match.text? ⟨0, taken.length, [(1, ⟨16, name.toList⟩)]⟩ 1 = some name :=
    congrArg some String.ofList_toList
  simp only [hfirst, Function.comp_def, Match.text?_moved]
  rw [declaredNames, String.toList_ofList]

/-- **An exported function without a tag in its body hides what is declared behind it.**  If a tag
is returned behind it, the function is listed first, and what follows is declared behind that tag.
If none is returned, nothing is declared with or without the function, unless a tag is opened in its
head. -/
theorem declarations_exportedFunction {name parameters body : String} (hname : IsName name.toList)
    (hparameters : ')' ∉ parameters.toList) (hbody : '<' ∉ body.toList) (text : String) :
    (∀ tag, returnedTag.find? text.toList = some tag →
      declarations (exportedFunction name parameters body ++ text) =
        ⟨name, 0⟩ :: (declarations (String.ofList (text.toList.drop tag.stop))).map
          fun d => ⟨d.name, d.index + 1⟩) ∧
    (returnedTag.find? text.toList = none → declarations text = [] ∧
      (openedTag.find? (exportedHead name.toList parameters.toList) = none →
        declarations (exportedFunction name parameters body ++ text) = [])) := by
  have hbody := find?_openedTag_eq_none hbody
  constructor
  · intro tag htag
    rw [declarations, declaredNames_exportedFunction hname hparameters hbody htag, List.mapIdx_cons,
      declarations, List.mapIdx_eq_zipIdx_map, List.mapIdx_eq_zipIdx_map, List.map_map]
    rfl
  · intro hnone
    refine ⟨declarations_eq_nil hnone, fun hhead => declarations_eq_nil ?_⟩
    have hline : openedTag.find? (exportedHead name.toList parameters.toList ++
        '\x7b' :: body.toList) = none := by
      have hsearch := findFrom?_append_cons isSimple_openedTag isBlind_openedTag
        isForward_openedTag (avoids_openedTag (.inl rfl)) (Place.start []) hhead body.toList
      rwa [hbody, Option.map_none] at hsearch
    have hsearch := findFrom?_returnedTag_line (Place.start []) hline text.toList
    rw [hnone, Option.map_none] at hsearch
    rw [String.toList_append, toList_exportedFunction, find?, ← hsearch, Place.start]
    simp only [List.append_assoc, List.cons_append]

/-- A page. -/
def homePage : String := "export function Home() \x7b return <p> \x7d\n"

/-- Another page. -/
def aboutPage : String := "export function About() \x7b return <a> \x7d\n"

/-- The body of a function that returns a price. -/
def priceBody : String := " return value.toFixed(2) "

/-- In front of two pages a function hides the first one. -/
theorem declarations_exportedFunction_price :
    declarations (exportedFunction "formatPrice" "value" priceBody ++ (homePage ++ aboutPage)) =
      [⟨"formatPrice", 0⟩, ⟨"About", 1⟩] := by
  have hname : IsName "formatPrice".toList := ⟨by decide, List.all_eq_true.1 rfl⟩
  have htag : returnedTag.find? (homePage ++ aboutPage).toList = some ⟨25, 35, []⟩ := by
    decide +kernel
  rw [(declarations_exportedFunction hname (by decide) (by decide)
    (homePage ++ aboutPage)).1 _ htag]
  decide +kernel

/-- **A function that returns no markup hides a page**: it is listed in its place. -/
theorem not_declarations_exportedFunction :
    IsName "formatPrice".toList ∧ ')' ∉ "value".toList ∧
    '<' ∉ priceBody.toList ∧ '\x7b' ∉ priceBody.toList ∧ '\x7d' ∉ priceBody.toList ∧
    declarations homePage = [⟨"Home", 0⟩] ∧
    declarations (exportedFunction "formatPrice" "value" priceBody ++ homePage) ≠
      declarations homePage :=
  ⟨⟨by decide, List.all_eq_true.1 rfl⟩, by decide, by decide, by decide, by decide,
    by decide +kernel, by decide +kernel⟩

end Source

end NavGraph

import Mathlib.Data.List.TakeWhile
import NavGraph.Proofs.Source.Directory
import NavGraph.Proofs.Source.Parameter

/-!
# Parameters of files and of routes

A directory or a file of a site names a parameter in brackets, and its route names it behind a
colon.  The brackets take every character for the name but brackets; behind the colon only a word
counts.  So the parameters of a route are those of its path, cut off at the first character that is
no word character, which in names of letters, digits, underscores and hyphens is the first hyphen.

## Main definitions

* `IsParameterName` - names of letters, digits, underscores and hyphens
* `Names` - segments of a path and the names of their parameters
* `wordsOf` - what is left of some names when each is cut off behind its first word

## Main statements

* `routeParams_route` - the parameters of a route are the words that names in its path begin with
* `not_routeParams_hyphened` - a name with a hyphen is not found again
-/

namespace NavGraph.Source

open Pattern

/-! ### Names and their words -/

/-- Characters of a parameter's name. -/
def isNameChar (c : Char) : Bool := c.isAlphanum || c == '_' || c == '-'

/-- A name of ASCII letters, digits, underscores and hyphens. -/
structure IsParameterName (name : List Char) : Prop where
  ne_nil : name ≠ []
  chars : ∀ c ∈ name, isNameChar c = true

/-- What is left of some names when each is cut off behind its first word: nothing of a name that
begins with no word. -/
def wordsOf (names : List (List Char)) : List (List Char) :=
  (names.map (·.takeWhile Text.isWord)).filter (!·.isEmpty)

variable {name : List Char} {names names' : List (List Char)}

theorem isWord_iff_of_isNameChar {c : Char} (h : isNameChar c = true) :
    Text.isWord c = true ↔ c ≠ '-' := by
  constructor
  · rintro hword rfl
    exact absurd hword (by decide +kernel)
  · intro hne
    rw [isNameChar, Bool.or_eq_true, beq_iff_eq, or_iff_left hne] at h
    rw [Text.isWord, h, Bool.true_or]

/-- A name is a word if it has no hyphen. -/
theorem IsParameterName.takeWhile_eq_iff (h : IsParameterName name) :
    name.takeWhile Text.isWord = name ↔ '-' ∉ name := by
  rw [List.takeWhile_eq_self_iff]
  constructor
  · intro hword hhyphen
    exact (isWord_iff_of_isNameChar (h.chars _ hhyphen)).1 (hword _ hhyphen) rfl
  · intro hhyphen c hc
    exact (isWord_iff_of_isNameChar (h.chars c hc)).2 fun heq => hhyphen (heq ▸ hc)

theorem wordsOf_cons : wordsOf (name :: names) =
    (if name.takeWhile Text.isWord = [] then [] else [name.takeWhile Text.isWord]) ++
      wordsOf names := by
  rw [wordsOf, List.map_cons]
  split
  · rename_i hnil
    rw [hnil]
    rfl
  · rename_i hne
    rw [List.filter_cons_of_pos (by simpa using hne)]
    rfl

/-- **All names are left whole exactly if none has a hyphen.**  A name that is lost is not made up
for by another one, since no more words are left than there are names. -/
theorem wordsOf_eq_self_iff (h : ∀ name ∈ names, IsParameterName name) :
    wordsOf names = names ↔ ∀ name ∈ names, '-' ∉ name := by
  induction names with
  | nil => exact iff_of_true rfl (List.forall_mem_nil _)
  | cons name names ih =>
    obtain ⟨hname, hnames⟩ := List.forall_mem_cons.1 h
    rw [List.forall_mem_cons, ← ih hnames, ← hname.takeWhile_eq_iff, wordsOf_cons]
    split
    · rename_i hnil
      refine iff_of_false (fun heq => ?_) fun hself => hname.ne_nil (hself.1 ▸ hnil)
      have hlength : (wordsOf names).length ≤ (names.map _).length := List.length_filter_le _ _
      rw [← List.nil_append (wordsOf names), heq, List.length_cons, List.length_map] at hlength
      omega
    · rw [List.singleton_append, List.cons_eq_cons]

/-! ### Segments of a path -/

/-- The name of a parameter in its brackets. -/
def IsParameterName.parameter (h : IsParameterName name) (doubled dotted : Bool) : Parameter where
  name := name
  doubled := doubled
  dotted := dotted
  ne_nil := h.ne_nil
  plain := by
    intro c hc
    have hchar := h.chars c hc
    constructor <;> rintro rfl <;> exact absurd hchar (by decide)
  pointless := fun hpoints => by
    have hchar := h.chars '.' (hpoints.subset (by decide +kernel))
    exact absurd hchar (by decide)

@[simp] theorem IsParameterName.name_parameter (h : IsParameterName name) (doubled dotted : Bool) :
    (h.parameter doubled dotted).name = name := rfl

/-- **Segments of a path and the names of their parameters**: a segment is text, without brackets
and colons, or one parameter. -/
inductive Names : List (List Char) → List (List Char) → Prop
  | nil : Names [] []
  | text {text : List Char} {segments names : List (List Char)} (plain : IsPlain text)
      (colonless : ':' ∉ text) (tail : Names segments names) : Names (text :: segments) names
  | parameter {name : List Char} {segments names : List (List Char)} (h : IsParameterName name)
      (doubled dotted : Bool) (tail : Names segments names) :
      Names ((h.parameter doubled dotted).spelling :: segments) (name :: names)

variable {segments segments' : List (List Char)}

theorem Names.isParameterName (h : Names segments names) :
    ∀ name ∈ names, IsParameterName name := by
  induction h with
  | nil => exact List.forall_mem_nil _
  | text plain colonless tail ih => exact ih
  | parameter hname doubled dotted tail ih => exact List.forall_mem_cons.2 ⟨hname, ih⟩

theorem Names.append (h : Names segments names) (h' : Names segments' names') :
    Names (segments ++ segments') (names ++ names') := by
  induction h with
  | nil => exact h'
  | text plain colonless tail ih => exact .text plain colonless ih
  | parameter hname doubled dotted tail ih => exact .parameter hname doubled dotted ih

theorem Names.exists_of_append (h : Names (segments ++ segments') names) :
    ∃ front back, names = front ++ back ∧ Names segments front ∧ Names segments' back := by
  induction segments generalizing names with
  | nil => exact ⟨[], names, rfl, .nil, h⟩
  | cons segment segments ih =>
    cases h with
    | text plain colonless tail =>
      obtain ⟨front, back, heq, hfront, hback⟩ := ih tail
      exact ⟨front, back, heq, .text plain colonless hfront, hback⟩
    | @parameter name _ names hname doubled dotted tail =>
      obtain ⟨front, back, rfl, hfront, hback⟩ := ih tail
      exact ⟨name :: front, back, rfl, .parameter hname doubled dotted hfront, hback⟩

/-! ### The last segment -/

theorem LosesExtension.subset {file stem : List Char} (h : LosesExtension file stem) :
    stem ⊆ file := by
  cases h with
  | whole without => exact List.Subset.refl _
  | ending stem isExtension isTail =>
    exact List.append_subset.2 ⟨List.subset_append_left _ _,
      List.Subset.trans (List.subset_append_right _ _) (List.subset_append_right _ _)⟩

/-- No colon and no line feed is in an extension. -/
theorem IsScriptExtension.not_mem {ending : List Char} (h : IsScriptExtension ending) :
    ':' ∉ ending ∧ '\n' ∉ ending := by
  have hforms : ∀ form ∈ scriptExtensions.map String.toList, ':' ∉ form ∧ '\n' ∉ form := by
    decide +kernel
  have hfold : Text.foldAscii ':' = ':' ∧ Text.foldAscii '\n' = '\n' := by decide
  obtain ⟨hcolon, hfeed⟩ := hforms _ h
  exact ⟨fun hmem => hcolon (hfold.1 ▸ List.mem_map_of_mem hmem),
    fun hmem => hfeed (hfold.2 ▸ List.mem_map_of_mem hmem)⟩

/-- Between a parameter and the end of its file an extension is all that is cut off. -/
theorem LosesExtension.eq_spelling {parameter : Parameter} {ending stem : List Char}
    (hending : ending = [] ∨ IsScriptExtension ending)
    (h : LosesExtension (parameter.spelling ++ ending) stem) : stem = parameter.spelling := by
  generalize hfile : parameter.spelling ++ ending = file at h
  cases h with
  | whole without =>
    obtain rfl | hending := hending
    · rw [← hfile, List.append_nil]
    · exact absurd (by rw [← hfile, List.append_nil])
        (without parameter.spelling ending [] hending (.inl rfl))
  | @ending stem ending' tail isExtension isTail =>
    have hsplit : [] ++ (parameter.spelling ++ ending) = stem ++ (ending' ++ tail) := hfile
    obtain ⟨between, hstem, hbetween⟩ :=
      parameter.exists_between hsplit (isExtension.isPlain isTail)
    obtain ⟨body', hbody', -⟩ := isExtension.exists_body isTail
    obtain rfl | hending := hending
    · rw [hbody'] at hbetween
      exact absurd hbetween.symm (List.append_ne_nil_of_right_ne_nil _ (List.cons_ne_nil _ _))
    · -- An extension has one point, with which it begins.
      obtain ⟨body, hbody, hpoint⟩ := hending.exists_body (.inl rfl)
      rw [List.append_nil, hbetween, hbody'] at hbody
      cases between with
      | nil =>
        obtain rfl | rfl := isTail
        · rw [hstem, List.append_nil, List.append_nil, List.nil_append]
        · refine absurd ?_ hending.not_mem.2
          rw [hbetween]
          exact List.mem_append_right _ (List.mem_append_right _ List.mem_cons_self)
      | cons c between =>
        refine absurd ?_ hpoint
        rw [← (List.cons.inj hbody).2]
        exact List.mem_append_right _ List.mem_cons_self

theorem Parameter.exists_spelling (parameter : Parameter) :
    ∃ rest, parameter.spelling = '[' :: rest := ⟨_, rfl⟩

/-- A parameter does not stand for its directory. -/
theorem Parameter.not_isNamed_spelling (parameter : Parameter) :
    ¬ IsNamed indexNames parameter.spelling := by
  intro hnamed
  have hnone : ∀ name ∈ indexNames, name.toList.head? ≠ some '[' := by decide +kernel
  obtain ⟨rest, hrest⟩ := parameter.exists_spelling
  refine hnone _ hnamed ?_
  rw [String.toList_ofList, hrest]
  rfl

/-- **A file names the parameters of its name** without the extension. -/
theorem Names.lastSegment {stem ending : List Char} (h : Names [stem] names)
    (hending : ending = [] ∨ IsScriptExtension ending) :
    Names (lastSegment (scriptExtension.replaceAll [] (stem ++ ending))) names := by
  have hloses := losesExtension_replaceAll (stem ++ ending)
  cases h with
  | text plain colonless tail =>
    cases tail
    have hplain : IsPlain ending := by
      obtain rfl | hending := hending
      · exact List.forall_mem_nil _
      · exact List.append_nil ending ▸ hending.isPlain (.inl rfl)
    have hcolonless : ':' ∉ ending := by
      obtain rfl | hending := hending
      · exact List.not_mem_nil
      · exact hending.not_mem.1
    rw [Source.lastSegment]
    split
    · exact .nil
    · refine .text (fun c hc => ?_) (fun hc => ?_) .nil
      · exact List.forall_mem_append.2 ⟨plain, hplain⟩ c (hloses.subset hc)
      · exact (List.mem_append.1 (hloses.subset hc)).elim colonless hcolonless
  | parameter hname doubled dotted tail =>
    cases tail
    rw [hloses.eq_spelling hending, Source.lastSegment, if_neg (Parameter.not_isNamed_spelling _)]
    exact .parameter hname doubled dotted .nil

/-! ### Routes -/

/-- **What segments of a route name is what is left of the names of the path.** -/
theorem Names.flatMap_paramNames (h : Names segments names) :
    ((segments.filter (!isRouteGroup ·)).map routeSegment).flatMap paramNames = wordsOf names := by
  induction h with
  | nil => rfl
  | @text text segments names plain colonless tail ih =>
    by_cases hgroup : isRouteGroup text = true
    · rw [List.filter_cons_of_neg (by simp [hgroup]), ih]
    · rw [List.filter_cons_of_pos (by simp [hgroup]), List.map_cons, List.flatMap_cons, ih,
        (Translates.text plain).routeSegment_eq,
        paramNames_eq_nil (mt Text.mem_of_colon_mem_lower colonless), List.nil_append]
  | @parameter name segments names hname doubled dotted tail ih =>
    have hopen : isRouteGroup (hname.parameter doubled dotted).spelling = false := rfl
    have hroute : routeSegment (hname.parameter doubled dotted).spelling = ':' :: name := by
      have htranslates := Translates.parameter (List.forall_mem_nil _)
        (hname.parameter doubled dotted) (.text (List.forall_mem_nil _))
      simpa using htranslates.routeSegment_eq
    have hcolonless : ':' ∉ name := fun hmem => absurd (hname.chars _ hmem) (by decide)
    rw [List.filter_cons_of_pos (by rw [hopen]; rfl), List.map_cons, List.flatMap_cons, ih, hroute,
      wordsOf_cons, paramNames, paramNames_eq_nil hcolonless]
    by_cases hword : name.takeWhile Text.isWord = []
    · rw [if_pos hword, if_neg fun h => h.2 hword]
    · rw [if_neg hword, if_pos ⟨rfl, hword⟩]

theorem paramNames_flatMap (outs : List (List Char)) :
    paramNames (outs.flatMap (['/'] ++ ·)) = outs.flatMap paramNames := by
  induction outs with
  | nil => rfl
  | cons out outs ih =>
    have hslash : ∀ c ∈ (outs.flatMap (['/'] ++ ·)).head?, Text.isWord c = false := by
      intro c hc
      cases outs with
      | nil => cases hc
      | cons second outs =>
        obtain rfl : '/' = c := by simpa using hc
        decide +kernel
    rw [List.flatMap_cons, List.flatMap_cons, paramNames_append hslash, ih]
    rfl

/-- The segments of a route name its parameters. -/
theorem paramNames_join (outs : List (List Char)) :
    paramNames ('/' :: Text.join ['/'] outs) = outs.flatMap paramNames := by
  cases outs with
  | nil => rfl
  | cons first outs =>
    rw [← paramNames_flatMap, Text.join, Text.intercalate_cons]
    rfl

variable {path : String} {outer inner : List (List Char)} {root stem ending : List Char}

/-- **The parameters of a route are the words that the names in its path begin with**, and they are
those names exactly if none has a hyphen. -/
theorem routeParams_route (hparts : pathParts path = outer ++ root :: (inner ++ [stem ++ ending]))
    (hroot : IsRouteRoot outer root inner) (hnames : Names (inner ++ [stem]) names)
    (hending : ending = [] ∨ IsScriptExtension ending) (declared : String) :
    routeParams (route path declared).1 = (wordsOf names).map String.ofList ∧
      (routeParams (route path declared).1 = names.map String.ofList ↔
        ∀ name ∈ names, '-' ∉ name) := by
  obtain ⟨front, back, rfl, hfront, hback⟩ := hnames.exists_of_append
  have hwords : routeParams (route path declared).1 =
      (wordsOf (front ++ back)).map String.ofList := by
    rw [route_of_directoryRoute? (directoryRoute?_of_isRouteRoot hparts hroot), routeParams_eq,
      String.toList_ofList, routeSegments_concat, paramNames_join,
      (hfront.append (hback.lastSegment hending)).flatMap_paramNames]
  refine ⟨hwords, ?_⟩
  rw [hwords, ← wordsOf_eq_self_iff hnames.isParameterName]
  exact List.map_inj_right fun _ _ => String.ofList_injective

/-- The name of a user's page, which has a hyphen. -/
theorem isParameterName_userId : IsParameterName "user-id".toList :=
  ⟨by decide, List.all_eq_true.1 rfl⟩

/-- The name of a list of tags. -/
theorem isParameterName_tags : IsParameterName "Tags_2".toList :=
  ⟨by decide, List.all_eq_true.1 rfl⟩

/-- A path with two parameters of which one has a hyphen in its name. -/
def profilePath : String := "src/pages/users/[user-id]/[[...Tags_2]].Tsx"

/-- Of the two parameters one is cut off. -/
theorem routeParams_route_profile :
    routeParams (route profilePath "Profile").1 = ["user", "Tags_2"] := by
  have hparts : pathParts profilePath = ["src".toList] ++ "pages".toList ::
      (["users".toList, (isParameterName_userId.parameter false false).spelling] ++
        [(isParameterName_tags.parameter true true).spelling ++ ".Tsx".toList]) := by
    decide +kernel
  have hroot : IsRouteRoot ["src".toList] "pages".toList
      ["users".toList, (isParameterName_userId.parameter false false).spelling] :=
    .primary (by decide +kernel) (by decide +kernel)
  have hnames : Names (["users".toList, (isParameterName_userId.parameter false false).spelling] ++
      [(isParameterName_tags.parameter true true).spelling])
      ["user-id".toList, "Tags_2".toList] :=
    .text (by decide +kernel) (by decide +kernel) <|
      .parameter isParameterName_userId false false <|
        .parameter isParameterName_tags true true .nil
  have hending : ".Tsx".toList = [] ∨ IsScriptExtension ".Tsx".toList := .inr (by decide +kernel)
  rw [(routeParams_route hparts hroot hnames hending "Profile").1]
  decide +kernel

/-- **A name with a hyphen is not found again**: it is in the path, but the route has a shorter
one. -/
theorem not_routeParams_hyphened :
    pathParts "pages/[user-id].tsx" = [] ++ "pages".toList ::
      ([] ++ [(isParameterName_userId.parameter false false).spelling ++ ".tsx".toList]) ∧
    IsRouteRoot [] "pages".toList [] ∧
    Names ([] ++ [(isParameterName_userId.parameter false false).spelling]) ["user-id".toList] ∧
    IsScriptExtension ".tsx".toList ∧
    (route "pages/[user-id].tsx" "User").1 = "/:user-id" ∧
    routeParams (route "pages/[user-id].tsx" "User").1 ≠ ["user-id".toList].map String.ofList :=
  ⟨by decide +kernel, .primary (by decide +kernel) (by decide +kernel),
    .parameter isParameterName_userId false false .nil, by decide +kernel, by decide +kernel,
    by decide +kernel⟩

end NavGraph.Source

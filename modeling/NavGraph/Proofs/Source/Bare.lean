import NavGraph.Proofs.Source.Description
import NavGraph.Proofs.Source.Directory
import NavGraph.Proofs.Text.LowerCase
import NavGraph.Source.Route

/-!
# The bare route

A declaration below no root of routes gets its route from its name, and of a name that is nothing
but a word for a page only the bare route is left.  The route is marked as that in this case, and
in no other: the root of a site is not marked where its name is one that stands for it, or where its
path is.

## Main definitions

* `HasRouteRoot` - paths on which a directory is a root of routes
* `IsBareName` - names that are nothing but a word for a page

## Main statements

* `replaceAll_nameSuffix_eq_nil_iff` - of which texts nothing is left
* `route_isBare_iff` - which routes are marked as bare
* `exists_route_eq` - a route begins with a slash
-/

namespace NavGraph.Source

open Pattern

/-! ### Directories -/

/-- A path **has a root of routes** if one of its directories can be one. -/
def HasRouteRoot (path : String) : Prop :=
  ∃ d ∈ (pathParts path).dropLast, IsNamed primaryRoots d ∨ IsNamed secondaryRoots d

theorem directoryRoute?_eq_none_iff {path : String} :
    directoryRoute? path = none ↔ ¬ HasRouteRoot path := by
  have hroute : directoryRoute? path = none ↔ routeRoot? (pathParts path).dropLast = none :=
    Option.map_eq_none_iff
  rw [hroute]
  constructor
  · rintro hnone hroot
    obtain ⟨outer, root, inner, hparts, hroot⟩ := exists_isRouteRoot hroot
    rw [hparts, routeRoot?_of_isRouteRoot hroot] at hnone
    cases hnone
  · intro hnone
    have hroots : routeRoots = [primaryRoots, primaryRoots ++ secondaryRoots] := rfl
    have hnamed : ∀ d ∈ (pathParts path).dropLast,
        ¬ IsNamed (primaryRoots ++ secondaryRoots) d :=
      fun d hd h => hnone ⟨d, hd, isNamed_append.1 h⟩
    have hprimary : ∀ d ∈ (pathParts path).dropLast, ¬ IsNamed primaryRoots d :=
      fun d hd h => hnone ⟨d, hd, .inl h⟩
    rw [routeRoot?, hroots, List.findSome?_cons,
      lastIndex?_eq_none fun d hd => contains_eq_false_iff.2 (hprimary d hd)]
    dsimp only
    rw [List.findSome?_cons,
      lastIndex?_eq_none fun d hd => contains_eq_false_iff.2 (hnamed d hd)]
    rfl

/-! ### Words for a page -/

/-- Words for a page. -/
def pageWords : List String := ["page", "screen", "view"]

/-- A name **is bare** if it is nothing but a word for a page, in lower case as a pattern that
ignores case reads it. -/
def IsBareName (name : String) : Prop :=
  (Text.lower name.toList).map Text.foldAscii ∈ pageWords.map String.toList

variable {text : List Char}

/-- No word for a page begins with another one. -/
theorem eq_of_isPrefix_pageWords : ∀ form ∈ pageWords.map String.toList,
    ∀ other ∈ pageWords.map String.toList, form <+: other → form = other := by
  decide +kernel

theorem nameSuffix_eq : nameSuffix = seq (wordsAnyCase pageWords) textEnd := rfl

theorem matchAt_nameSuffix (h : text.map Text.foldAscii ∈ pageWords.map String.toList) :
    nameSuffix.matchAt (.start text) = some ((Place.start text).after text [], []) := by
  have hrest : (Place.start text).rest = text ++ [] := (List.append_nil text).symm
  have hend : ((Place.start text).after text []).atTextEnd = true := rfl
  rw [matchAt, nameSuffix_eq, run,
    (readsFolded_wordsAnyCase pageWords).run_eq eq_of_isPrefix_pageWords hrest h, run, if_pos hend]

/-- What a word for a page is found in at the beginning, and at the end, is the word. -/
theorem mem_pageWords_of_mem_findAll {m : Match} (hm : m ∈ nameSuffix.findAll text)
    (hstart : m.start = 0) (hline : '\n' ∉ text) :
    text.map Text.foldAscii ∈ pageWords.map String.toList := by
  obtain ⟨p, hplace, w, hw, rfl⟩ := exists_place_of_mem_findAll hm
  obtain ⟨v, hv, hw⟩ := mem_ways_seq.1 hw
  obtain ⟨taken, rest, hrest, htaken, rfl⟩ := (readsFolded_wordsAnyCase pageWords p [] v).1 hv
  have hzero : p.position = 0 := hstart
  rw [hzero, List.drop_zero, hrest] at hplace
  have hend : rest = [] ∨ rest = ['\n'] := Place.atTextEnd_iff.1 (mem_ways_textEnd.1 hw).1
  rcases hend with rfl | rfl
  · rwa [hplace, List.append_nil]
  · exact absurd (hplace ▸ List.mem_append_right taken List.mem_cons_self) hline

/-- **Nothing is left of a text of one line exactly if it is a word for a page.** -/
theorem replaceAll_nameSuffix_eq_nil_iff (hne : text ≠ []) (hline : '\n' ∉ text) :
    nameSuffix.replaceAll [] text = [] ↔
      text.map Text.foldAscii ∈ pageWords.map String.toList := by
  constructor
  · intro hnil
    cases hfound : nameSuffix.findAll text with
    | nil =>
      rw [replaceAll, pieces, hfound] at hnil
      refine absurd ?_ hne
      simpa [piecesFrom] using hnil
    | cons m later =>
      -- what stands before the first match is kept
      rw [replaceAll, pieces, hfound, piecesFrom, List.flatMap_cons, List.append_eq_nil_iff] at hnil
      have hstart : m.start = 0 := by
        have htake : text.take (m.start - 0) = [] := hnil.1
        rw [List.take_eq_nil_iff] at htake
        simpa using htake.resolve_right hne
      exact mem_pageWords_of_mem_findAll (hfound ▸ List.mem_cons_self) hstart hline
  · intro hword
    have hat : nameSuffix.at? ⟨none, 0, text ++ []⟩ =
        some ⟨0, ((Place.start text).after text []).position, []⟩ := by
      rw [List.append_nil, at?]
      exact congrArg _ (matchAt_nameSuffix hword)
    obtain ⟨later, hfound⟩ : ∃ later, nameSuffix.findAll (text ++ []) =
        ⟨0, ((Place.start text).after text []).position, []⟩ :: later :=
      ⟨_, findAllFrom_of_match (Place.start (text ++ [])) (Nat.le_refl 0) hne hat⟩
    rw [List.append_nil] at hfound
    -- behind the word nothing is left to keep
    have hdrop : text.drop (((Place.start text).after text []).position - 0) = [] := by
      rw [List.drop_eq_nil_iff]
      exact Nat.le_add_left _ _
    rw [replaceAll, pieces, hfound, piecesFrom, hdrop, List.flatMap_cons, List.flatMap_cons,
      List.append_eq_nil_iff, List.append_eq_nil_iff, List.flatMap_eq_nil_iff]
    refine ⟨List.take_zero, rfl, fun piece hpiece => ?_⟩
    cases piece with
    | plain kept => exact List.subset_nil.1 (mem_of_mem_piecesFrom hpiece)
    | found m => rfl

/-! ### Routes -/

/-- The name of a declaration has no line feed, in lower case either. -/
theorem IsName.not_mem_lower {name : List Char} (h : IsName name) : '\n' ∉ Text.lower name := by
  intro hmem
  have hdelimiter : Text.isDelimiter '\n' = true := by decide
  have hword := h.isWord _ (Text.mem_of_mem_lower hdelimiter hmem)
  rw [Text.not_isDelimiter_of_isWord hword] at hdelimiter
  cases hdelimiter

/-- **Which routes are marked as bare**: those of declarations below no root of routes, whose name
is nothing but a word for a page. -/
theorem route_isBare_iff {path name : String} (h : IsName name.toList) :
    (route path name).2 = true ↔ ¬ HasRouteRoot path ∧ IsBareName name := by
  cases hdirectory : directoryRoute? path with
  | some r =>
    rw [route_of_directoryRoute? hdirectory]
    refine iff_of_false Bool.false_ne_true fun hbare => ?_
    rw [directoryRoute?_eq_none_iff.2 hbare.1] at hdirectory
    cases hdirectory
  | none =>
    have hne : Text.lower name.toList ≠ [] := fun hnil => h.ne_nil (Text.lower_eq_nil.1 hnil)
    have hleft : (stripNameSuffix (Text.lowerString name)).isEmpty = true ↔ IsBareName name := by
      rw [String.isEmpty_iff, ← String.toList_eq_nil_iff, stripNameSuffix, String.toList_ofList,
        Text.lowerString, String.toList_ofList,
        replaceAll_nameSuffix_eq_nil_iff hne h.not_mem_lower, IsBareName]
    rw [and_iff_right (directoryRoute?_eq_none_iff.1 hdirectory), route, hdirectory]
    dsimp only
    split
    · rename_i hhome
      refine iff_of_false Bool.false_ne_true fun hbare => ?_
      have hlowered : Text.lower name.toList = (Text.lowerString name).toList :=
        String.toList_ofList.symm
      rw [IsBareName, hlowered] at hbare
      rcases hhome with hhome | hhome <;> rw [hhome] at hbare <;> exact absurd hbare (by decide)
    · exact hleft

/-- A route begins with a slash. -/
theorem exists_route_eq (path name : String) :
    ∃ rest, (route path name).1.toList = '/' :: rest := by
  rw [route]
  split
  · rename_i r hdirectory
    obtain ⟨root, -, rfl⟩ := Option.map_eq_some_iff.1 hdirectory
    exact ⟨_, String.toList_ofList⟩
  · dsimp only
    split
    · exact ⟨[], rfl⟩
    · exact ⟨_, by rw [String.toList_append]; rfl⟩

end NavGraph.Source

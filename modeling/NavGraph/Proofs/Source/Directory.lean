import NavGraph.Proofs.Source.Segment
import NavGraph.Proofs.Text.Trim

/-!
# Routes from directories

A path below a root of routes is translated segment by segment.  What stands above the root does not
matter, as long as it does not take the place of the root.

## Main definitions

* `IsRouteRoot` - which of the directories on a path is the root of routes
* `Translated` - segments below a root and the segments of the route

## Main statements

* `exists_isRouteRoot` - there is a root wherever a directory can be one
* `directoryRoute?_of_isRouteRoot` - the route is made of what stands below the root
* `route_below_root` - a path with parameters is translated as its grammar says
-/

namespace NavGraph.Source

open Pattern

/-! ### The root of routes -/

/-- A name that is one of some names in lower case. -/
def IsNamed (names : List String) (text : List Char) : Prop :=
  String.ofList (Text.lower text) ∈ names

instance (names : List String) (text : List Char) : Decidable (IsNamed names text) :=
  inferInstanceAs (Decidable (_ ∈ _))

/-- Roots of routes that are preferred. -/
def primaryRoots : List String := ["pages", "routes"]

/-- Roots of routes where there is no preferred one. -/
def secondaryRoots : List String := ["app", "screens", "views"]

/-- **The root of routes** among the directories on a path: the innermost preferred one, or else the
innermost of the others. -/
inductive IsRouteRoot (outer : List (List Char)) (root : List Char)
    (inner : List (List Char)) : Prop
  | primary (named : IsNamed primaryRoots root)
      (innermost : ∀ d ∈ inner, ¬ IsNamed primaryRoots d)
  | secondary (named : IsNamed secondaryRoots root)
      (unpreferred : ∀ d ∈ outer ++ root :: inner, ¬ IsNamed primaryRoots d)
      (innermost : ∀ d ∈ inner, ¬ IsNamed secondaryRoots d)

/-- The parts of a path between its slashes. -/
def pathParts (path : String) : List (List Char) :=
  (Text.split '/' path.toList).filter (!·.isEmpty)

section

variable {α : Type} {p : α → Bool} {outer inner : List α} {item : α}

theorem lastIndex?_append_cons (hitem : p item = true) (hinner : ∀ x ∈ inner, p x = false) :
    lastIndex? p (outer ++ item :: inner) = some outer.length := by
  have hnone : inner.reverse.findIdx? p = none := by
    rw [List.findIdx?_eq_none_iff]
    exact fun x hx => hinner x (List.mem_reverse.1 hx)
  rw [lastIndex?, List.reverse_append, List.reverse_cons, List.append_assoc,
    List.findIdx?_append, hnone]
  simp [hitem, List.findIdx?_cons]

theorem lastIndex?_eq_none {items : List α} (h : ∀ x ∈ items, p x = false) :
    lastIndex? p items = none := by
  rw [lastIndex?, Option.map_eq_none_iff, List.findIdx?_eq_none_iff]
  exact fun x hx => h x (List.mem_reverse.1 hx)

end

variable {outer inner : List (List Char)} {root file : List Char} {path : String}

theorem contains_eq_true_iff {names : List String} {text : List Char} :
    names.contains (String.ofList (Text.lower text)) = true ↔ IsNamed names text :=
  List.contains_iff_mem

theorem contains_eq_false_iff {names : List String} {text : List Char} :
    names.contains (String.ofList (Text.lower text)) = false ↔ ¬ IsNamed names text := by
  rw [← contains_eq_true_iff, Bool.not_eq_true]

theorem lastIndex?_of_isNamed {names : List String} (hroot : IsNamed names root)
    (hinner : ∀ d ∈ inner, ¬ IsNamed names d) :
    lastIndex? (fun d => names.contains (String.ofList (Text.lower d))) (outer ++ root :: inner) =
      some outer.length :=
  lastIndex?_append_cons (contains_eq_true_iff.2 hroot)
    fun d hd => contains_eq_false_iff.2 (hinner d hd)

/-- Where none is preferred, roots are looked for among all. -/
theorem isNamed_append {text : List Char} :
    IsNamed (primaryRoots ++ secondaryRoots) text ↔
      IsNamed primaryRoots text ∨ IsNamed secondaryRoots text :=
  List.mem_append

/-- **The root of routes is found where it stands.** -/
theorem routeRoot?_of_isRouteRoot (h : IsRouteRoot outer root inner) :
    routeRoot? (outer ++ root :: inner) = some outer.length := by
  have hroots : routeRoots = [primaryRoots, primaryRoots ++ secondaryRoots] := rfl
  rw [routeRoot?, hroots, List.findSome?_cons]
  cases h with
  | primary named innermost => rw [lastIndex?_of_isNamed named innermost]
  | secondary named unpreferred innermost =>
    have hinner : ∀ d ∈ inner, ¬ IsNamed (primaryRoots ++ secondaryRoots) d := by
      intro d hd
      rw [isNamed_append, not_or]
      have hmem : d ∈ outer ++ root :: inner :=
        List.mem_append_right _ (List.mem_cons_of_mem root hd)
      exact ⟨unpreferred d hmem, innermost d hd⟩
    rw [lastIndex?_eq_none fun d hd => contains_eq_false_iff.2 (unpreferred d hd)]
    dsimp only
    rw [List.findSome?_cons, lastIndex?_of_isNamed (isNamed_append.2 (.inr named)) hinner]

theorem exists_innermost {names : List String} {directories : List (List Char)}
    (h : ∃ d ∈ directories, IsNamed names d) :
    ∃ outer root inner, directories = outer ++ root :: inner ∧ IsNamed names root ∧
      ∀ d ∈ inner, ¬ IsNamed names d := by
  induction directories with
  | nil => obtain ⟨d, hd, -⟩ := h; cases hd
  | cons first directories ih =>
    by_cases hlater : ∃ d ∈ directories, IsNamed names d
    · obtain ⟨outer, root, inner, rfl, hroot, hinner⟩ := ih hlater
      exact ⟨first :: outer, root, inner, rfl, hroot, hinner⟩
    · refine ⟨[], first, directories, rfl, ?_, fun d hd hnamed => hlater ⟨d, hd, hnamed⟩⟩
      obtain ⟨d, hd, hnamed⟩ := h
      obtain rfl | hd := List.mem_cons.1 hd
      · exact hnamed
      · exact absurd ⟨d, hd, hnamed⟩ hlater

/-- **Where there is a root at all, one of the directories is the root of routes.** -/
theorem exists_isRouteRoot {directories : List (List Char)}
    (h : ∃ d ∈ directories, IsNamed primaryRoots d ∨ IsNamed secondaryRoots d) :
    ∃ outer root inner, directories = outer ++ root :: inner ∧ IsRouteRoot outer root inner := by
  by_cases hprimary : ∃ d ∈ directories, IsNamed primaryRoots d
  · obtain ⟨outer, root, inner, heq, hroot, hinner⟩ := exists_innermost hprimary
    exact ⟨outer, root, inner, heq, .primary hroot hinner⟩
  · have hnone : ∀ d ∈ directories, ¬ IsNamed primaryRoots d :=
      fun d hd hnamed => hprimary ⟨d, hd, hnamed⟩
    have hsecondary : ∃ d ∈ directories, IsNamed secondaryRoots d := by
      obtain ⟨d, hd, hnamed⟩ := h
      exact ⟨d, hd, hnamed.resolve_left (hnone d hd)⟩
    obtain ⟨outer, root, inner, rfl, hroot, hinner⟩ := exists_innermost hsecondary
    exact ⟨outer, root, inner, rfl, .secondary hroot hnone hinner⟩

/-- **The route of a path is made of what stands below the root.** -/
theorem directoryRoute?_of_isRouteRoot
    (hparts : pathParts path = outer ++ root :: (inner ++ [file]))
    (hroot : IsRouteRoot outer root inner) :
    directoryRoute? path = some (String.ofList ('/' :: Text.join ['/']
      (((routeSegments (inner ++ [file])).filter (!isRouteGroup ·)).map routeSegment))) := by
  -- The last part is the file, which is not looked at for a root.
  have hdirectories : (pathParts path).dropLast = outer ++ root :: inner := by
    have hlast : pathParts path = (outer ++ root :: inner) ++ [file] := by
      rw [hparts, List.append_assoc, List.cons_append]
    rw [hlast, List.dropLast_concat]
  have hbelow : (pathParts path).drop (outer.length + 1) = inner ++ [file] := by
    rw [hparts, ← List.drop_drop, List.drop_left, List.drop_one, List.tail_cons]
  rw [pathParts] at hdirectories hbelow
  rw [directoryRoute?, hdirectories, routeRoot?_of_isRouteRoot hroot]
  simp only [Option.map_some, hbelow]

/-! ### Segments below the root -/

/-- **A segment that is enclosed in parentheses is dropped, and every other one is translated.** -/
inductive Translated : List (List Char) → List (List Char) → Prop
  | nil : Translated [] []
  | group (inside : List Char) {segments outs : List (List Char)}
      (tail : Translated segments outs) :
      Translated (('(' :: (inside ++ [')'])) :: segments) outs
  | segment {segment out : List Char} {segments outs : List (List Char)}
      (ungrouped : ∀ inside, segment ≠ '(' :: (inside ++ [')']))
      (translates : Translates segment out)
      (tail : Translated segments outs) : Translated (segment :: segments) (out :: outs)

theorem isRouteGroup_iff {segment : List Char} :
    isRouteGroup segment = true ↔ ∃ inside, segment = '(' :: (inside ++ [')']) := by
  rw [isRouteGroup, Bool.and_eq_true, beq_iff_eq, beq_iff_eq]
  constructor
  · rintro ⟨hhead, hlast⟩
    obtain ⟨rest, rfl⟩ := List.head?_eq_some_iff.1 hhead
    cases rest with
    | nil => exact absurd hlast (by decide)
    | cons d rest =>
      rw [List.getLast?_cons_cons] at hlast
      obtain ⟨inside, hinside⟩ := List.getLast?_eq_some_iff.1 hlast
      exact ⟨inside, by rw [hinside]⟩
  · rintro ⟨inside, rfl⟩
    exact ⟨rfl, by rw [← List.cons_append, List.getLast?_concat]⟩

variable {segments outs : List (List Char)}

theorem exists_translated (h : ∀ segment ∈ segments, ∃ out, Translates segment out) :
    ∃ outs, Translated segments outs := by
  induction segments with
  | nil => exact ⟨[], .nil⟩
  | cons segment segments ih =>
    obtain ⟨⟨out, hout⟩, hsegments⟩ := List.forall_mem_cons.1 h
    obtain ⟨outs, houts⟩ := ih hsegments
    by_cases hgroup : ∃ inside, segment = '(' :: (inside ++ [')'])
    · obtain ⟨inside, rfl⟩ := hgroup
      exact ⟨outs, .group inside houts⟩
    · exact ⟨out :: outs, .segment (not_exists.1 hgroup) hout houts⟩

theorem Translated.map_routeSegment (h : Translated segments outs) :
    (segments.filter (!isRouteGroup ·)).map routeSegment = outs := by
  induction h with
  | nil => rfl
  | group inside tail ih =>
    rw [List.filter_cons_of_neg (by simp [isRouteGroup_iff]), ih]
  | segment ungrouped translates tail ih =>
    have hopen : isRouteGroup _ = false :=
      Bool.eq_false_iff.2 fun hgroup => (isRouteGroup_iff.1 hgroup).elim ungrouped
    rw [List.filter_cons_of_pos (by simp [hopen]), List.map_cons, translates.routeSegment_eq, ih]

theorem Translated.isPlain (h : Translated segments outs) : ∀ out ∈ outs, IsPlain out := by
  induction h with
  | nil => nofun
  | group inside tail ih => exact ih
  | segment ungrouped translates tail ih => exact List.forall_mem_cons.2 ⟨translates.isPlain, ih⟩

/-- Names of files that stand for their directory. -/
def indexNames : List String := ["index", "page"]

/-- What is left of a file below the directories on its path: nothing if it stands for its
directory. -/
def lastSegment (stem : List Char) : List (List Char) :=
  if IsNamed indexNames stem then [] else [stem]

theorem routeSegments_concat :
    routeSegments (inner ++ [file]) =
      inner ++ lastSegment (scriptExtension.replaceAll [] file) := by
  rw [routeSegments, List.getLast?_concat]
  dsimp only
  rw [List.dropLast_concat, lastSegment]
  by_cases hindex : IsNamed indexNames (scriptExtension.replaceAll [] file)
  · rw [if_pos hindex, List.append_nil]
    exact if_pos (contains_eq_true_iff.2 hindex)
  · rw [if_neg hindex]
    exact if_neg (mt contains_eq_true_iff.1 hindex)

/-! ### Routes -/

/-- Directories in front of a path stand in front of its parts. -/
theorem pathParts_append (front path : String) :
    pathParts (front ++ "/" ++ path) = pathParts front ++ pathParts path := by
  have hslash : (front ++ "/" ++ path).toList = front.toList ++ '/' :: path.toList := by
    simp
  rw [pathParts, hslash, Text.split_append_cons, List.filter_append]
  rfl

theorem route_of_directoryRoute? {route' : String} (h : directoryRoute? path = some route')
    (name : String) : route path name = (route', false) := by
  rw [route, h]

/-- A preferred root stays the root when directories are put in front of it. -/
theorem IsRouteRoot.of_primary (h : IsRouteRoot outer root inner)
    (hroot : IsNamed primaryRoots root) (outer' : List (List Char)) :
    IsRouteRoot outer' root inner := by
  cases h with
  | primary named innermost => exact .primary named innermost
  | secondary named unpreferred innermost =>
    exact absurd hroot (unpreferred root (List.mem_append_right _ List.mem_cons_self))

/-- No bracket comes in when segments are joined. -/
theorem isPlain_join (h : ∀ out ∈ outs, IsPlain out) :
    IsPlain ('/' :: Text.join ['/'] outs) := by
  refine List.forall_mem_cons.2 ⟨by decide, fun c hc => ?_⟩
  obtain hc | ⟨out, hout, hc⟩ := Text.mem_join hc
  · rw [List.mem_singleton.1 hc]
    decide
  · exact h out hout c hc

/-- **A path below a root of routes is translated segment by segment**, whatever the name of the
declaration is, and directories in front of it do not matter if the root is a preferred one. -/
theorem route_below_root (hparts : pathParts path = outer ++ root :: (inner ++ [file]))
    (hroot : IsRouteRoot outer root inner)
    (hsegments : ∀ segment ∈ inner ++ [file], ∃ out, Translates segment out) :
    (∃ stem outs, LosesExtension file stem ∧ Translated (inner ++ lastSegment stem) outs ∧
      ∀ name, route path name = (String.ofList ('/' :: Text.join ['/'] outs), false)) ∧
    (∀ name, IsPlain (route path name).1.toList) ∧
    (IsNamed primaryRoots root → ∀ front name,
      route (front ++ "/" ++ path) name = route path name) := by
  obtain ⟨hinner, hfile⟩ := List.forall_mem_append.1 hsegments
  obtain ⟨out, hout⟩ := hfile file List.mem_cons_self
  have hstem := losesExtension_replaceAll file
  have hlast : ∀ segment ∈ lastSegment (scriptExtension.replaceAll [] file),
      ∃ out, Translates segment out := by
    rw [lastSegment]
    split
    · nofun
    · exact List.forall_mem_singleton.2 (hstem.exists_translates hout)
  obtain ⟨outs, houts⟩ := exists_translated (List.forall_mem_append.2 ⟨hinner, hlast⟩)
  have hroute := directoryRoute?_of_isRouteRoot hparts hroot
  refine ⟨⟨_, outs, hstem, houts, fun name => ?_⟩, fun name => ?_, ?_⟩
  · rw [route_of_directoryRoute? hroute, routeSegments_concat, houts.map_routeSegment]
  · rw [route_of_directoryRoute? hroute, routeSegments_concat, houts.map_routeSegment,
      String.toList_ofList]
    exact isPlain_join houts.isPlain
  · -- The same root is found behind more directories, with the same segments below it.
    intro hprimary front name
    have hparts' : pathParts (front ++ "/" ++ path) =
        (pathParts front ++ outer) ++ root :: (inner ++ [file]) := by
      rw [pathParts_append, hparts, List.append_assoc]
    have hroute' := directoryRoute?_of_isRouteRoot hparts' (hroot.of_primary hprimary _)
    rw [route_of_directoryRoute? hroute, route_of_directoryRoute? hroute']

/-- A parameter in a directory's name. -/
def itemParameter : Parameter where
  name := "Id".toList
  doubled := false
  dotted := false
  ne_nil := by decide +kernel
  plain := by decide +kernel
  pointless := by decide +kernel

/-- A parameter for all that follows. -/
def restParameter : Parameter where
  name := "Rest".toList
  doubled := true
  dotted := true
  ne_nil := by decide +kernel
  plain := by decide +kernel
  pointless := by decide +kernel

/-- A path below a preferred root, which itself lies below another one. -/
def shopPath : String := "App/Pages/(shop)/Item-[Id]/[[...Rest]].Page.TSX"

/-- The shop's route has no bracket, and it is the same in every directory. -/
theorem route_below_root_shop : (∀ name, IsPlain (route shopPath name).1.toList) ∧
    ∀ front name, route (front ++ "/" ++ shopPath) name = route shopPath name := by
  have hparts : pathParts shopPath = ["App".toList] ++ "Pages".toList ::
      (["(shop)".toList, "Item-".toList ++ (itemParameter.spelling ++ [])] ++
        [[] ++ (restParameter.spelling ++ ".Page.TSX".toList)]) := by
    decide +kernel
  have hprimary : IsNamed primaryRoots "Pages".toList := by decide +kernel
  have hroot : IsRouteRoot ["App".toList] "Pages".toList
      ["(shop)".toList, "Item-".toList ++ (itemParameter.spelling ++ [])] :=
    .primary hprimary (by decide +kernel)
  have hitem : Translates ("Item-".toList ++ (itemParameter.spelling ++ [])) _ :=
    .parameter (by decide +kernel) itemParameter (.text (by decide))
  have hrest : Translates ([] ++ (restParameter.spelling ++ ".Page.TSX".toList)) _ :=
    .parameter (by decide) restParameter (.text (by decide +kernel))
  have hbelow := route_below_root hparts hroot (by
    simp only [List.cons_append, List.nil_append, List.forall_mem_cons]
    exact ⟨⟨_, .text (by decide +kernel)⟩, ⟨_, hitem⟩, ⟨_, hrest⟩, nofun⟩)
  exact ⟨hbelow.2.1, hbelow.2.2 hprimary⟩

/-- The root's directory, the group and the extension are gone, and the parameters keep their
case. -/
example : route shopPath "Shop" = ("/item-:Id/:Rest.page", false) := by
  decide +kernel

end NavGraph.Source

import NavGraph.Proofs.Pattern.Extent
import NavGraph.Proofs.Source.Description
import NavGraph.Proofs.Source.Extension
import NavGraph.Proofs.Text.LowerCase
import NavGraph.Proofs.Text.Trim
import NavGraph.Source.Path

/-!
# Routes and the link targets that name them

A route is made from a path by one procedure and read off a link target by another, and the two know
nothing of each other.  They agree all the same: a route is a slash and segments with a slash
between each two, none of them empty and none with a character that means something in a link
target, and that is what is left of every target that spells it.

## Main definitions

* `IsSegment` - what may stand between two slashes of a route
* `IsRoute` - a slash, and segments with slashes between them
* `IsLinkable` - paths of candidates that have no character of a link target's own
* `Spells` - a route with slashes and a query or a fragment behind it

## Main statements

* `isRoute_route` - what is derived from a linkable path is a route
* `normalizeTarget_of_spells` - a target that spells a route names it
-/

namespace NavGraph.Source

open Pattern

/-- What may stand between two slashes of a route: something, and nothing that a link target is cut
at. -/
structure IsSegment (text : List Char) : Prop where
  ne_nil : text ≠ []
  plain : ∀ c ∈ text, Text.isDelimiter c = false

/-- A slash, and segments with a slash between each two. -/
def IsRoute (route : String) : Prop :=
  ∃ segments, route.toList = '/' :: Text.join ['/'] segments ∧ ∀ s ∈ segments, IsSegment s

/-- Paths of files worth reading in which nothing but slashes means anything in a link target. -/
structure IsLinkable (path : String) : Prop where
  isCandidate : isCandidate path = true
  plain : ∀ c ∈ path.toList, Text.isBlank c = false ∧ c ≠ '?' ∧ c ≠ '#'

/-- A target **spells** a route if it is the route, any number of slashes behind it, and then the
end or a query or a fragment. -/
def Spells (target route : String) : Prop :=
  ∃ (k : Nat) (suffix : List Char),
    target.toList = route.toList ++ List.replicate k '/' ++ suffix ∧
      (suffix = [] ∨ suffix.head? = some '?' ∨ suffix.head? = some '#')

theorem isDelimiter_eq_false {c : Char} : Text.isDelimiter c = false ↔
    Text.isBlank c = false ∧ c ≠ '/' ∧ c ≠ '?' ∧ c ≠ '#' := by
  simp [Text.isDelimiter, and_assoc]

/-! ### The last segment of a candidate -/

/-- The text behind the last slash of a path. -/
def fileName (path : List Char) : List Char := (path.reverse.takeWhile (· != '/')).reverse

theorem extension_ne_nil {path : String} (h : isCandidate path = true) :
    extension path.toList ≠ [] := by
  intro hnil
  have hlisted := (Bool.and_eq_true_iff.1 h).1
  rw [hnil] at hlisted
  exact absurd hlisted (by decide)

/-- The name of a candidate is none of those that are all ending. -/
theorem stripped_fileName_ne_nil {path : String} (h : isCandidate path = true) :
    fileName path.toList ≠ [] ∧ scriptExtension.replaceAll [] (fileName path.toList) ≠ [] := by
  have hextension := extension_ne_nil h
  -- A name has an ending only if there is a point behind something else than points.
  have hpoint : '.' ∈ (fileName path.toList).dropWhile (· == '.') := by
    refine Decidable.byContradiction fun hnone => hextension (if_neg ?_)
    rw [List.contains_iff_mem]
    exact hnone
  have hne : fileName path.toList ≠ [] := by
    intro hnil
    rw [hnil] at hpoint
    cases hpoint
  refine ⟨hne, fun hnil => ?_⟩
  obtain ⟨body, hbody, hnone⟩ := (hnil ▸ losesExtension_replaceAll _).exists_body_of_nil hne
  rw [hbody, List.dropWhile_cons_of_pos (by decide)] at hpoint
  exact hnone (List.dropWhile_subset _ hpoint)

/-! ### Segments -/

variable {text : List Char}

theorem isSegment_of_subset {segment : List Char} (h : IsSegment segment) (hne : text ≠ [])
    (hsubset : text ⊆ segment) : IsSegment text :=
  ⟨hne, fun c hc => h.plain c (hsubset hc)⟩

/-- A segment of a path stays one when its parameters are written the way of a route. -/
theorem isSegment_routeSegment (h : IsSegment text) : IsSegment (routeSegment text) where
  ne_nil := by
    unfold routeSegment pieces
    cases bracketGroup.findAll text with
    | nil => simpa [piecesFrom] using h.ne_nil
    | cons m later => simp [piecesFrom]
  plain := by
    intro c hc
    obtain ⟨piece, hpiece, hc⟩ := List.mem_flatMap.1 hc
    rw [Bool.eq_false_iff]
    intro hdelimiter
    cases piece with
    | plain kept =>
      have hmem := mem_of_mem_piecesFrom hpiece (Text.mem_of_mem_lower hdelimiter hc)
      rw [h.plain c hmem] at hdelimiter
      cases hdelimiter
    | found m =>
      -- A group in brackets is written as a colon and what is held in it.
      obtain rfl | hc := List.mem_cons.1 hc
      · exact absurd hdelimiter (by decide)
      · have hm := mem_of_found_mem_piecesFrom hpiece
        rw [h.plain c (text_subset_of_mem_findAll hm 1 hc)] at hdelimiter
        cases hdelimiter

/-- What is cut off a path leaves segments, if something is left of the name of the file. -/
theorem isSegment_of_mem_routeSegments {below : List (List Char)}
    (h : ∀ segment ∈ below, IsSegment segment)
    (hlast : ∀ file, below.getLast? = some file → scriptExtension.replaceAll [] file ≠ []) :
    ∀ segment ∈ routeSegments below, IsSegment segment := by
  intro segment hsegment
  unfold routeSegments at hsegment
  cases hfile : below.getLast? with
  | none =>
    rw [hfile] at hsegment
    cases hsegment
  | some file =>
    have hdropped : segment ∈ below.dropLast → IsSegment segment :=
      fun hmem => h segment (List.dropLast_subset below hmem)
    rw [hfile] at hsegment
    dsimp only at hsegment
    split at hsegment
    · exact hdropped hsegment
    · obtain hsegment | hsegment := List.mem_append.1 hsegment
      · exact hdropped hsegment
      · rw [List.mem_singleton.1 hsegment]
        refine isSegment_of_subset (h file (List.mem_of_getLast? hfile)) (hlast file hfile) ?_
        exact fun c hc => (mem_replaceAll hc).resolve_right List.not_mem_nil

/-! ### Routes -/

/-- **The route that a linkable path gives is one**: what stands between the slashes of the path has
no delimiter, and the name of the file is not all ending. -/
theorem isRoute_of_directoryRoute? {path route : String} (hpath : IsLinkable path)
    (h : directoryRoute? path = some route) : IsRoute route := by
  obtain ⟨root, -, rfl⟩ := Option.map_eq_some_iff.1 h
  have hparts : ∀ part ∈ (Text.split '/' path.toList).filter (!·.isEmpty), IsSegment part := by
    intro part hpart
    obtain ⟨hpart, hne⟩ := List.mem_filter.1 hpart
    refine ⟨by simpa using hne, fun c hc => ?_⟩
    obtain ⟨hmem, hslash⟩ := Text.mem_split hpart hc
    obtain ⟨hblank, hquery, hfragment⟩ := hpath.plain c hmem
    exact isDelimiter_eq_false.2 ⟨hblank, hslash, hquery, hfragment⟩
  obtain ⟨hname, hstripped⟩ := stripped_fileName_ne_nil hpath.isCandidate
  have hlast : ((Text.split '/' path.toList).filter (!·.isEmpty)).getLast? =
      some (fileName path.toList) := by
    have hsplit : (Text.split '/' path.toList).getLast? = some (fileName path.toList) :=
      Text.getLast?_split
    obtain ⟨front, hsplit⟩ := List.getLast?_eq_some_iff.1 hsplit
    simp [hsplit, hname]
  refine ⟨_, String.toList_ofList, ?_⟩
  intro segment hsegment
  obtain ⟨below, hbelow, rfl⟩ := List.mem_map.1 hsegment
  refine isSegment_routeSegment (isSegment_of_mem_routeSegments ?_ ?_ below
    (List.mem_filter.1 hbelow).1)
  · exact fun part hpart => hparts part (List.mem_of_mem_drop hpart)
  · intro file hfile
    rw [List.getLast?_drop] at hfile
    split at hfile
    · cases hfile
    · rw [hlast] at hfile
      cases hfile
      exact hstripped

/-- A slash and a name make a route, and so does a slash alone. -/
theorem isRoute_slash_append {name : String}
    (h : ∀ c ∈ name.toList, Text.isDelimiter c = false) : IsRoute ("/" ++ name) := by
  have htext : ("/" ++ name).toList = '/' :: name.toList := String.toList_append
  by_cases hne : name.toList = []
  · exact ⟨[], by rw [htext, hne]; rfl, nofun⟩
  · exact ⟨[name.toList], by rw [htext]; simp [Text.join], by simpa using ⟨hne, h⟩⟩

/-- **Every route is one**, from a directory or from a name. -/
theorem isRoute_route {path name : String} (hpath : IsLinkable path) (hname : IsName name.toList) :
    IsRoute (route path name).1 := by
  have hroot : IsRoute "/" := ⟨[], rfl, nofun⟩
  unfold route
  cases hdirectory : directoryRoute? path with
  | some r => exact isRoute_of_directoryRoute? hpath hdirectory
  | none =>
    dsimp only
    split
    · exact hroot
    · refine isRoute_slash_append fun c hc => ?_
      rw [Bool.eq_false_iff]
      intro hdelimiter
      unfold stripNameSuffix at hc
      rw [String.toList_ofList] at hc
      have hlowered := (mem_replaceAll hc).resolve_right List.not_mem_nil
      unfold Text.lowerString at hlowered
      rw [String.toList_ofList] at hlowered
      have hword := hname.isWord c (Text.mem_of_mem_lower hdelimiter hlowered)
      rw [Text.not_isDelimiter_of_isWord hword] at hdelimiter
      cases hdelimiter

/-! ### Link targets -/

/-- A query or a fragment is cut off. -/
theorem takeWhile_trim_append {stem suffix : List Char} (hne : stem ≠ [])
    (h : ∀ c ∈ stem, Text.isBlank c = false ∧ c ≠ '?' ∧ c ≠ '#')
    (hsuffix : suffix = [] ∨ suffix.head? = some '?' ∨ suffix.head? = some '#') :
    ((Text.trim (stem ++ suffix)).takeWhile fun c => c != '?' && c != '#') = stem := by
  have hcut : ((Text.trimEndWhile Text.isBlank suffix).takeWhile fun c => c != '?' && c != '#') =
      [] := by
    cases suffix with
    | nil => rfl
    | cons d rest =>
      have hd : d = '?' ∨ d = '#' := by simpa using hsuffix
      have hblank : Text.isBlank d = false := by obtain rfl | rfl := hd <;> decide
      have hkept := Text.trimEndWhile_append (List.forall_mem_singleton.2 hblank) rest
      rw [List.singleton_append, List.singleton_append] at hkept
      rw [hkept, List.takeWhile_cons_of_neg]
      obtain rfl | rfl := hd <;> decide
  rw [Text.trim_append hne fun c hc => (h c hc).1, List.takeWhile_append_of_pos, hcut,
    List.append_nil]
  intro c hc
  simpa using (h c hc).2

/-- A route has nothing behind its last segment, and nothing but slashes between its segments that a
link target is cut at. -/
theorem IsRoute.exists_body {route : String} (h : IsRoute route) :
    ∃ body, route.toList = '/' :: body ∧ body.getLast? ≠ some '/' ∧
      ∀ c ∈ body, Text.isBlank c = false ∧ c ≠ '?' ∧ c ≠ '#' := by
  obtain ⟨segments, htext, hall⟩ := h
  refine ⟨_, htext, ?_, ?_⟩
  · cases hlast : segments.getLast? with
    | none =>
      rw [List.getLast?_eq_none_iff.1 hlast]
      exact nofun
    | some segment =>
      have hsegment := hall segment (List.mem_of_getLast? hlast)
      rw [Text.getLast?_join hsegment.ne_nil hlast]
      intro hslash
      have hplain := hsegment.plain '/' (List.mem_of_getLast? hslash)
      exact absurd hplain (by decide)
  · intro c hc
    obtain hc | ⟨segment, hsegment, hc⟩ := Text.mem_join hc
    · rw [List.mem_singleton.1 hc]
      decide
    · obtain ⟨hblank, -, hquery, hfragment⟩ :=
        isDelimiter_eq_false.1 ((hall segment hsegment).plain c hc)
      exact ⟨hblank, hquery, hfragment⟩

/-- **A target that spells a route names it.**  What is trimmed off and cut off is behind the route;
of the slashes that are left none belongs to it, unless it is nothing but a slash. -/
theorem normalizeTarget_of_spells {target route : String} (hroute : IsRoute route)
    (h : Spells target route) : normalizeTarget target = route := by
  obtain ⟨k, suffix, htarget, hsuffix⟩ := h
  obtain ⟨body, hbody, hlast, hplain⟩ := hroute.exists_body
  have hslashes : ∀ c ∈ List.replicate k '/', (c == '/') = true := by
    intro c hc
    rw [List.eq_of_mem_replicate hc]
    rfl
  have hstem : ∀ c ∈ '/' :: (body ++ List.replicate k '/'),
      Text.isBlank c = false ∧ c ≠ '?' ∧ c ≠ '#' := by
    have hslash : Text.isBlank '/' = false ∧ '/' ≠ '?' ∧ '/' ≠ '#' := by decide
    refine List.forall_mem_cons.2 ⟨hslash, List.forall_mem_append.2 ⟨hplain, fun c hc => ?_⟩⟩
    rwa [List.eq_of_mem_replicate hc]
  have hcut := takeWhile_trim_append (List.cons_ne_nil _ _) hstem hsuffix
  have htarget' : target.toList = '/' :: (body ++ List.replicate k '/') ++ suffix := by
    rw [htarget, hbody, List.cons_append]
  have hroute' : route = String.ofList ('/' :: body) := by
    rw [← hbody, String.ofList_toList]
  unfold normalizeTarget
  rw [htarget', hcut, hroute']
  cases hend : body.getLast? with
  | none =>
    -- The route is a slash: either it stands alone, or it is trimmed off with those behind it.
    obtain rfl := List.getLast?_eq_none_iff.1 hend
    cases k with
    | zero => rfl
    | succ k =>
      have htrimmed : Text.trimEndWhile (· == '/') ('/' :: List.replicate (k + 1) '/') = [] :=
        Text.trimEndWhile_eq_nil (List.forall_mem_cons.2 ⟨rfl, hslashes⟩)
      simp [htrimmed]
  | some last =>
    -- The last segment ends the run of slashes that is trimmed off.
    obtain ⟨front, rfl⟩ := List.getLast?_eq_some_iff.1 hend
    have hslash : (last == '/') = false := by
      rw [hend] at hlast
      simpa using hlast
    have htrimmed :
        Text.trimEndWhile (· == '/') ('/' :: (front ++ [last] ++ List.replicate k '/')) =
          '/' :: (front ++ [last]) := by
      have hkept := Text.trimEndWhile_append_cons (p := (· == '/')) hslash ('/' :: front)
        (List.replicate k '/')
      rw [Text.trimEndWhile_eq_nil hslashes] at hkept
      simpa using hkept
    have hlength : 1 < ('/' :: (front ++ [last] ++ List.replicate k '/')).length := by
      simp only [List.length_cons, List.length_append]
      omega
    simp only [if_pos hlength, htrimmed]
    rfl

end NavGraph.Source

import NavGraph.Pattern.Search
import NavGraph.Text.LetterCase
import NavGraph.Text.Trim

/-!
# Routes

The address of a declaration within its site: read off the directories of its file, or else off
its name.

## Main definitions

* `routeRoot?` - the directory below which paths are routes
* `directoryRoute?` - the route that a path gives
* `route` - the route of a declaration, and whether it is the bare one for want of a better
* `routeParams` - names of the parameters of a route
* `normalizeTarget` - the route that a link target names
-/

namespace NavGraph.Source

open Pattern

/-- Directories whose contents are routes, in order of preference. -/
def routeRoots : List (List String) :=
  [["pages", "routes"], ["pages", "routes", "app", "screens", "views"]]

/-- The ending of a script. -/
def scriptExtension : Pattern :=
  .sequence [.single '.', .optional (.oneOfAnyCase "cm"), .oneOfAnyCase "jt", .anyCase "s",
    .optional (.anyCase "x"), .textEnd]

/-- A word for a page at the end of a name. -/
def nameSuffix : Pattern := .seq (.wordsAnyCase ["page", "screen", "view"]) .textEnd

/-- A parameter in brackets: one or two pairs, with or without leading points.  Slot 1 holds its
name. -/
def bracketGroup : Pattern :=
  .sequence [.single '[', .optional (.single '['), .optional (.literal "..."),
    .capture 1 (.oneOrMore (noneOf "[]")), .optional (.single ']'), .single ']']

/-- A parameter of a route.  Slot 1 holds its name. -/
def routeParam : Pattern := .seq (.single ':') (.capture 1 (.oneOrMore Text.isWord))

/-- A name without a word for a page at its end. -/
def stripNameSuffix (name : String) : String :=
  String.ofList (nameSuffix.replaceAll [] name.toList)

/-- A name without a word for a page at its end, or the whole name if nothing is left. -/
def displayName (name : String) : String :=
  if (stripNameSuffix name).isEmpty then name else stripNameSuffix name

/-- The index of the last item that satisfies a test. -/
def lastIndex? {α : Type} (p : α → Bool) (items : List α) : Option Nat :=
  (items.reverse.findIdx? p).map fun i => items.length - 1 - i

/-- The index of the innermost directory whose contents are routes. -/
def routeRoot? (directories : List (List Char)) : Option Nat :=
  routeRoots.findSome? fun names =>
    lastIndex? (fun d => names.contains (String.ofList (Text.lower d))) directories

/-- A segment of a path as a segment of a route: parameters in brackets become `:name`, and what
stands between them becomes lower case. -/
def routeSegment (segment : List Char) : List Char :=
  (bracketGroup.pieces segment).flatMap fun
    | .plain text => Text.lower text
    | .found m => ':' :: (m.text 1).toList

/-- Whether a segment only groups what lies below it. -/
def isRouteGroup (segment : List Char) : Bool :=
  segment.head? == some '(' && segment.getLast? == some ')'

/-- Segments below the root of routes: the file loses its ending, and an index file its
segment. -/
def routeSegments (below : List (List Char)) : List (List Char) :=
  match below.getLast? with
  | none => []
  | some file =>
      let file := scriptExtension.replaceAll [] file
      if ["index", "page"].contains (String.ofList (Text.lower file)) then below.dropLast
      else below.dropLast ++ [file]

/-- The route that a path gives, if one of its directories is a root of routes. -/
def directoryRoute? (path : String) : Option String :=
  let parts := (Text.split '/' path.toList).filter (!·.isEmpty)
  (routeRoot? parts.dropLast).map fun root =>
    let segments := (routeSegments (parts.drop (root + 1))).filter (!isRouteGroup ·)
    String.ofList ('/' :: Text.join ['/'] (segments.map routeSegment))

/-- The route of a declaration, and whether it is the bare one because nothing is left of the
declaration's name. -/
def route (path name : String) : String × Bool :=
  match directoryRoute? path with
  | some r => (r, false)
  | none =>
      let lowered := Text.lowerString name
      if lowered = "home" ∨ lowered = "homepage" then ("/", false)
      else
        let stripped := stripNameSuffix lowered
        ("/" ++ stripped, stripped.isEmpty)

/-- Names of the parameters of a route, in order. -/
def routeParams (route : String) : List String :=
  (routeParam.findAll route.toList).map (·.text 1)

/-- The route that a link target names: without blanks around it, query, fragment, and slashes
behind it. -/
def normalizeTarget (target : String) : String :=
  let path := (Text.trim target.toList).takeWhile fun c => c != '?' && c != '#'
  let path := if 1 < path.length then Text.trimEndWhile (· == '/') path else path
  if path.isEmpty then "/" else String.ofList path

end NavGraph.Source

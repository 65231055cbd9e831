import NavGraph.Source.Route

/-!
# Features of a file

What a file's text shows of the pages in it: whether they need authentication or parameters, what
a user does on them, and how a user gets there.

## Main definitions

* `Flags`, `flags` - authentication, parameters, protection
* `userActions`, `entryPoints` - what a user does, and how a user gets there
* `describe` - a one-sentence description
-/

namespace NavGraph.Source

open Pattern

/-- Use of the signed-in user. -/
def authSignal : Pattern :=
  .words ["useAuth", "isAuthenticated", "requireAuth", "PrivateRoute", "ProtectedRoute",
    "useSession", "withAuth"]

/-- Use of parameters of the address. -/
def paramsSignal : Pattern :=
  .words ["useParams", "useSearchParams", "useLocalSearchParams", "props.match.params",
    "router.query"]

/-- A guard in front of the page. -/
def guardSignal : Pattern :=
  .words ["requireAuth", "ProtectedRoute", "PrivateRoute", "authGuard", "canActivate", "withAuth"]

/-- A form. -/
def formSignal : Pattern := .words ["<form", "useForm", "Formik", "react-hook-form"]

/-- A call to a service. -/
def serviceSignal : Pattern :=
  .words ["fetch(", "axios.", "api.", "useQuery", "useMutation", "useSWR"]

/-- What a page needs. -/
structure Flags where
  hasAuth : Bool
  hasParameters : Bool
  isProtected : Bool
  deriving DecidableEq, Repr

/-- What the pages of a text need; a route with a parameter needs parameters in any case. -/
def flags (text route : String) : Flags where
  hasAuth := authSignal.occursIn text.toList
  hasParameters := paramsSignal.occursIn text.toList || route.toList.contains ':'
  isProtected := guardSignal.occursIn text.toList

/-- A field for the upload of a file. -/
def fileField : Pattern :=
  .sequence [.anyCase "type=", .char fun c => c == Char.ofNat 34 || c == Char.ofNat 39,
    .anyCase "file", .char fun c => c == Char.ofNat 34 || c == Char.ofNat 39]

/-- Kinds of user actions with their signals. -/
def actionSignals : List (String × Pattern) := [
  ("Click actions", .words ["<button", "onClick"]),
  ("Form submission", .words ["<form", "onSubmit"]),
  ("Data entry", .wordsAnyCase ["<input", "<textarea", "<select", "onchange"]),
  ("Search/Filter", .wordsAnyCase ["search", "filter"]),
  ("Authentication", .wordsAnyCase ["login", "signin", "sign in", "authenticate"]),
  ("Shopping", .wordsAnyCase ["cart", "checkout", "purchase", "buy"]),
  ("File upload", .anyOf [.anyCase "upload", fileField, .anyCase "filereader"]),
  ("Social sharing", .wordsAnyCase ["share", "social"])]

/-- Ways to a page with their signals. -/
def entrySignals : List (String × Pattern) := [
  ("Authentication flow", .wordsAnyCase ["login", "signin"]),
  ("User area", .wordsAnyCase ["dashboard", "profile"]),
  ("Product links", .wordsAnyCase ["product", "item", "detail"]),
  ("Search results", .wordsAnyCase ["search", "results"])]

/-- Labels whose signal a text shows. -/
def labelsShown (signals : List (String × Pattern)) (text : String) : List String :=
  (signals.filter fun s => s.2.occursIn text.toList).map (·.1)

/-- A list, or one default item instead of none. -/
def orDefault (default : String) (labels : List String) : List String :=
  if labels.isEmpty then [default] else labels

/-- What a user does on the pages of a text. -/
def userActions (text : String) : List String :=
  orDefault "View content" (labelsShown actionSignals text)

/-- How a user gets to a page. -/
def entryPoints (text route : String) : List String :=
  orDefault "Navigation" <|
    (if route = "/" then ["Direct URL", "Search engines"] else []) ++ labelsShown entrySignals text

/-- A one-sentence description of a declaration. -/
def describe (name text : String) : String :=
  displayName name ++ " page" ++
    (if formSignal.occursIn text.toList then " with form functionality" else "") ++
    (if authSignal.occursIn text.toList then " requiring authentication" else "") ++
    if serviceSignal.occursIn text.toList then " with data integration" else ""

end NavGraph.Source

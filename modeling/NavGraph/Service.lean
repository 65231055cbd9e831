import NavGraph.Analyzer
import NavGraph.Demo.Dataset
import NavGraph.Report.Diagram

/-!
# The web services

Two services answer a posted address: one with the result, one with the data of a diagram.

## Main definitions

* `Analyzer.ofSettings` - the analyzer that settings ask for
* `AnalyzeOrder`, `Service`, `Reply` - what is posted, where, and what comes back
* `Service.respond` - the answer of a service to an order
* `Service.handle` - what becomes of a posted document
-/

namespace NavGraph

open Schema

/-- The settings that a caller gives, or else those of an environment. -/
def Settings.givenOr (environment : List (String × String)) :
    Option Settings → Except Failure Settings
  | some settings => .ok settings
  | none => load environment []

/-- The analyzer that settings ask for: with demonstration data if they allow it. -/
def Analyzer.ofSettings (settings : Settings) (host : Host) (cancelled : Signal)
    (now : Time.Timestamp) : Analyzer :=
  .assemble ⟨host, settings, .never, now⟩ (some cancelled) (some cancelled)
    (if settings.fallbackEnabled then some Demo.demoAnalysis else none)

/-- An order to analyze a repository. -/
structure AnalyzeOrder where
  repoUrl : String
  allowFallback : Bool
  deriving DecidableEq, Repr

/-- The services. -/
inductive Service where
  /-- Answers with the result. -/
  | analyze
  /-- Answers with the data of a diagram. -/
  | flow
  deriving DecidableEq, Repr

namespace Service

/-- The title that a service shows. -/
def title : Service → String
  | analyze => "Flowscope Analyzer"
  | flow => "Flowscope Web Interface"

/-- Paths that a service takes orders at. -/
def paths : Service → List String
  | analyze => ["/analyze"]
  | flow => ["/flow"]

/-- The order in a posted document; only the first service lets it forbid demonstration data. -/
def order : Service → Json → Reading AnalyzeOrder
  | analyze => object fun fs =>
      ((required "repo_url" text fs).map AnalyzeOrder.mk).and
        (withDefault "allow_fallback" true boolean fs)
  | flow => object fun fs => (required "repo_url" text fs).map fun url => ⟨url, true⟩

/-- The document that a service answers with. -/
def document : Service → Analysis → Json
  | analyze, a => a.toJson
  | flow, a => (Report.Diagram.ofAnalysis a).toJson

/-- What a service answers with: a document, or the status and the detail of a failure. -/
inductive Reply where
  | document (body : Json)
  | refusal (status : Nat) (detail : Json)

/-- The answer of a service to an order.  Failures that a run is expected to end in become an
answer; others escape. -/
def respond (s : Service) (analyzer : Analyzer) (order : AnalyzeOrder) : Run Reply :=
  let analyzer :=
    if order.allowFallback then analyzer else { analyzer with fallback := none }
  tryCatch (do return .document (s.document (← analyzer.analyze order.repoUrl))) fun f =>
    if f.isReported then return .refusal f.httpStatus f.httpDetail else throw f

/-- What becomes of a posted document. -/
inductive Handling where
  /-- The document is no order. -/
  | rejected (problems : List Problem)
  /-- There are no settings to serve the order with. -/
  | unconfigured (failure : Failure)
  /-- The order was served; the failure is one that escapes. -/
  | served (outcome : Except Failure Reply) (trace : Trace)

/-- What becomes of a posted document.  The document is looked at first, the settings next, and the
host is asked last. -/
def handle (s : Service) (body : Json) (environment : List (String × String)) (host : Host)
    (now : Time.Timestamp) : Handling :=
  match s.order body with
  | .error problems => .rejected problems
  | .ok order =>
      match Settings.load environment [] with
      | .error f => .unconfigured f
      | .ok settings =>
          let analyzer := Analyzer.ofSettings settings host .never now
          let (outcome, trace) := (s.respond analyzer order).outcome .empty
          .served outcome trace

end Service

end NavGraph

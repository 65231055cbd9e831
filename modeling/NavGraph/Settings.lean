import NavGraph.Assoc
import NavGraph.Failure
import NavGraph.Number.Shortest
import NavGraph.Schema.Reading

/-!
# Settings

How a run talks to the host: whose address, under which name, how patiently.

## Main definitions

* `Settings` - the settings
* `Settings.ofJson` - settings from a document
* `Settings.load` - settings from defaults, then the environment, then explicit values
-/

namespace NavGraph

open Schema

/-- How a run talks to the host. -/
structure Settings where
  apiBaseUrl : String
  acceptHeader : String
  userAgent : String
  token : Option String
  /-- Seconds. -/
  timeout : Float
  /-- Attempts after the first. -/
  maxRetries : Int
  /-- Seconds; after attempt `n` the run waits `n` times as long. -/
  retryBaseDelay : Float
  fallbackEnabled : Bool

namespace Settings

/-- The settings when nothing is said. -/
def default : Settings where
  apiBaseUrl := "https://api.github.com"
  acceptHeader := "application/vnd.github.v3+json"
  userAgent := "Flowscope-Analyzer"
  token := none
  timeout := 30.0
  maxRetries := 2
  retryBaseDelay := 1.0
  fallbackEnabled := true

/-- A float above zero; what is not a number is not above it. -/
def positive (v : Json) : Reading Float :=
  match number v with
  | .ok x => if 0.0 < x then .ok x else .refuse .notAbove
  | .error problems => .error problems

/-- A float that is zero or above; what is not a number is neither. -/
def nonNegative (v : Json) : Reading Float :=
  match number v with
  | .ok x => if 0.0 ≤ x then .ok x else .refuse .below
  | .error problems => .error problems

/-- An integer that is zero or above. -/
def count (v : Json) : Reading Int :=
  match integer v with
  | .ok n => if 0 ≤ n then .ok n else .refuse .below
  | .error problems => .error problems

/-- Settings from a document; what it does not say has its default. -/
def ofJson : Json → Reading Settings :=
  object fun fs =>
    (((withDefault "api_base_url" default.apiBaseUrl text fs).map mk)
      |>.and (withDefault "accept_header" default.acceptHeader text fs)
      |>.and (withDefault "user_agent" default.userAgent text fs)
      |>.and (withDefault "token" default.token (orNull text) fs)
      |>.and (withDefault "timeout" default.timeout positive fs)
      |>.and (withDefault "max_retries" default.maxRetries count fs)
      |>.and (withDefault "retry_base_delay" default.retryBaseDelay nonNegative fs)
      |>.and (withDefault "fallback_enabled" default.fallbackEnabled boolean fs))

/-- The written form; floats are written as their shortest texts. -/
def toJson (s : Settings) : Json :=
  .object [("api_base_url", .string s.apiBaseUrl), ("accept_header", .string s.acceptHeader),
    ("user_agent", .string s.userAgent), ("token", .ofOption s.token),
    ("timeout", .string (Number.floatText s.timeout)), ("max_retries", .int s.maxRetries),
    ("retry_base_delay", .string (Number.floatText s.retryBaseDelay)),
    ("fallback_enabled", .bool s.fallbackEnabled)]

/-- Variables of the environment, each with the field that it sets. -/
def environmentFields : List (String × String) := [
  ("FLOWSCOPE_API_BASE_URL", "api_base_url"),
  ("FLOWSCOPE_USER_AGENT", "user_agent"),
  ("GITHUB_TOKEN", "token"),
  ("FLOWSCOPE_TIMEOUT", "timeout"),
  ("FLOWSCOPE_MAX_RETRIES", "max_retries"),
  ("FLOWSCOPE_RETRY_BASE_DELAY", "retry_base_delay"),
  ("FLOWSCOPE_FALLBACK", "fallback_enabled")]

/-- Fields that an environment sets; an empty variable sets nothing. -/
def ofEnvironment (environment : List (String × String)) : Fields :=
  environmentFields.filterMap fun (key, field) =>
    match environment.lookup key with
    | some value => if value.isEmpty then none else some (field, .string value)
    | none => none

/-- Whether a value is null. -/
def isNull : Json → Bool
  | .null => true
  | _ => false

/-- Fields set by an environment and by explicit values; an explicit value wins, and null is not
one. -/
def chosenFields (environment : List (String × String)) (overrides : Fields) : Fields :=
  (overrides.filter (!isNull ·.2)).foldl (fun fs o => Assoc.put o.1 o.2 fs)
    (ofEnvironment environment)

/-- Settings from defaults, then an environment, then explicit values. -/
def load (environment : List (String × String)) (overrides : Fields) : Except Failure Settings :=
  match ofJson (.object (chosenFields environment overrides)) with
  | .ok s => .ok s
  | .error problems => .error (.invalidSettings problems)

end Settings

end NavGraph

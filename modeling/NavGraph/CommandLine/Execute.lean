import NavGraph.CommandLine.Command
import NavGraph.Json.Writer
import NavGraph.Report.Summary
import NavGraph.Service

/-!
# Executing a command line

What a command line prints, with which status it ends, and what it does on the way.

## Main definitions

* `Effects` - everything that is seen of an execution
* `execute` - a command line in an environment, with a host
-/

namespace NavGraph.CommandLine

/-- The service that is offered. -/
structure Served where
  app : String
  host : String
  port : Int
  reload : Bool
  deriving DecidableEq, Repr

/-- Everything that is seen of an execution. -/
structure Effects where
  /-- The exit status, or the failure that escapes. -/
  exit : Except Failure Nat
  stdout : String
  stderr : String
  /-- A log file by its path, and its text. -/
  logFile : Option (String × String)
  served : Option Served
  trace : Trace

/-- What a user is told of words that make no sense. -/
def usageLine (program message : String) : String := program ++ ": error: " ++ message

/-- The printed form of a result. -/
def printed (summary : Bool) (a : Analysis) : String :=
  (if summary then Report.summary a else a.toJson.renderLines) ++ "\n"

/-- The end of an execution after a run. -/
def finishAnalysis (summary : Bool) (logFile : Option String)
    (verbose : Bool) (outcome : Except Failure Analysis) (trace : Trace) : Effects :=
  let journal := (Journal.initial.configure verbose logFile.isSome).writeAll trace.lines
  let file := logFile.map fun path => (path, journal.file.getD "")
  match outcome with
  | .ok a => ⟨.ok 0, printed summary a, journal.console, file, none, trace⟩
  | .error f =>
      if f.isReported then
        ⟨.ok 1, "", journal.console ++ "error: " ++ f.message ++ "\n", file, none, trace⟩
      else ⟨.error f, "", journal.console, file, none, trace⟩

/-- Explicit settings of a command line. -/
def overridesOf (noFallback : Bool) : Schema.Fields :=
  if noFallback then [("fallback_enabled", .bool false)] else []

/-- Execute an invocation.  Settings that do not hold together escape, for they are read before
the run begins. -/
def Invocation.execute (i : Invocation) (environment : List (String × String)) (host : Host)
    (now : Time.Timestamp) : Effects :=
  match i.command with
  | .serve address port reload =>
      ⟨.ok 0, "", "", none, some ⟨"api:app", address, port, reload⟩, .empty⟩
  | .analyze url summary noFallback logFile =>
      match Settings.load environment (overridesOf noFallback) with
      | .error f => ⟨.error f, "", "", logFile.map (·, ""), none, .empty⟩
      | .ok settings =>
          let analyzer := Analyzer.ofSettings settings host .never now
          let (outcome, trace) := (analyzer.analyze url).outcome .empty
          finishAnalysis summary logFile i.verbose outcome trace

/-- Execute a command line. -/
def execute (words : List String) (environment : List (String × String)) (host : Host)
    (now : Time.Timestamp) : Effects :=
  match Invocation.parse words with
  | .ok i => i.execute environment host now
  | .error (.usage program message) =>
      ⟨.ok 2, "", usageLine program message ++ "\n", none, none, .empty⟩
  | .error .help => ⟨.ok 0, "", "", none, none, .empty⟩

end NavGraph.CommandLine

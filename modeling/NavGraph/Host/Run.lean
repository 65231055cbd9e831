import NavGraph.Failure
import NavGraph.Host.Message
import NavGraph.Journal

/-!
# Runs

A run asks a host, waits, and notes down what it does.  It ends with a value or a failure, and
what it did on the way is its trace.

## Main definitions

* `Trace` - requests, waits and journal lines, the oldest first
* `Run` - computations that leave a trace
* `Signal` - when a run is asked to stop
* `Run.ask`, `Run.sleep`, `Run.log`, `Run.requireActive` - the steps of a run

## Design notes

Being asked to stop is a question about the number of requests made so far: nothing else happens
between two looks at it that could change the answer.
-/

namespace NavGraph

/-- What a run did. -/
structure Trace where
  requests : List Request
  sleeps : List Float
  lines : List LogLine

/-- Nothing done yet. -/
def Trace.empty : Trace := ⟨[], [], []⟩

/-- Computations that leave a trace and may fail. -/
abbrev Run (α : Type) := ExceptT Failure (StateM Trace) α

/-- Whether a run is asked to stop, by the number of requests made so far. -/
abbrev Signal := Nat → Bool

namespace Signal

/-- Never asked to stop. -/
def never : Signal := fun _ => false

/-- Asked to stop once so many requests have been made. -/
def after (n : Nat) : Signal := fun made => n ≤ made

end Signal

namespace Run

variable {α : Type}

/-- Ask a host, which knows all requests made before. -/
def ask (host : Host) (request : Request) : Run Answer := do
  let t ← get
  set { t with requests := t.requests ++ [request] }
  return host t.requests request

/-- Wait for some seconds. -/
def sleep (seconds : Float) : Run Unit :=
  modify fun t => { t with sleeps := t.sleeps ++ [seconds] }

/-- Note down a line. -/
def log (level : Level) (logger message : String) : Run Unit :=
  modify fun t => { t with lines := t.lines ++ [⟨level, logger, message⟩] }

/-- Fail if the run is asked to stop. -/
def requireActive (signal : Signal) : Run Unit := do
  let t ← get
  if signal t.requests.length then throw .cancelled

/-- A value or a failure as a run that does nothing. -/
def ofExcept : Except Failure α → Run α
  | .ok a => pure a
  | .error f => throw f

/-- The outcome of a run from a trace on, and the longer trace. -/
def outcome (run : Run α) (t : Trace) : Except Failure α × Trace := run.run.run t

end Run

end NavGraph

import NavGraph.CommandLine.Execute
import NavGraph.Host.Session
import NavGraph.Json.Reader

/-!
# The program

The command line over a recorded session: the answers of the host, and the present time, are read
from the standard input as one document.
-/

namespace NavGraph.CommandLine

/-- The time of a session, the start of 1970 unless it tells one. -/
def sessionTime (session : Json) : Time.Timestamp :=
  match session.field? "now_us" with
  | some (.int n) => (Time.Timestamp.ofEpochMicros? n).getD .epoch
  | _ => .epoch

/-- The variables of the environment that settings are read from. -/
def readEnvironment : IO (List (String × String)) :=
  Settings.environmentFields.filterMapM fun (key, _) => do
    return (← IO.getEnv key).map fun value => (key, value)

/-- Execute a command line over a session and show what is to be seen of it. -/
def runProgram (words : List String) (session : Json) : IO UInt32 := do
  let effects :=
    execute words (← readEnvironment) (Script.ofJson session).host (sessionTime session)
  IO.print effects.stdout
  IO.eprint effects.stderr
  match effects.logFile with
  | none => pure ()
  | some (path, text) => IO.FS.withFile path .append fun handle => handle.putStr text
  match effects.served with
  | none => pure ()
  | some s => IO.println (s.app ++ " at " ++ s.host ++ ":" ++ toString s.port)
  match effects.exit with
  | .ok status => return UInt32.ofNat status
  | .error f => do
      IO.eprintln f.message
      return 70

end NavGraph.CommandLine

/-- Read the session and execute the command line. -/
def main (words : List String) : IO UInt32 := do
  let text ← (← IO.getStdin).readToEnd
  NavGraph.CommandLine.runProgram words ((NavGraph.Json.parse? text.toList).getD (.object []))

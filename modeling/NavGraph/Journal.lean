/-!
# The journal

What a run notes down: lines with a level and the part of the program that they come from, and
the sinks that lines are written to.

## Main definitions

* `Level`, `LogLine` - lines
* `Journal` - the state of the sinks, and all that was written to them
* `Journal.configure`, `Journal.write` - set up the sinks, and write a line

## Design notes

The journal is the journal of one program within a larger one.  Until it is set up, and for lines
of other programs, the rules of the outside apply: warnings and worse go to the console, bare.
-/

namespace NavGraph

/-- How important a line is. -/
inductive Level where
  | debug
  | info
  | warning
  | error
  | critical
  deriving DecidableEq, Repr

namespace Level

/-- The written name. -/
def name : Level → String
  | debug => "DEBUG"
  | info => "INFO"
  | warning => "WARNING"
  | error => "ERROR"
  | critical => "CRITICAL"

/-- The level with a name in lower case. -/
def ofName? : String → Option Level
  | "debug" => some debug
  | "info" => some info
  | "warning" => some warning
  | "error" => some error
  | "critical" => some critical
  | _ => none

/-- The place in the order of importance. -/
def rank : Level → Nat
  | debug => 10
  | info => 20
  | warning => 30
  | error => 40
  | critical => 50

end Level

/-- A line of the journal. -/
structure LogLine where
  level : Level
  /-- The part of the program that the line comes from. -/
  logger : String
  message : String
  deriving DecidableEq, Repr

namespace LogLine

/-- The line as a console shows it. -/
def consoleText (l : LogLine) : String :=
  "[flowscope] " ++ l.level.name ++ " " ++ l.message ++ "\n"

/-- The line with its level and origin in front. -/
def text (l : LogLine) : String := l.level.name ++ " " ++ l.logger ++ ": " ++ l.message

/-- The line as a file holds it, behind the time. -/
def fileText (l : LogLine) : String := l.text ++ "\n"

end LogLine

/-- The name of the program, above all its parts. -/
def rootLogger : String := "flowscope"

/-- The full name of a part of the program; no name is the program itself. -/
def loggerName (name : Option String) : String :=
  match name with
  | none => rootLogger
  | some name =>
      if name.isEmpty then rootLogger
      else if rootLogger.toList.isPrefixOf name.toList then name
      else rootLogger ++ "." ++ name

/-- Whether a name is that of the program or of a part of it. -/
def isOwnLogger (name : String) : Bool :=
  name == rootLogger || (rootLogger ++ ".").toList.isPrefixOf name.toList

/-- Where lines go. -/
inductive Sink where
  | console
  | file
  deriving DecidableEq, Repr

/-- The sinks and what was written to them. -/
structure Journal where
  /-- The least level that is written; absent until the journal is set up. -/
  level : Option Level
  sinks : List Sink
  console : String
  /-- The text of the file; absent until it is opened. -/
  file : Option String
  deriving DecidableEq, Repr

namespace Journal

/-- Not set up yet. -/
def initial : Journal := ⟨none, [], "", none⟩

/-- Whether lines also go to what is outside the program. -/
def propagates (j : Journal) : Bool := j.level.isNone

/-- Set up the sinks anew: the console, and the file if it is asked for.  A verbose journal holds
debugging lines too. -/
def configure (j : Journal) (verbose toFile : Bool) : Journal :=
  { j with
    level := some (if verbose then .debug else .info)
    sinks := if toFile then [.console, .file] else [.console]
    file := if toFile then some (j.file.getD "") else j.file }

/-- Write a line to one sink. -/
def writeTo (l : LogLine) (j : Journal) : Sink → Journal
  | .console => { j with console := j.console ++ l.consoleText }
  | .file => { j with file := some (j.file.getD "" ++ l.fileText) }

/-- Write a line by the rules of the outside: only warnings and worse, the bare message. -/
def writeOutside (j : Journal) (l : LogLine) : Journal :=
  if Level.warning.rank ≤ l.level.rank then
    { j with console := j.console ++ l.message ++ "\n" }
  else j

/-- Write a line. -/
def write (j : Journal) (l : LogLine) : Journal :=
  match isOwnLogger l.logger, j.level with
  | true, some level =>
      if level.rank ≤ l.level.rank then j.sinks.foldl (writeTo l) j else j
  | _, _ => writeOutside j l

/-- Write lines one after the other. -/
def writeAll (j : Journal) (lines : List LogLine) : Journal := lines.foldl write j

end Journal

end NavGraph

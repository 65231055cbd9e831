import NavGraph.CommandLine.Options

/-!
# Commands

The commands that the program understands, and their options.

## Main definitions

* `Command`, `Invocation` - what is to be done
* `programGrammar`, `analyzeGrammar`, `serveGrammar` - what may be said
* `Invocation.parse` - what the words of a command line ask for
-/

namespace NavGraph.CommandLine

/-- What is to be done. -/
inductive Command where
  /-- Analyze a repository and print the result. -/
  | analyze (url : String) (summary noFallback : Bool) (logFile : Option String)
  /-- Offer the web service. -/
  | serve (host : String) (port : Int) (reload : Bool)
  deriving DecidableEq, Repr

/-- A command with the options of the program itself. -/
structure Invocation where
  verbose : Bool
  command : Command
  deriving DecidableEq, Repr

/-- The option that asks for help. -/
def helpOption : OptionSpec := ⟨"help", ["-h", "--help"], .help⟩

/-- The words before a command. -/
def programGrammar : Grammar where
  program := "flowscope"
  options := [helpOption, ⟨"verbose", ["-v", "--verbose"], .flag⟩]
  operand := some (.command "cmd" ["analyze", "serve"])

/-- The words behind `analyze`. -/
def analyzeGrammar : Grammar where
  program := "flowscope analyze"
  options := [helpOption, ⟨"summary", ["--summary"], .flag⟩,
    ⟨"no_fallback", ["--no-fallback"], .flag⟩, ⟨"log_file", ["--log-file"], .text⟩]
  operand := some (.word "url")

/-- The words behind `serve`. -/
def serveGrammar : Grammar where
  program := "flowscope serve"
  options := [helpOption, ⟨"host", ["--host"], .text⟩, ⟨"port", ["--port"], .integer⟩,
    ⟨"reload", ["--reload"], .flag⟩]
  operand := none

/-- A text that is not empty. -/
def nonEmptyText? (text : Option String) : Option String :=
  text.filter (!·.isEmpty)

/-- The command that parsed words ask for. -/
def analyzeCommand (p : Parsed) : Command :=
  .analyze ((p.operand.getD []).headD "") (p.has "summary") (p.has "no_fallback")
    (nonEmptyText? (p.text? "log_file"))

/-- The command that parsed words ask for. -/
def serveCommand (p : Parsed) : Command :=
  .serve ((p.text? "host").getD "127.0.0.1") ((p.integer? "port").getD 8000) (p.has "reload")

/-- A command and the words without a meaning behind it. -/
def commandOf (name : String) (words : List String) : Except Stop (Command × List String) :=
  if name = "serve" then do
    let p ← serveGrammar.parse words
    return (serveCommand p, p.extras)
  else do
    let p ← analyzeGrammar.parse words
    return (analyzeCommand p, p.extras)

/-- What the words of a command line ask for.  Words without a meaning are told last, when
everything else made sense. -/
def Invocation.parse (words : List String) : Except Stop Invocation := do
  let p ← programGrammar.parse words
  let operand := p.operand.getD []
  let (command, extras) ← commandOf (operand.headD "") operand.tail
  match p.extras ++ extras with
  | [] => return ⟨p.has "verbose", command⟩
  | extras =>
      throw (.usage programGrammar.program
        ("unrecognized arguments: " ++ " ".intercalate extras))

end NavGraph.CommandLine

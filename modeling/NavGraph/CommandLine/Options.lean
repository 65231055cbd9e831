import NavGraph.Number.Reading
import NavGraph.Text.Quoted

/-!
# Options

Words of a command line are sorted into options, operands and the rest by a grammar: a list of
options with short and long names, and at most one operand.

## Main definitions

* `OptionSpec`, `Operand`, `Grammar` - what a command understands
* `Word`, `sortWord`, `sortWords` - words by their form
* `Parsed`, `Grammar.parse` - what the words say
* `Stop` - why there is nothing to execute

## Design notes

Words are sorted before any of them is taken.  A long option may be shortened as long as only one
option starts like it; short options may be run together; a value may be attached to its option.
A word behind `--` is no option whatever it looks like.  Values are checked when their option is
taken, so of two mistakes the first is told.
-/

namespace NavGraph.CommandLine

/-- Why there is nothing to execute. -/
inductive Stop where
  /-- The words make no sense to a program or to one of its commands. -/
  | usage (program message : String)
  /-- The words ask for help. -/
  | help
  deriving DecidableEq, Repr

/-- What an option takes. -/
inductive OptionKind where
  | help
  | flag
  | text
  | integer
  deriving DecidableEq, Repr

/-- An option with its names, and the key under which its value is found. -/
structure OptionSpec where
  key : String
  names : List String
  kind : OptionKind
  deriving DecidableEq, Repr

namespace OptionSpec

/-- Whether a value belongs to the option. -/
def takesValue (o : OptionSpec) : Bool :=
  match o.kind with
  | .help | .flag => false
  | .text | .integer => true

/-- How messages name the option. -/
def label (o : OptionSpec) : String := "/".intercalate o.names

end OptionSpec

/-- The operand of a command. -/
inductive Operand where
  /-- One word. -/
  | word (name : String)
  /-- One of several commands, with all words behind it. -/
  | command (name : String) (choices : List String)
  deriving DecidableEq, Repr

/-- The name of an operand in messages. -/
def Operand.name : Operand → String
  | word name => name
  | command name _ => name

/-- What a program or a command of it understands. -/
structure Grammar where
  program : String
  options : List OptionSpec
  operand : Option Operand
  deriving DecidableEq, Repr

/-- The value of an option that was given. -/
inductive Value where
  | present
  | text (s : String)
  | integer (n : Int)
  deriving DecidableEq, Repr

/-- A value attached to an option, behind an equals sign or directly. -/
structure Attached where
  marked : Bool
  text : List Char
  deriving DecidableEq, Repr

/-- A word of a command line by its form. -/
inductive Word where
  /-- No option. -/
  | plain (raw : String)
  /-- The first `--`. -/
  | separator
  /-- An option, known or unknown, under the name that was used. -/
  | option (raw : String) (spec : Option OptionSpec) (name : String) (attached : Option Attached)
  deriving DecidableEq, Repr

/-- The word as it was given. -/
def Word.raw : Word → String
  | plain raw => raw
  | separator => "--"
  | option raw _ _ _ => raw

/-- The separator of options and operands. -/
def separatorText : String := "--"

/-- Names of options in order, each with its option. -/
def namesOf (options : List OptionSpec) : List (String × OptionSpec) :=
  options.flatMap fun o => o.names.map fun name => (name, o)

/-- The option with a name. -/
def named? (options : List OptionSpec) (name : String) : Option OptionSpec :=
  (namesOf options).lookup name

/-- The text before the first equals sign and the text behind it, if there is one. -/
def splitMark (word : List Char) : List Char × Option (List Char) :=
  let head := word.takeWhile (· != '=')
  match word.drop head.length with
  | [] => (head, none)
  | _ :: tail => (head, some tail)

/-- Whether a name is a long one. -/
def isLong (name : List Char) : Bool := ['-', '-'].isPrefixOf name

/-- Options that a word may mean without being the full name of one. -/
def meanings (options : List OptionSpec) (word : List Char) :
    List (String × OptionSpec × Option Attached) :=
  if isLong word then
    let (head, tail) := splitMark word
    ((namesOf options).filter fun n => head.isPrefixOf n.1.toList).map
      fun n => (n.1, n.2, tail.map (⟨true, ·⟩))
  else
    (namesOf options).filterMap fun n =>
      if n.1.toList = word.take 2 then some (n.1, n.2, some ⟨false, word.drop 2⟩)
      else if word.isPrefixOf n.1.toList then some (n.1, n.2, none)
      else none

/-- Whether a text is a minus sign and digits, perhaps with a decimal point. -/
def isNegativeNumber (word : List Char) : Bool :=
  let isDigit (c : Char) : Bool := (Text.digitValue? c).isSome
  match word with
  | '-' :: body =>
      let body := if body.getLast? == some '\n' then body.dropLast else body
      match body.dropWhile isDigit with
      | [] => !body.isEmpty
      | '.' :: fraction => !fraction.isEmpty && fraction.all isDigit
      | _ => false
  | _ => false

/-- Sort a word that starts with a dash and is not just a dash. -/
def sortDashed (g : Grammar) (raw : String) : Except Stop Word :=
  let word := raw.toList
  let (head, tail) := splitMark word
  match named? g.options (String.ofList head), tail with
  | some o, some tail => .ok (.option raw (some o) (String.ofList head) (some ⟨true, tail⟩))
  | _, _ =>
      match meanings g.options word with
      | [(name, o, attached)] => .ok (.option raw (some o) name attached)
      | [] =>
          if isNegativeNumber word || word.contains ' ' then .ok (.plain raw)
          else .ok (.option raw none raw none)
      | several =>
          .error (.usage g.program
            ("ambiguous option: " ++ raw ++ " could match " ++
              ", ".intercalate (several.map (·.1))))

/-- Sort a word before any separator. -/
def sortWord (g : Grammar) (raw : String) : Except Stop Word :=
  if raw.toList.head? != some '-' then .ok (.plain raw)
  else
    match named? g.options raw with
    | some o => .ok (.option raw (some o) raw none)
    | none => if raw.toList.length = 1 then .ok (.plain raw) else sortDashed g raw

/-- Sort the words of a command line. -/
def sortWords (g : Grammar) : List String → Except Stop (List Word)
  | [] => .ok []
  | raw :: rest =>
      if raw = separatorText then .ok (.separator :: rest.map .plain)
      else do
        let w ← sortWord g raw
        return w :: (← sortWords g rest)

/-- What the words taken so far say. -/
structure Parsed where
  /-- Values of options, the latest first. -/
  given : List (String × Value)
  /-- An option that still needs its value. -/
  awaiting : Option OptionSpec
  /-- The words of the operand. -/
  operand : Option (List String)
  /-- Whether the operand was the word just before. -/
  operandEnds : Bool
  /-- Whether a separator waits for an operand. -/
  separated : Bool
  /-- Words without a meaning. -/
  extras : List String
  deriving DecidableEq, Repr

namespace Parsed

/-- Nothing taken yet. -/
def empty : Parsed := ⟨[], none, none, false, false, []⟩

/-- The value of an option. -/
def value? (p : Parsed) (key : String) : Option Value := p.given.lookup key

/-- Whether an option was given. -/
def has (p : Parsed) (key : String) : Bool := (p.value? key).isSome

/-- The text given for an option. -/
def text? (p : Parsed) (key : String) : Option String :=
  match p.value? key with
  | some (.text s) => some s
  | _ => none

/-- The integer given for an option. -/
def integer? (p : Parsed) (key : String) : Option Int :=
  match p.value? key with
  | some (.integer n) => some n
  | _ => none

/-- Add a word without a meaning. -/
def addExtra (p : Parsed) (raw : String) : Parsed := { p with extras := p.extras ++ [raw] }

end Parsed

namespace Grammar

/-- A mistake in the use of an argument. -/
def mistake (g : Grammar) (label message : String) : Stop :=
  .usage g.program ("argument " ++ label ++ ": " ++ message)

/-- Take an option, with its value if it has one. -/
def take (g : Grammar) (p : Parsed) (o : OptionSpec) (value : String) : Except Stop Parsed :=
  match o.kind with
  | .help => .error .help
  | .flag => .ok { p with given := (o.key, .present) :: p.given }
  | .text => .ok { p with given := (o.key, .text value) :: p.given }
  | .integer =>
      match Number.headerInt? value with
      | some n => .ok { p with given := (o.key, .integer n) :: p.given }
      | none =>
          .error (g.mistake o.label ("invalid int value: " ++ Text.quoteOption (some value)))

/-- Take options without values one after the other. -/
def takeFlags (g : Grammar) (p : Parsed) (flags : List OptionSpec) : Except Stop Parsed :=
  flags.foldlM (fun p o => g.take p o "") p

/-- Take an option without anything attached, behind some that it was run together with. -/
def takeBare (g : Grammar) (p : Parsed) (flags : List OptionSpec) (o : OptionSpec) :
    Except Stop Parsed :=
  if o.takesValue then do
    let p ← g.takeFlags p flags
    return { p with awaiting := some o }
  else g.takeFlags p (flags ++ [o])

/-- The mistake of a value attached to an option that takes none. -/
def ignoredValue (g : Grammar) (o : OptionSpec) (text : List Char) : Stop :=
  g.mistake o.label
    ("ignored explicit argument " ++ Text.quoteOption (some (String.ofList text)))

/-- Take an option with a text attached, behind some short options that it was run together with.
What is attached to a short option without a value is a run of further short options. -/
def takeAttached (g : Grammar) (p : Parsed) (flags : List OptionSpec) (o : OptionSpec)
    (isShort marked : Bool) : List Char → Except Stop Parsed
  | [] =>
      if o.takesValue then do g.take (← g.takeFlags p flags) o ""
      else .error (g.ignoredValue o [])
  | c :: tail =>
      if o.takesValue then do g.take (← g.takeFlags p flags) o (String.ofList (c :: tail))
      else if !isShort || marked || c == '-' then .error (g.ignoredValue o (c :: tail))
      else
        match named? g.options (String.ofList ['-', c]) with
        | none => do
            let p ← g.takeFlags p (flags ++ [o])
            return p.addExtra (String.ofList ('-' :: c :: tail))
        | some next =>
            match tail with
            | [] => g.takeBare p (flags ++ [o]) next
            | d :: tail' =>
                if d == '=' then takeAttached g p (flags ++ [o]) next true true tail'
                else takeAttached g p (flags ++ [o]) next true false (d :: tail')

/-- Take a word that is no option, while the operand is not complete or there is none. -/
def takePlain (g : Grammar) (p : Parsed) (raw : String) : Except Stop Parsed :=
  match g.operand, p.operand with
  | some (.word _), none =>
      .ok { p with operand := some [raw], operandEnds := true, separated := false }
  | some (.command name choices), none =>
      let command := if p.separated then separatorText else raw
      if choices.contains command then .ok { p with operand := some [raw] }
      else
        .error (g.mistake name
          ("invalid choice: " ++ Text.quoteOption (some command) ++ " (choose from " ++
            ", ".intercalate (choices.map fun c => Text.quoteOption (some c)) ++ ")"))
  | _, _ => .ok { (p.addExtra raw) with operandEnds := false }

/-- Take a separator. -/
def takeSeparator (g : Grammar) (p : Parsed) : Parsed :=
  if p.operandEnds then { p with operandEnds := false }
  else if g.operand.isSome && p.operand.isNone then { p with separated := true }
  else p.addExtra separatorText

/-- Take an option. -/
def takeOption (g : Grammar) (p : Parsed) (raw : String) (spec : Option OptionSpec)
    (name : String) (attached : Option Attached) : Except Stop Parsed :=
  let p := { p with operandEnds := false }
  match spec, attached with
  | none, _ => .ok (p.addExtra raw)
  | some o, none => g.takeBare p [] o
  | some o, some a => g.takeAttached p [] o (!isLong name.toList) a.marked a.text

/-- The mistake of an option without its value. -/
def missingValue (g : Grammar) (o : OptionSpec) : Stop := g.mistake o.label "expected one argument"

/-- Take a word.  Behind a command all words belong to it. -/
def step (g : Grammar) (p : Parsed) (w : Word) : Except Stop Parsed :=
  match g.operand, p.operand, p.awaiting, w with
  | some (.command _ _), some words, _, w => .ok { p with operand := some (words ++ [w.raw]) }
  | _, _, some o, .plain raw => g.take { p with awaiting := none } o raw
  | _, _, some o, _ => .error (g.missingValue o)
  | _, _, none, .plain raw => g.takePlain p raw
  | _, _, none, .separator => .ok (g.takeSeparator p)
  | _, _, none, .option raw spec name attached => g.takeOption p raw spec name attached

/-- Nothing may be missing at the end. -/
def finish (g : Grammar) (p : Parsed) : Except Stop Parsed :=
  match p.awaiting with
  | some o => .error (g.missingValue o)
  | none =>
      match g.operand, p.operand with
      | some operand, none =>
          .error (.usage g.program
            ("the following arguments are required: " ++ operand.name))
      | _, _ => .ok p

/-- What the words of a command line say. -/
def parse (g : Grammar) (words : List String) : Except Stop Parsed := do
  let sorted ← sortWords g words
  g.finish (← sorted.foldlM g.step .empty)

end Grammar

end NavGraph.CommandLine

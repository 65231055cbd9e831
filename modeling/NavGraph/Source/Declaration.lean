import NavGraph.Pattern.Search

/-!
# Declarations

Exports of a source file that return markup: functions, and constants that hold an arrow function.

## Main definitions

* `declarationPattern` - the textual form of such an export
* `Declaration` - an export with its place among those of the file
* `declarations` - the exports of a text
-/

namespace NavGraph.Source

open Pattern

/-- A return type, up to a character that cannot belong to it. -/
def typeAnnotation (stop : String) : Pattern :=
  .optional (.sequence [.single ':', .blanks, .oneOrMore (noneOf stop)])

/-- A parameter list. -/
def parameterList : Pattern :=
  .sequence [.single '(', .many (noneOf ")"), .single ')']

/-- Type parameters. -/
def typeParameters : Pattern :=
  .optional (.sequence [.single '<', .many (noneOf ">"), .single '>'])

/-- The head of an exported function up to its parameters.  Slot 1 holds the name. -/
def functionHead : Pattern :=
  .sequence [.optional (.seq (.literal "async") .someBlanks), .literal "function", .someBlanks,
    .capture 1 (.oneOrMore Text.isWord), .blanks, typeParameters, .blanks, parameterList]

/-- The head of an exported arrow function up to its arrow.  Slot 2 holds the name. -/
def arrowHead : Pattern :=
  .sequence [.words ["const", "let"], .someBlanks, .capture 2 (.oneOrMore Text.isWord), .blanks,
    typeAnnotation "=", .single '=', .blanks, .optional (.seq (.literal "async") .blanks),
    .alt parameterList (.oneOrMore Text.isWord), .blanks, typeAnnotation "=", .literal "=>"]

/-- The body of a function up to the end of the first tag that it returns. -/
def returnedMarkup : Pattern :=
  .sequence [.char (· == Char.ofNat 0x7b), .few fun _ => true, .literal "return", .blanks,
    .optional (.single '('), .blanks, .single '<', .few fun _ => true, .single '>']

/-- An export that returns markup. -/
def declarationPattern : Pattern :=
  .sequence [.literal "export", .someBlanks,
    .optional (.seq (.literal "default") .someBlanks), .alt functionHead arrowHead, .blanks,
    .optional (.sequence [.single ':', .blanks, .oneOrMore (· != Char.ofNat 0x7b)]), .blanks,
    returnedMarkup]

/-- An export that returns markup, and how many such exports come before it in its file. -/
structure Declaration where
  name : String
  index : Nat
  deriving DecidableEq, Repr

/-- Names of the exports that return markup, in the order of the text. -/
def declaredNames (text : String) : List String :=
  (declarationPattern.findAll text.toList).filterMap fun m =>
    match m.text? 1 with
    | some name => some name
    | none => m.text? 2

/-- Exports of a text that return markup. -/
def declarations (text : String) : List Declaration :=
  (declaredNames text).mapIdx fun i name => ⟨name, i⟩

end NavGraph.Source

import NavGraph.Json.Lexeme

/-!
# Reading JSON

The second half of reading: lexemes become a value.  The reader keeps a stack of the arrays and
objects that are still open, and one look at the next lexeme says what it does to the stack.

## Main definitions

* `Frame` - an array or object that is still open
* `Reader` - the state between two lexemes
* `Json.parse?` - the value that a text writes
* `Json.nestsBeyond` - whether a text nests arrays and objects more deeply than a reader follows

## Design notes

A reader that follows arrays and objects only so far gives up where it would have to open one more,
before it sees what comes behind.  So a text that nests too deeply is told from the lexemes in front
of the first mistake, and it may have a mistake later on.
-/

namespace NavGraph.Json

/-- An array or an object that is still open, with what it holds so far. -/
inductive Frame where
  /-- An array; its items in reverse. -/
  | array (items : List Json)
  /-- An object, and the field whose value is being read. -/
  | object (fields : List (String × Json)) (name : String)

/-- What may come next. -/
inductive Expect where
  /-- A value. -/
  | value
  /-- The first item of an array, or its end. -/
  | firstItem
  /-- The first field name of an object, or its end; the object has no fields. -/
  | firstName
  /-- A further field name of an object with the given fields. -/
  | name (fields : List (String × Json))
  /-- The colon behind a field name. -/
  | colon
  /-- What follows a value: a comma or the end of the innermost open frame. -/
  | separator (v : Json)

/-- The reader between two lexemes. -/
structure Reader where
  stack : List Frame
  expect : Expect

/-- The value of a bare word. -/
def wordValue? (w : List Char) : Option Json :=
  match String.ofList w with
  | "null" => some null
  | "true" => some (bool true)
  | "false" => some (bool false)
  | "NaN" => some (float (0.0 / 0.0))
  | "Infinity" => some (float (1.0 / 0.0))
  | "-Infinity" => some (float (-(1.0 / 0.0)))
  | _ => (Number.literal? w).map fun
      | .int n => int n
      | .float d => float d.toFloat

/-- Read the first lexeme of a value. -/
def Reader.beginValue (stack : List Frame) : Lexeme → Option Reader
  | .string s => some ⟨stack, .separator (Json.string s)⟩
  | .word w => (wordValue? w).map fun v => ⟨stack, .separator v⟩
  | .mark .openArray => some ⟨.array [] :: stack, .firstItem⟩
  | .mark .openObject => some ⟨stack, .firstName⟩
  | .mark _ => none

/-- Read one lexeme. -/
def Reader.step (r : Reader) (l : Lexeme) : Option Reader :=
  match r.expect, r.stack, l with
  | .value, stack, l => beginValue stack l
  | .firstItem, .array items :: stack, .mark .closeArray =>
      some ⟨stack, .separator (Json.array items.reverse)⟩
  | .firstItem, stack, l => beginValue stack l
  | .firstName, stack, .mark .closeObject => some ⟨stack, .separator (Json.object [])⟩
  | .firstName, stack, .string s => some ⟨.object [] s :: stack, .colon⟩
  | .name fields, stack, .string s => some ⟨.object fields s :: stack, .colon⟩
  | .colon, stack, .mark .colon => some ⟨stack, .value⟩
  | .separator v, .array items :: stack, .mark .comma => some ⟨.array (v :: items) :: stack, .value⟩
  | .separator v, .array items :: stack, .mark .closeArray =>
      some ⟨stack, .separator (Json.array (v :: items).reverse)⟩
  | .separator v, .object fields name :: stack, .mark .comma =>
      some ⟨stack, .name (Assoc.put name v fields)⟩
  | .separator v, .object fields name :: stack, .mark .closeObject =>
      some ⟨stack, .separator (Json.object (Assoc.put name v fields))⟩
  | _, _, _ => none

/-- Read lexemes one after the other. -/
def Reader.run (r : Reader) : List Lexeme → Option Reader
  | [] => some r
  | l :: rest => (r.step l).bind fun next => run next rest

/-- The value that a list of lexemes writes. -/
def ofLexemes? (ls : List Lexeme) : Option Json :=
  match Reader.run ⟨[], .value⟩ ls with
  | some ⟨[], .separator v⟩ => some v
  | _ => none

/-- The value that a text writes. -/
def parse? (text : List Char) : Option Json := (lexemes? text).bind ofLexemes?

/-- Opening brackets and braces. -/
def Lexeme.isOpening (l : Lexeme) : Bool := l == .mark .openArray || l == .mark .openObject

/-- Whether a lexeme opens an array or an object where a value may come. -/
def Reader.opens (r : Reader) (l : Lexeme) : Bool :=
  match r.expect with
  | .value | .firstItem => l.isOpening
  | _ => false

/-- Whether reading lexemes comes to an array or an object to open while so many are open. -/
def Reader.nestsBeyond (limit : Nat) (r : Reader) : List Lexeme → Bool
  | [] => false
  | l :: rest =>
      (r.opens l && decide (limit ≤ r.stack.length)) ||
        (r.step l).any fun next => nestsBeyond limit next rest

/-- Whether a text nests arrays and objects more deeply than a reader follows them. -/
def nestsBeyond (limit : Nat) (text : List Char) : Bool :=
  Reader.nestsBeyond limit ⟨[], .value⟩ (lexemesBefore .between text)

end NavGraph.Json

import NavGraph.Json.Basic
import NavGraph.Number.Reading
import NavGraph.Text.Quoted
import NavGraph.Text.Utf8

/-!
# Lexemes of JSON

The first half of reading: a text becomes a list of marks, strings and bare words.  The scanner
is a machine that takes one character at a time, so that it ends with the text.

## Main definitions

* `Lexeme` - marks, strings and bare words
* `Scan` - what the scanner is in the middle of
* `lexemes?` - all lexemes of a text
* `lexemesBefore` - the lexemes in front of the first mistake

## Design notes

A bare word is the longest run of characters that numbers and names are made of.  Whether it is
a value is decided afterwards: wherever a shorter run would be a value, the rest of the run could
not follow it.
-/

namespace NavGraph.Json

/-- The structural characters. -/
inductive Mark where
  | openArray
  | closeArray
  | openObject
  | closeObject
  | colon
  | comma
  deriving DecidableEq, Repr

/-- A lexeme. -/
inductive Lexeme where
  | mark (m : Mark)
  | string (s : String)
  | word (w : List Char)
  deriving DecidableEq, Repr

/-- The mark that a character is. -/
def mark? (c : Char) : Option Mark :=
  match c.toNat with
  | 0x5b => some .openArray
  | 0x5d => some .closeArray
  | 0x7b => some .openObject
  | 0x7d => some .closeObject
  | 0x3a => some .colon
  | 0x2c => some .comma
  | _ => none

/-- The blanks of the format. -/
def isSpace (c : Char) : Bool := c == ' ' || c == '\t' || c == '\n' || c == '\r'

/-- Characters of numbers and names. -/
def isWordChar (c : Char) : Bool := c.isAlphanum || c == '-' || c == '+' || c == '.'

/-- The value of a hexadecimal digit. -/
def hexValue? (c : Char) : Option Nat :=
  let n := c.toNat
  if 48 ≤ n ∧ n ≤ 57 then some (n - 48)
  else if 97 ≤ n ∧ n ≤ 102 then some (n - 87)
  else if 65 ≤ n ∧ n ≤ 70 then some (n - 55)
  else none

/-- The character that an escape of one letter stands for. -/
def escape? (c : Char) : Option Char :=
  if c = Text.doubleQuote ∨ c = Text.backslash ∨ c = '/' then some c
  else match c with
    | 'b' => some (Char.ofNat 8)
    | 'f' => some (Char.ofNat 12)
    | 'n' => some '\n'
    | 'r' => some '\r'
    | 't' => some '\t'
    | _ => none

/-- Characters of a string in reverse, with a high surrogate that waits for its partner. -/
structure StringSoFar where
  chars : List Char
  high : Option Nat
  deriving DecidableEq, Repr

namespace StringSoFar

/-- A waiting surrogate has no partner any more. -/
def settled (s : StringSoFar) : List Char :=
  match s.high with
  | none => s.chars
  | some _ => Text.replacementChar :: s.chars

/-- Add a character. -/
def push (s : StringSoFar) (c : Char) : StringSoFar := ⟨c :: s.settled, none⟩

/-- Add a code unit: half of a pair, or a character by itself. -/
def pushUnit (s : StringSoFar) (n : Nat) : StringSoFar :=
  if 0xd800 ≤ n ∧ n ≤ 0xdbff then ⟨s.settled, some n⟩
  else if 0xdc00 ≤ n ∧ n ≤ 0xdfff then
    match s.high with
    | some h => ⟨Char.ofNat (0x10000 + (h - 0xd800) * 0x400 + (n - 0xdc00)) :: s.chars, none⟩
    | none => ⟨Text.replacementChar :: s.chars, none⟩
  else s.push (Char.ofNat n)

/-- The finished string. -/
def finish (s : StringSoFar) : String := String.ofList s.settled.reverse

end StringSoFar

/-- What the scanner is in the middle of. -/
inductive Scan where
  /-- Between lexemes. -/
  | between
  /-- In a bare word; its characters in reverse. -/
  | word (chars : List Char)
  /-- In a string. -/
  | string (s : StringSoFar)
  /-- Behind a backslash in a string. -/
  | escape (s : StringSoFar)
  /-- In a code unit of a string, with some digits still to come. -/
  | unit (s : StringSoFar) (missing value : Nat)
  deriving DecidableEq, Repr

/-- Scan one character between lexemes. -/
def scanBetween (c : Char) : Option (Scan × List Lexeme) :=
  if isSpace c then some (.between, [])
  else if c = Text.doubleQuote then some (.string ⟨[], none⟩, [])
  else if isWordChar c then some (.word [c], [])
  else (mark? c).map fun m => (.between, [.mark m])

/-- Scan one character: the next state and the lexemes that it completes. -/
def scanChar (state : Scan) (c : Char) : Option (Scan × List Lexeme) :=
  match state with
  | .between => scanBetween c
  | .word chars =>
      if isWordChar c then some (.word (c :: chars), [])
      else (scanBetween c).map fun (next, done) => (next, .word chars.reverse :: done)
  | .string s =>
      if c = Text.doubleQuote then some (.between, [.string s.finish])
      else if c = Text.backslash then some (.escape s, [])
      else if c.toNat < 32 then none
      else some (.string (s.push c), [])
  | .escape s =>
      if c = 'u' then some (.unit s 4 0, [])
      else (escape? c).map fun d => (.string (s.push d), [])
  | .unit s missing value =>
      (hexValue? c).map fun d =>
        let value := value * 16 + d
        if missing ≤ 1 then (.string (s.pushUnit value), []) else (.unit s (missing - 1) value, [])

/-- Lexemes of the rest of a text. -/
def lexemesFrom (state : Scan) : List Char → Option (List Lexeme)
  | [] =>
      match state with
      | .between => some []
      | .word chars => some [.word chars.reverse]
      | _ => none
  | c :: rest =>
      match scanChar state c with
      | some (next, done) => (lexemesFrom next rest).map (done ++ ·)
      | none => none

/-- All lexemes of a text. -/
def lexemes? (text : List Char) : Option (List Lexeme) := lexemesFrom .between text

/-- Lexemes of the rest of a text that are complete before the first character that cannot come
next. -/
def lexemesBefore (state : Scan) : List Char → List Lexeme
  | [] => []
  | c :: rest =>
      match scanChar state c with
      | some (next, done) => done ++ lexemesBefore next rest
      | none => []

end NavGraph.Json

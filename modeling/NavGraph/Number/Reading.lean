import NavGraph.Text.Digit
import NavGraph.Text.Trim

/-!
# Reading numbers

Three readers of numbers, from strict to permissive: the literals of a data format, integers and
floats in a setting, and the integer of a header.  All of them read characters into exact
integers first; a float is rounded once, at the end.

## Main definitions

* `Decimal`, `Decimal.toFloat` - an exact decimal and the float nearest to it
* `numeral?` - digits with single underscores between them
* `headerInt?` - integers as headers write them, digits of any script included
* `settingInt?`, `settingFloat?` - integers and floats as settings write them
* `literal?` - number literals of the data format
-/

namespace NavGraph.Number

/-- The exact decimal `mantissa * 10 ^ exponent` with a sign. -/
structure Decimal where
  negative : Bool
  mantissa : Nat
  exponent : Int
  deriving DecidableEq, Repr

/-- The float nearest to a decimal.  Decimals beyond all floats are infinite and those below all
floats zero; asking for the number of digits first keeps powers of ten small. -/
def Decimal.toFloat (d : Decimal) : Float :=
  let point := Int.ofNat (Text.digitsOfNat d.mantissa).length + d.exponent
  let magnitude : Float :=
    if d.mantissa = 0 ∨ point < -330 then 0.0
    else if 310 < point then 1.0 / 0.0
    else Float.ofScientific d.mantissa (d.exponent < 0) d.exponent.natAbs
  if d.negative then -magnitude else magnitude

/-- The float nearest to an integer. -/
def floatOfInt (n : Int) : Float := Decimal.toFloat ⟨n < 0, n.natAbs, 0⟩

/-- Digit values of a run of digits in which single underscores may stand between two digits.
`afterDigit` tells that a digit came directly before. -/
def digitRun? (value? : Char → Option Nat) (afterDigit : Bool) : List Char → Option (List Nat)
  | [] => if afterDigit then some [] else none
  | c :: rest =>
      match value? c with
      | some d => (digitRun? value? true rest).map (d :: ·)
      | none => if c == '_' && afterDigit then digitRun? value? false rest else none

/-- A sign and what follows it. -/
def splitSign : List Char → Bool × List Char
  | '-' :: rest => (true, rest)
  | '+' :: rest => (false, rest)
  | text => (false, text)

/-- An integer from its sign and its digit values. -/
def signedInt (negative : Bool) (digits : List Nat) : Int :=
  let n := Int.ofNat (Text.natOfDigits 0 digits)
  if negative then -n else n

/-- The most digits that an integer may be written with. -/
def maxDigits : Nat := 4300

/-- Integers as a header writes them: blanks around, a sign, digits of any script, single
underscores between digits. -/
def headerInt? (text : String) : Option Int :=
  let (negative, body) := splitSign (Text.trimWhile Text.isWhiteSpaceProperty text.toList)
  match digitRun? Text.digitValue? false body with
  | some digits => if digits.length ≤ maxDigits then some (signedInt negative digits) else none
  | none => none

/-- A text without the fraction `.000…` at its end, if it has one. -/
def dropZeroFraction (text : List Char) : List Char :=
  let whole := text.takeWhile (· != '.')
  match text.drop whole.length with
  | [] => text
  | _ :: fraction => if fraction.all (· == '0') then whole else text

/-- Integers as a setting writes them: blanks around, a sign, ASCII digits, single underscores
between digits, a fraction of zeros. -/
def settingInt? (text : String) : Option Int :=
  let trimmed := Text.trimWhile Text.isWhiteSpaceProperty text.toList
  if maxDigits < trimmed.length then none
  else
    let (negative, body) := splitSign (dropZeroFraction trimmed)
    (digitRun? Text.asciiDigit? false body).map (signedInt negative)

/-- The digit values that a text starts with, and the rest. -/
def spanDigits : List Char → List Nat × List Char
  | [] => ([], [])
  | c :: rest =>
      match Text.asciiDigit? c with
      | some d => let (ds, rest') := spanDigits rest; (d :: ds, rest')
      | none => ([], c :: rest)

/-- An exponent behind its letter, which must take the whole text. -/
def exponent? : List Char → Option Int
  | [] => some 0
  | c :: rest =>
      if c == 'e' || c == 'E' then
        let (negative, body) := splitSign rest
        match spanDigits body with
        | (d :: ds, []) => some (signedInt negative (d :: ds))
        | _ => none
      else none

/-- Digits with an optional point and an optional exponent; there is a digit before or behind the
point. -/
def unsignedDecimal? (negative : Bool) (text : List Char) : Option Decimal :=
  let (whole, rest) := spanDigits text
  let (fraction, rest) := match rest with
    | '.' :: rest => spanDigits rest
    | rest => ([], rest)
  if whole.isEmpty && fraction.isEmpty then none
  else
    (exponent? rest).map fun e =>
      ⟨negative, Text.natOfDigits 0 (whole ++ fraction), e - Int.ofNat fraction.length⟩

/-- A text without the single underscores in it; no underscore may stand at an end or next to
another. -/
def dropUnderscores? (text : List Char) : Option (List Char) :=
  if text.head? == some '_' || text.getLast? == some '_' ||
      (text.zip (text.drop 1)).contains ('_', '_') then none
  else some (text.filter (· != '_'))

/-- Floats without underscores: a decimal, an infinity or no number, in any letter case. -/
def plainFloat? (text : List Char) : Option Float :=
  let (negative, body) := splitSign text
  let lowered := String.ofList (body.map Char.toLower)
  if lowered = "inf" ∨ lowered = "infinity" then
    some (if negative then -(1.0 / 0.0) else 1.0 / 0.0)
  else if lowered = "nan" then some (0.0 / 0.0)
  else (unsignedDecimal? negative body).map Decimal.toFloat

/-- Floats as a setting writes them: blanks around, a sign, digits, a point, an exponent, single
underscores, or the name of an infinity or of no number. -/
def settingFloat? (text : String) : Option Float :=
  let trimmed := Text.trimWhile Text.isWhiteSpaceProperty text.toList
  match plainFloat? trimmed with
  | some x => some x
  | none => (dropUnderscores? trimmed).bind plainFloat?

/-- A number literal of the data format. -/
inductive Literal where
  | int (n : Int)
  | float (d : Decimal)
  deriving DecidableEq, Repr

/-- Number literals of the data format: a minus sign, digits without a leading zero, a fraction,
an exponent.  Without the last two the literal is an integer. -/
def literal? (text : List Char) : Option Literal :=
  let (negative, body) := match text with
    | '-' :: rest => (true, rest)
    | rest => (false, rest)
  let (whole, rest) := spanDigits body
  let leads := match whole with
    | [] => false
    | [_] => true
    | d :: _ => d != 0
  if !leads then none
  else
    match rest with
    | [] =>
        if whole.length ≤ maxDigits then some (.int (signedInt negative whole)) else none
    | '.' :: tail =>
        match spanDigits tail with
        | ([], _) => none
        | (fraction, rest) =>
            (exponent? rest).map fun e =>
              .float ⟨negative, Text.natOfDigits 0 (whole ++ fraction),
                e - Int.ofNat fraction.length⟩
    | rest =>
        (exponent? rest).map fun e => .float ⟨negative, Text.natOfDigits 0 whole, e⟩

end NavGraph.Number

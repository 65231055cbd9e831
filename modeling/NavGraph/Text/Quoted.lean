import NavGraph.Text.Digit
import NavGraph.Text.UnprintableIntervals

/-!
# Quoted texts

How a message shows a text that it talks about: between quotes, with escapes for the backslash,
for the quote and for characters without a printed form, so that the text can be read off it.

## Main definitions

* `isPrintable` - characters that are shown as themselves
* `quote` - the quoted form of a text
-/

namespace NavGraph.Text

/-- The single quote. -/
def singleQuote : Char := Char.ofNat 39

/-- The double quote. -/
def doubleQuote : Char := Char.ofNat 34

/-- The backslash. -/
def backslash : Char := Char.ofNat 92

/-- Characters that a quoted text shows as themselves; of the blanks, only the space. -/
def isPrintable (c : Char) : Bool :=
  let n := c.toNat
  if n < 128 then 32 ≤ n && n < 127 else !unprintableIntervals.contains n

/-- One character of a quoted text. -/
def quoteChar (mark c : Char) : List Char :=
  let n := c.toNat
  if c = backslash ∨ c = mark then [backslash, c]
  else if n = 9 then [backslash, 't']
  else if n = 10 then [backslash, 'n']
  else if n = 13 then [backslash, 'r']
  else if isPrintable c then [c]
  else if n < 0x100 then [backslash, 'x'] ++ hexDigits 2 n
  else if n < 0x10000 then [backslash, 'u'] ++ hexDigits 4 n
  else [backslash, 'U'] ++ hexDigits 8 n

/-- The mark around a quoted text: a double quote for a text that has single quotes and no double
ones, else a single quote. -/
def quoteMark (text : List Char) : Char :=
  if text.contains singleQuote && !text.contains doubleQuote then doubleQuote else singleQuote

/-- The quoted form of a text. -/
def quote (text : List Char) : List Char :=
  let mark := quoteMark text
  mark :: text.flatMap (quoteChar mark) ++ [mark]

/-- The quoted form of a text that may be absent, which is shown as `None`. -/
def quoteOption : Option String → String
  | none => "None"
  | some text => String.ofList (quote text.toList)

end NavGraph.Text

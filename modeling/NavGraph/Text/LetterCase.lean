import NavGraph.Text.CaseIntervals

/-!
# Lower case

Full lower-casing of a text.  Two characters need more than a table: the dotted capital I has an
image of two characters, and a capital sigma becomes a final sigma after a cased character that
ends a word.

## Main definitions

* `lower` - lower-case form of a text
* `foldAscii` - the letter that a pattern which ignores case compares
-/

namespace NavGraph.Text

/-- Lower-case image of one code point from 128 on, looked up in the runs. -/
def lowerBeyondAscii (n : Nat) : List CaseRun → Nat
  | [] => n
  | run :: rest =>
      if run.first ≤ n ∧ n ≤ run.last ∧ (n - run.first) % run.step = 0 then
        (Int.ofNat n + run.shift).toNat
      else lowerBeyondAscii n rest

/-- Lower-case image of a character by itself. -/
def lowerChar (c : Char) : Char :=
  if c.toNat < 128 then c.toLower else Char.ofNat (lowerBeyondAscii c.toNat lowerRuns)

/-- Whether a character is cased and not case-ignorable. -/
def isCased (c : Char) : Bool :=
  if c.toNat < 128 then c.isAlpha else casedIntervals.contains c.toNat

/-- Whether the rule for a final sigma looks through a character. -/
def isCaseIgnorable (c : Char) : Bool :=
  let n := c.toNat
  if n < 128 then n == 39 || n == 46 || n == 58 || n == 94 || n == 96
  else caseIgnorableIntervals.contains n

/-- Whether the first character of a text that is not case-ignorable is cased. -/
def startsCased (text : List Char) : Bool :=
  match text.dropWhile isCaseIgnorable with
  | [] => false
  | c :: _ => isCased c

/-- Capital sigma. -/
def capitalSigma : Char := Char.ofNat 0x3a3

/-- Lower-case form of the rest of a text; `afterCased` tells that the last character before it
that is not case-ignorable is cased. -/
def lowerFrom (afterCased : Bool) : List Char → List Char
  | [] => []
  | c :: rest =>
      let image :=
        if c = capitalSigma then
          [Char.ofNat (if afterCased && !startsCased rest then 0x3c2 else 0x3c3)]
        else if c.toNat = 0x130 then ['i', Char.ofNat 0x307]
        else [lowerChar c]
      image ++ lowerFrom (if isCaseIgnorable c then afterCased else isCased c) rest

/-- Lower-case form of a text. -/
def lower (text : List Char) : List Char := lowerFrom false text

/-- Lower-case form of a string. -/
def lowerString (text : String) : String := String.ofList (lower text.toList)

/-- The ASCII letter that a pattern which ignores case takes a character for: its lower-case
form, and besides the long s, the Kelvin sign and the dotless and the dotted capital I, which
fold to ASCII letters. -/
def foldAscii (c : Char) : Char :=
  let n := c.toNat
  if n < 128 then c.toLower
  else if n == 0x17f then 's'
  else if n == 0x212a then 'k'
  else if n == 0x131 || n == 0x130 then 'i'
  else c

@[simp] theorem lower_nil : lower [] = [] := rfl

end NavGraph.Text

import NavGraph.Text.WordIntervals

/-!
# Character classes

The classes that trimming, patterns and line counts are written in.  Each is a decidable test on
one character; below code point 128 it is spelled out, above it is a table of the standard.

## Main definitions

* `isBlank` - white space, the separators of the ASCII control range included
* `isWord` - letters, digits, other numeric characters and the underscore
* `isLineBreak` - characters that end a line
-/

namespace NavGraph.Text

/-- White space: what trimming removes and what a pattern calls a space. -/
def isBlank (c : Char) : Bool :=
  let n := c.toNat
  (9 ≤ n && n ≤ 13) || (28 ≤ n && n ≤ 32) || n == 0x85 || n == 0xa0 || n == 0x1680 ||
    (0x2000 ≤ n && n ≤ 0x200a) || n == 0x2028 || n == 0x2029 || n == 0x202f || n == 0x205f ||
    n == 0x3000

/-- Whether a character has the *White_Space* property.  The four separators `0x1c` to `0x1f`
are blank but do not have it. -/
def isWhiteSpaceProperty (c : Char) : Bool :=
  isBlank c && !(28 ≤ c.toNat && c.toNat ≤ 31)

/-- Word characters: letters, digits and other numeric characters of any script, and the
underscore. -/
def isWord (c : Char) : Bool :=
  c.isAlphanum || c == '_' || (128 ≤ c.toNat && wordIntervals.contains c.toNat)

/-- Characters that end a line.  A carriage return directly before a line feed ends the line
together with it, which `lineCount` accounts for. -/
def isLineBreak (c : Char) : Bool :=
  let n := c.toNat
  (10 ≤ n && n ≤ 13) || (28 ≤ n && n ≤ 30) || n == 0x85 || n == 0x2028 || n == 0x2029

end NavGraph.Text

import NavGraph.Text.Class
import NavGraph.Text.LetterCase

/-!
# Patterns

A small language of text patterns in which only single characters are repeated.  Every signal
that the analysis reads off a source text is such a pattern, and the restriction pays twice:
matching is structural recursion, and a pattern's meaning needs no fixed point.

## Main definitions

* `Pattern` - the language
* `Pattern.literal`, `Pattern.anyOf`, `Pattern.optional`, … - the usual combinations

## Design notes

A character class is a Boolean test, so that the classes of `NavGraph.Text` are patterns as they
stand.  Alternatives and repetitions are **ordered**: they say which way of matching is tried
first, and that way wins whenever the rest of the pattern can follow it.
-/

namespace NavGraph

/-- A text pattern. -/
inductive Pattern where
  /-- Matches nothing, successfully. -/
  | empty
  /-- One character of a class. -/
  | char (ok : Char → Bool)
  /-- One pattern after the other. -/
  | seq (first second : Pattern)
  /-- The first pattern, or else the second. -/
  | alt (first second : Pattern)
  /-- Characters of a class, the longest run first. -/
  | many (ok : Char → Bool)
  /-- Characters of a class, the shortest run first. -/
  | few (ok : Char → Bool)
  /-- A pattern whose text is remembered in a numbered slot. -/
  | capture (slot : Nat) (body : Pattern)
  /-- The start of the text. -/
  | textStart
  /-- The end of the text, or the place before a line feed that ends it. -/
  | textEnd
  /-- A place with a word character on one side only. -/
  | wordEdge
  /-- A place that no character of a class stands directly before. -/
  | notAfter (ok : Char → Bool)

namespace Pattern

/-- Patterns one after the other. -/
def sequence : List Pattern → Pattern
  | [] => empty
  | [p] => p
  | p :: rest => seq p (sequence rest)

/-- The first of several patterns that can be followed. -/
def anyOf : List Pattern → Pattern
  | [] => char fun _ => false
  | [p] => p
  | p :: rest => alt p (anyOf rest)

/-- A pattern or nothing; the pattern is tried first. -/
def optional (p : Pattern) : Pattern := alt p empty

/-- At least one character of a class, the longest run first. -/
def oneOrMore (ok : Char → Bool) : Pattern := seq (char ok) (many ok)

/-- One given character. -/
def single (c : Char) : Pattern := char (· == c)

/-- A text, character by character. -/
def literal (text : String) : Pattern := sequence (text.toList.map single)

/-- A lower-case text in any letter case. -/
def anyCase (text : String) : Pattern :=
  sequence (text.toList.map fun c => char fun d => Text.foldAscii d == c)

/-- One of several texts. -/
def words (texts : List String) : Pattern := anyOf (texts.map literal)

/-- One of several lower-case texts in any letter case. -/
def wordsAnyCase (texts : List String) : Pattern := anyOf (texts.map anyCase)

/-- One character of a list. -/
def oneOf (chars : String) : Pattern := char fun c => chars.toList.contains c

/-- One character of a list of lower-case characters, in any letter case. -/
def oneOfAnyCase (chars : String) : Pattern :=
  char fun c => chars.toList.contains (Text.foldAscii c)

/-- Any number of blanks, all there are first. -/
def blanks : Pattern := many Text.isBlank

/-- At least one blank. -/
def someBlanks : Pattern := oneOrMore Text.isBlank

/-- Every character but the listed ones. -/
def noneOf (chars : String) (c : Char) : Bool := !chars.toList.contains c

end Pattern

end NavGraph

import NavGraph.Pattern.Match

/-!
# Searching a text

The matches of a pattern in a text: leftmost first, and the next one is looked for behind the end
of the one before.

## Main definitions

* `Match` - where a match starts and ends, and what it remembers
* `Pattern.findAll` - all matches that do not overlap, from left to right
* `Pattern.occursIn` - whether there is a match
* `Pattern.pieces` - a text cut into its matches and the texts between them
* `Pattern.replaceAll` - the text with a replacement for each match
-/

namespace NavGraph

/-- A match of a pattern in a text. -/
structure Match where
  start : Nat
  stop : Nat
  captures : Captures
  deriving DecidableEq, Repr, Inhabited

namespace Match

/-- The text remembered in a slot. -/
def text? (m : Match) (slot : Nat) : Option String := m.captures.text? slot

/-- The text remembered in a slot, or no text. -/
def text (m : Match) (slot : Nat) : String := (m.text? slot).getD ""

/-- The position at which the text remembered in a slot starts. -/
def position? (m : Match) (slot : Nat) : Option Nat := (m.captures.get? slot).map (·.start)

end Match

/-- A piece of a text that was searched. -/
inductive Piece where
  /-- Text between two matches. -/
  | plain (text : List Char)
  /-- A match. -/
  | found (m : Match)
  deriving Repr

namespace Pattern

/-- The match at a place, if there is one. -/
def at? (pattern : Pattern) (p : Place) : Option Match :=
  (pattern.matchAt p).map fun w => ⟨p.position, w.1.position, w.2⟩

/-- The matches from a place on that start at position `from` or later; `from` is the end of the
last match.  A match of no characters moves the search on by one. -/
def findAllFrom (pattern : Pattern) (before : Option Char) (position start : Nat) :
    List Char → List Match
  | [] =>
      if start ≤ position then (pattern.at? ⟨before, position, []⟩).toList else []
  | c :: rest =>
      if start ≤ position then
        match pattern.at? ⟨before, position, c :: rest⟩ with
        | some m =>
            m :: findAllFrom pattern (some c) (position + 1)
              (max m.stop (position + 1)) rest
        | none => findAllFrom pattern (some c) (position + 1) start rest
      else findAllFrom pattern (some c) (position + 1) start rest

/-- All matches in a text, from left to right, that do not overlap. -/
def findAll (pattern : Pattern) (text : List Char) : List Match :=
  findAllFrom pattern none 0 0 text

/-- The first match from a place on. -/
def findFrom? (pattern : Pattern) (before : Option Char) (position : Nat) :
    List Char → Option Match
  | [] => pattern.at? ⟨before, position, []⟩
  | c :: rest =>
      match pattern.at? ⟨before, position, c :: rest⟩ with
      | some m => some m
      | none => findFrom? pattern (some c) (position + 1) rest

/-- The first match in a text. -/
def find? (pattern : Pattern) (text : List Char) : Option Match :=
  findFrom? pattern none 0 text

/-- Whether a text has a match. -/
def occursIn (pattern : Pattern) (text : List Char) : Bool := (find? pattern text).isSome

/-- How many matches a text has. -/
def count (pattern : Pattern) (text : List Char) : Nat := (findAll pattern text).length

/-- Cut the text from a position on at matches that lie in it. -/
def piecesFrom (position : Nat) (text : List Char) : List Match → List Piece
  | [] => [.plain text]
  | m :: later =>
      .plain (text.take (m.start - position)) :: .found m ::
        piecesFrom m.stop (text.drop (m.stop - position)) later

/-- A text cut into its matches and the texts between them. -/
def pieces (pattern : Pattern) (text : List Char) : List Piece :=
  piecesFrom 0 text (findAll pattern text)

/-- A text with a replacement for each match. -/
def replaceAll (pattern : Pattern) (replacement : List Char) (text : List Char) : List Char :=
  (pieces pattern text).flatMap fun
    | .plain kept => kept
    | .found _ => replacement

end Pattern

end NavGraph

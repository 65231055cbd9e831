import NavGraph.Text.Class

/-!
# Trimming and splitting

List operations on texts that paths, addresses and link targets are taken apart with.

## Main definitions

* `trimEndWhile`, `trim` - drop characters at one end or blanks at both
* `split` - the parts of a text between the occurrences of a separator
* `join` - the inverse: parts with a separator between them
* `contains` - whether a text has another one in it
* `lineCount` - the number of lines
-/

namespace NavGraph.Text

/-- Drop the longest final run of characters that satisfy a test. -/
def trimEndWhile (p : Char → Bool) : List Char → List Char
  | [] => []
  | c :: rest =>
      match trimEndWhile p rest with
      | [] => if p c then [] else [c]
      | d :: kept => c :: d :: kept

/-- Drop the characters that satisfy a test at both ends. -/
def trimWhile (p : Char → Bool) (text : List Char) : List Char :=
  trimEndWhile p (text.dropWhile p)

/-- Drop blanks at both ends. -/
def trim (text : List Char) : List Char := trimWhile isBlank text

/-- The parts of a text between occurrences of a separator: one more than there are separators,
so a text without any has one part, the text. -/
def split (separator : Char) : List Char → List (List Char)
  | [] => [[]]
  | c :: rest =>
      if c == separator then [] :: split separator rest
      else
        match split separator rest with
        | [] => [[c]]
        | part :: parts => (c :: part) :: parts

/-- Parts with a text between each two. -/
def join (separator : List Char) (parts : List (List Char)) : List Char :=
  separator.intercalate parts

/-- Whether a text has another one in it. -/
def contains (part : List Char) : List Char → Bool
  | [] => part.isEmpty
  | c :: rest => part.isPrefixOf (c :: rest) || contains part rest

/-- The number of line ends of a text.  A line feed directly after a carriage return belongs to
the line end that the return is; `afterReturn` tells that the text follows one. -/
def lineEnds (afterReturn : Bool) : List Char → Nat
  | [] => 0
  | c :: rest =>
      (if isLineBreak c && !(afterReturn && c == '\n') then 1 else 0) + lineEnds (c == '\r') rest

/-- The number of lines of a text: one per line end, and one for text behind the last of them. -/
def lineCount (text : List Char) : Nat :=
  lineEnds false text + if text.getLast?.all isLineBreak then 0 else 1

@[simp] theorem trimEndWhile_nil (p : Char → Bool) : trimEndWhile p [] = [] := rfl

@[simp] theorem split_nil (separator : Char) : split separator [] = [[]] := rfl

theorem split_ne_nil (separator : Char) (text : List Char) : split separator text ≠ [] := by
  cases text with
  | nil => simp
  | cons c rest =>
      rw [split]
      split
      · simp
      · split <;> simp

theorem contains_iff_isInfix {part text : List Char} :
    contains part text = true ↔ part <:+: text := by
  induction text with
  | nil => simp [contains]
  | cons c rest ih =>
      rw [contains, Bool.or_eq_true, ih, List.isPrefixOf_iff_prefix, List.infix_cons_iff]

end NavGraph.Text

import NavGraph.Json.Basic
import NavGraph.Number.Shortest
import NavGraph.Text.Quoted

/-!
# Writing JSON

A value is written on one line, or over several lines with two blanks per level.  Characters
beyond ASCII are written as they are.

## Main definitions

* `Layout` - what stands between the parts of a value
* `Json.render` - the text of a value
-/

namespace NavGraph.Json

/-- What stands between the parts of a value. -/
inductive Layout where
  /-- Everything on one line. -/
  | line
  /-- One item or field per line, indented by the number of open levels. -/
  | lines (depth : Nat)

namespace Layout

/-- The layout one level further in. -/
def inner : Layout → Layout
  | line => line
  | lines depth => lines (depth + 1)

/-- What stands before an item, or before the closing mark at the outer level. -/
def newLine : Layout → List Char
  | line => []
  | lines depth => '\n' :: List.replicate (2 * depth) ' '

/-- What separates two items: on one line a comma with a blank, else a comma. -/
def comma : Layout → List Char
  | line => [',', ' ']
  | lines _ => [',']

end Layout

/-- One character of a string. -/
def renderChar (c : Char) : List Char :=
  let n := c.toNat
  if c = Text.doubleQuote ∨ c = Text.backslash then [Text.backslash, c]
  else if n = 8 then [Text.backslash, 'b']
  else if n = 9 then [Text.backslash, 't']
  else if n = 10 then [Text.backslash, 'n']
  else if n = 12 then [Text.backslash, 'f']
  else if n = 13 then [Text.backslash, 'r']
  else if n < 32 then [Text.backslash, 'u'] ++ Text.hexDigits 4 n
  else [c]

/-- A string in its quotes. -/
def renderString (s : String) : List Char :=
  Text.doubleQuote :: s.toList.flatMap renderChar ++ [Text.doubleQuote]

/-- A float; the three that are no numbers have names. -/
def renderFloat (x : Float) : List Char :=
  match Number.Binary.ofFloat x with
  | .undefined => "NaN".toList
  | .infinite negative => (if negative then ['-'] else []) ++ "Infinity".toList
  | .finite _ _ _ => (Number.floatText x).toList

mutual

/-- The text of a value in a layout. -/
def renderIn (layout : Layout) : Json → List Char
  | null => "null".toList
  | bool true => "true".toList
  | bool false => "false".toList
  | int n => Text.intText n
  | float x => renderFloat x
  | string s => renderString s
  | array [] => ['[', ']']
  | array (v :: rest) =>
      '[' :: layout.inner.newLine ++ renderIn layout.inner v ++ renderItems layout.inner rest ++
        layout.newLine ++ [']']
  | object [] => [Char.ofNat 0x7b, Char.ofNat 0x7d]
  | object ((name, v) :: rest) =>
      Char.ofNat 0x7b :: layout.inner.newLine ++ renderString name ++ [':', ' '] ++
        renderIn layout.inner v ++ renderFields layout.inner rest ++ layout.newLine ++
        [Char.ofNat 0x7d]

/-- The text of further items of an array. -/
def renderItems (layout : Layout) : List Json → List Char
  | [] => []
  | v :: rest => layout.comma ++ layout.newLine ++ renderIn layout v ++ renderItems layout rest

/-- The text of further fields of an object. -/
def renderFields (layout : Layout) : List (String × Json) → List Char
  | [] => []
  | (name, v) :: rest =>
      layout.comma ++ layout.newLine ++ renderString name ++ [':', ' '] ++ renderIn layout v ++
        renderFields layout rest

end

/-- The text of a value on one line. -/
def render (v : Json) : String := String.ofList (renderIn .line v)

/-- The text of a value over several lines. -/
def renderLines (v : Json) : String := String.ofList (renderIn (.lines 0) v)

end NavGraph.Json

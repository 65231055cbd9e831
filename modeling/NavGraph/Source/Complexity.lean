import NavGraph.Model.Node
import NavGraph.Pattern.Search
import NavGraph.Text.Trim

/-!
# Complexity

How much goes on in a file: a weighted count of textual signals, and three buckets of it.

## Main definitions

* `signals` - the signals with their weights
* `score` - the weighted count
* `bucket` - low up to 3, medium up to 8, high above
-/

namespace NavGraph.Source

open Pattern

/-- Hooks that hold state or run effects. -/
def stateHooks : List String :=
  ["useState", "useEffect", "useContext", "useReducer", "useMemo", "useCallback", "useRef",
    "useLayoutEffect"]

/-- A call of a hook, with or without a type argument. -/
def hookCall (hook : String) : Pattern :=
  .sequence [.wordEdge, .literal hook, .blanks,
    .optional (.sequence [.single '<', .many (noneOf ">()"), .single '>']), .blanks, .single '(']

/-- A conditional expression within a statement and a line. -/
def conditionalExpression : Pattern :=
  .sequence [.char Text.isBlank, .single '?', .char Text.isBlank, .few (noneOf ";\n"),
    .char Text.isBlank, .single ':', .char Text.isBlank]

/-- A call that goes through a collection. -/
def collectionCall : Pattern :=
  .sequence [.single '.',
    .words ["map", "filter", "reduce", "forEach", "flatMap", "find", "some", "every", "sort"],
    .blanks, .single '(']

/-- An event handler in a tag. -/
def inlineHandler : Pattern :=
  .sequence [.wordEdge, .literal "on", .char Char.isUpper, .many Text.isWord, .blanks,
    .single '=', .blanks, .char (· == Char.ofNat 0x7b)]

/-- A call over the network. -/
def networkCall : Pattern :=
  .anyOf [
    .sequence [.wordEdge, .literal "fetch", .blanks, .single '('],
    .sequence [.wordEdge, .literal "axios",
      .optional (.seq (.single '.') (.oneOrMore Text.isWord)), .blanks, .single '('],
    .sequence [.wordEdge, .literal "use", .words ["Query", "Mutation", "SWR"], .blanks,
      .single '(']]

/-- Signals with their weights. -/
def signals : List (Nat × Pattern) :=
  stateHooks.map (1, hookCall ·) ++
    [(1, conditionalExpression), (1, collectionCall), (1, inlineHandler), (2, networkCall)]

/-- What the length of a text adds. -/
def lengthScore (lines : Nat) : Nat :=
  (if 100 < lines then 2 else 0) + if 200 < lines then 1 else 0

/-- The weighted count of signals in a text. -/
def score (text : String) : Nat :=
  signals.foldr (fun s total => s.1 * s.2.count text.toList + total)
    (lengthScore (Text.lineCount text.toList))

/-- The bucket of a score. -/
def bucket (score : Int) : Complexity :=
  if score ≤ 3 then .low else if score ≤ 8 then .medium else .high

end NavGraph.Source

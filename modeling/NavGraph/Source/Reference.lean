import NavGraph.Model.Node
import NavGraph.Pattern.Search
import NavGraph.Text.Trim

/-!
# Navigation references

Places of a source text that lead elsewhere: links, calls that navigate, and redirects.

## Main definitions

* `Reference` - a target with the way it is reached and the place where it stands
* `references` - all references of a text in order of position

## Design notes

A navigating call under a condition matches two patterns, that of a call and that of a condition
with the call in it.  The second one wins: the call is reported once, as conditional.
-/

namespace NavGraph.Source

open Pattern

/-- A place that leads to a target. -/
structure Reference where
  target : String
  kind : ConnectionKind
  trigger : String
  condition : Option String
  position : Nat
  deriving DecidableEq, Repr

/-- Quotation marks of all three sorts. -/
def isQuotationMark (c : Char) : Bool :=
  c == Char.ofNat 34 || c == Char.ofNat 39 || c == Char.ofNat 96

/-- Characters of a target that is written out. -/
def isTargetChar (c : Char) : Bool := !isQuotationMark c && c != '$'

/-- A target between quotation marks, remembered in a slot. -/
def quotedTarget (slot : Nat) : Pattern :=
  .sequence [.char isQuotationMark, .capture slot (.oneOrMore isTargetChar),
    .char isQuotationMark]

/-- A brace that may stand around a target. -/
def optionalBrace (code : Nat) : Pattern := .optional (.char (· == Char.ofNat code))

/-- A call that navigates, up to its target. -/
def navigationCall (slot : Nat) : Pattern :=
  .sequence [
    .anyOf [.literal "navigate",
      .seq (.literal "router.") (.words ["push", "replace"]),
      .seq (.literal "history.") (.words ["push", "replace"])],
    .blanks, .single '(', .blanks, quotedTarget slot]

/-- A place that neither a word nor a member access goes on from. -/
def freshName : Pattern := .notAfter fun c => Text.isWord c || c == '.'

/-- A link with its target in slot 1 and its text in slot 2. -/
def linkPattern : Pattern :=
  .sequence [.literal "<Link", .wordEdge, .few (noneOf ">"), .wordEdge, .words ["to", "href"],
    .single '=', optionalBrace 0x7b, quotedTarget 1, optionalBrace 0x7d, .many (noneOf ">"),
    .single '>', .capture 2 (.many (noneOf "<")), .single '<']

/-- A navigating call with its target in slot 1. -/
def callPattern : Pattern := .seq freshName (navigationCall 1)

/-- A navigating call right behind a condition: the call in slot 1, its target in slot 2. -/
def conditionalPattern : Pattern :=
  .sequence [.wordEdge, .literal "if", .blanks, .single '(', .many (noneOf ")"), .single ')',
    .blanks, optionalBrace 0x7b, .blanks, .optional (.seq (.literal "return") .someBlanks),
    .capture 1 (navigationCall 2)]

/-- A redirecting tag or call, its target in slot 1 or 2. -/
def redirectPattern : Pattern :=
  .alt
    (.sequence [.literal "<Navigate", .wordEdge, .few (noneOf ">"), .wordEdge, .literal "to=",
      optionalBrace 0x7b, quotedTarget 1])
    (.sequence [freshName, .literal "redirect", .blanks, .single '(', .blanks, quotedTarget 2])

/-- A link as a reference; its text names the trigger. -/
def linkReference (m : Match) : Reference :=
  let label := Text.trim (m.text 2).toList
  let label := if label.isEmpty then "Link" else String.ofList label
  ⟨m.text 1, .navigation, label ++ " click", none, m.start⟩

/-- A navigating call under a condition as a reference, at the position of the call. -/
def conditionalReference (m : Match) : Reference :=
  ⟨m.text 2, .conditional, "Conditional redirect", some "Based on state/props",
    (m.position? 1).getD m.start⟩

/-- A navigating call as a reference. -/
def callReference (m : Match) : Reference :=
  ⟨m.text 1, .navigation, "Programmatic navigation", none, m.start⟩

/-- A redirect as a reference. -/
def redirectReference (m : Match) : Reference :=
  ⟨(m.text? 1).getD (m.text 2), .redirect, "Automatic redirect", none, m.start⟩

/-- References of a text, by sort. -/
def unorderedReferences (text : List Char) : List Reference :=
  let conditional := (conditionalPattern.findAll text).map conditionalReference
  let calls := (callPattern.findAll text).map callReference
  (linkPattern.findAll text).map linkReference ++ conditional ++
    calls.filter (fun r => !conditional.any (·.position == r.position)) ++
    (redirectPattern.findAll text).map redirectReference

/-- References of a text in order of position. -/
def references (text : String) : List Reference :=
  (unorderedReferences text.toList).mergeSort fun r s => r.position ≤ s.position

end NavGraph.Source

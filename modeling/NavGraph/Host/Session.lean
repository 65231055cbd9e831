import NavGraph.Host.Script
import NavGraph.Json.Basic
import NavGraph.Text.Utf8

/-!
# Recorded sessions

A script for a host, read from a document: responses with their bodies as texts or as bytes in
hexadecimal, and failures by name.

## Main definitions

* `Answer.ofJson` - an answer from its document
* `Script.ofJson` - a script from its document
-/

namespace NavGraph

/-- The value of a hexadecimal digit; other characters count as zero. -/
def hexDigitValue (c : Char) : Nat :=
  if c.isDigit then c.toNat - 48 else if c.isAlpha then c.toLower.toNat - 87 else 0

/-- Bytes written as pairs of hexadecimal digits. -/
def bytesOfHex : List Char → List UInt8
  | a :: b :: rest => UInt8.ofNat (hexDigitValue a * 16 + hexDigitValue b) :: bytesOfHex rest
  | _ => []

/-- A header from its document, a pair of texts. -/
def headerOfJson? : Json → Option (String × String)
  | .array [.string name, .string value] => some (name, value)
  | _ => none

/-- The text in a field, if there is one. -/
def textField? (v : Json) (name : String) : Option String :=
  match v.field? name with
  | some (.string s) => some s
  | _ => none

/-- The items in a field; none if there is no list. -/
def itemsField (v : Json) (name : String) : List Json :=
  match v.field? name with
  | some (.array items) => items
  | _ => []

/-- An answer from its document. -/
def Answer.ofJson (v : Json) : Answer :=
  match textField? v "raise" with
  | some kind =>
      let message := (textField? v "message").getD ""
      if kind = "InvalidURL" then .unusableAddress message
      else .unreachable (if message.isEmpty then kind else message)
  | none =>
      let status := match v.field? "status" with
        | some (.int n) => n.toNat
        | _ => 200
      let body := match textField? v "hex" with
        | some hex => bytesOfHex hex.toList
        | none => Text.utf8Bytes ((textField? v "body").getD "")
      let headers := (itemsField v "headers").filterMap headerOfJson?
      .response { status := status, headers := headers, body := body }

/-- A script from its document. -/
def Script.ofJson (v : Json) : Script where
  table := match v.field? "map" with
    | some (.object fields) => fields.map fun (key, answers) =>
        (key, match answers with
          | .array items => items.map Answer.ofJson
          | _ => [])
    | _ => []
  queue := (itemsField v "queue").map Answer.ofJson

end NavGraph

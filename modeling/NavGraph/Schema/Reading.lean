import NavGraph.Json.Basic
import NavGraph.Number.Binary
import NavGraph.Number.Reading
import NavGraph.Schema.Problem
import NavGraph.Time.Timestamp

/-!
# Reading documents

Readers of JSON documents.  A reader collects **all** problems of a document, in the order of its
fields and items, and converts leniently: a text may stand for a number, a number for a Boolean.

## Main definitions

* `Reading` - a value, or the problems that there are instead
* `Reading.and` - two readings side by side, with the problems of both
* `text`, `boolean`, `integer`, `number`, `time`, `choice` - readers of single values
* `listOf`, `orNull` - readers of lists and of values that may be null
* `required`, `withDefault`, `object` - readers of fields and objects

## Main statements

* `Reading.and_eq_ok_iff` - two readings side by side succeed exactly if both do
* `text_eq_ok_iff`, `orNull_text_eq_ok_iff` - texts are read as they are
-/

namespace NavGraph.Schema

/-- A value, or the problems that there are instead. -/
abbrev Reading (α : Type) := Except (List Problem) α

namespace Reading

variable {α β : Type}

/-- One problem at the top of the document. -/
def refuse (kind : Problem.Kind) : Reading α := .error [⟨[], kind⟩]

/-- Apply a function to the value. -/
def map (f : α → β) : Reading α → Reading β
  | .ok a => .ok (f a)
  | .error problems => .error problems

/-- A reading of a part of a document, seen from the whole. -/
def within (step : Step) : Reading α → Reading α
  | .ok a => .ok a
  | .error problems => .error (problems.map fun p => ⟨step :: p.place, p.kind⟩)

/-- Two readings side by side: both values, or the problems of both. -/
def and (f : Reading (α → β)) (x : Reading α) : Reading β :=
  match f, x with
  | .ok f, .ok a => .ok (f a)
  | .ok _, .error ps => .error ps
  | .error ps, .ok _ => .error ps
  | .error ps, .error qs => .error (ps ++ qs)

@[simp] theorem map_ok (f : α → β) (a : α) : map f (.ok a) = .ok (f a) := rfl

@[simp] theorem within_ok (step : Step) (a : α) : within step (.ok a) = .ok a := rfl

@[simp] theorem and_ok (f : α → β) (a : α) :
    and (.ok f : Reading (α → β)) (.ok a) = .ok (f a) := rfl

theorem map_eq_ok_iff {f : α → β} {x : Reading α} {b : β} :
    map f x = .ok b ↔ ∃ a, x = .ok a ∧ f a = b := by
  cases x <;> simp [map]

theorem within_eq_ok_iff {step : Step} {x : Reading α} {a : α} :
    within step x = .ok a ↔ x = .ok a := by
  cases x <;> simp [within]

/-- **Side by side means both**: there is a value exactly if both readings have one. -/
theorem and_eq_ok_iff {f : Reading (α → β)} {x : Reading α} {b : β} :
    and f x = .ok b ↔ ∃ g a, f = .ok g ∧ x = .ok a ∧ g a = b := by
  cases f <;> cases x <;> simp [and]

end Reading

/-- A text. -/
def text : Json → Reading String
  | .string s => .ok s
  | _ => .refuse .notText

/-- One of the texts that a table allows. -/
def choice {α : Type} (table : String → Option α) : Json → Reading α
  | .string s =>
      match table s with
      | some a => .ok a
      | none => .refuse .notAllowed
  | _ => .refuse .notAllowed

/-- Texts that stand for a Boolean, in lower case. -/
def booleanText? (s : String) : Option Bool :=
  if ["true", "t", "yes", "y", "on", "1"].contains s then some true
  else if ["false", "f", "no", "n", "off", "0"].contains s then some false
  else none

/-- A Boolean, or what stands for one: one and zero, and some texts in any letter case. -/
def boolean : Json → Reading Bool
  | .bool b => .ok b
  | .int n => if n = 1 then .ok true else if n = 0 then .ok false else .refuse .unreadableBoolean
  | .float x =>
      if x == 1.0 then .ok true
      else if x == 0.0 then .ok false
      else .refuse .unreadableBoolean
  | .string s =>
      match booleanText? (String.ofList (s.toList.map Char.toLower)) with
      | some b => .ok b
      | none => .refuse .unreadableBoolean
  | _ => .refuse .notBoolean

/-- The integer that a float is. -/
def wholeFloat (x : Float) : Reading Int :=
  match Number.Binary.ofFloat x with
  | .finite negative m q =>
      let (num, den) := Number.scaledFraction m q 0
      if num % den = 0 then
        .ok (if negative then -Int.ofNat (num / den) else Int.ofNat (num / den))
      else .refuse .fractionalInteger
  | _ => .refuse .notFinite

/-- An integer, or what stands for one: a Boolean, a whole float, a text. -/
def integer : Json → Reading Int
  | .int n => .ok n
  | .bool b => .ok (if b then 1 else 0)
  | .float x => wholeFloat x
  | .string s =>
      match Number.settingInt? s with
      | some n => .ok n
      | none => .refuse .unreadableInteger
  | _ => .refuse .notInteger

/-- A float, or what stands for one: an integer, a Boolean, a text. -/
def number : Json → Reading Float
  | .float x => .ok x
  | .int n => .ok (Number.floatOfInt n)
  | .bool b => .ok (if b then 1.0 else 0.0)
  | .string s =>
      match Number.settingFloat? s with
      | some x => .ok x
      | none => .refuse .unreadableNumber
  | _ => .refuse .notNumber

/-- A time. -/
def time : Json → Reading Time.Timestamp
  | .string s =>
      match Time.Timestamp.ofText? s with
      | some t => .ok t
      | none => .refuse .unreadableTime
  | _ => .refuse .notTime

/-- A value, or null for none. -/
def orNull {α : Type} (read : Json → Reading α) : Json → Reading (Option α)
  | .null => .ok none
  | v => (read v).map some

theorem text_eq_ok_iff {v : Json} {s : String} : text v = .ok s ↔ v = .string s := by
  cases v <;> simp [text, Reading.refuse]

theorem orNull_text_eq_ok_iff {v : Json} {s? : Option String} :
    orNull text v = .ok s? ↔ v = .ofOption s? := by
  cases v <;> cases s? <;> simp [orNull, text, Reading.refuse, Reading.map, Json.ofOption]

/-- The items of a list from an index on. -/
def itemsFrom {α : Type} (read : Json → Reading α) (i : Nat) : List Json → Reading (List α)
  | [] => .ok []
  | v :: rest =>
      ((Reading.within (.index i) (read v)).map List.cons).and (itemsFrom read (i + 1) rest)

/-- A list. -/
def listOf {α : Type} (read : Json → Reading α) : Json → Reading (List α)
  | .array items => itemsFrom read 0 items
  | _ => .refuse .notList

/-- Fields of an object. -/
abbrev Fields := List (String × Json)

/-- A field that must be there. -/
def required {α : Type} (name : String) (read : Json → Reading α) (fields : Fields) : Reading α :=
  match fields.lookup name with
  | some v => Reading.within (.field name) (read v)
  | none => .error [⟨[.field name], .missing⟩]

/-- A field that has a default. -/
def withDefault {α : Type} (name : String) (default : α) (read : Json → Reading α)
    (fields : Fields) : Reading α :=
  match fields.lookup name with
  | some v => Reading.within (.field name) (read v)
  | none => .ok default

/-- An object, read from its fields; fields that no reader asks for do not matter. -/
def object {α : Type} (read : Fields → Reading α) : Json → Reading α
  | .object fields => read fields
  | _ => .refuse .notObject

end NavGraph.Schema

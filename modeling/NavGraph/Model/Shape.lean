import NavGraph.Model.Document

/-!
# Shapes of documents

The models seen from a document that says which of them it is: a shape reads a document and writes
it back with every field, and lets fields be assigned afterwards.

## Main definitions

* `Shape` - the shapes, one for each model
* `Shape.complete` - a document with every field, from one that may leave some out
* `Shape.assign` - a document with a field replaced

## Design notes

Assignment does not look at the value: it is the reader that checks values, once.  Documents of a
**frozen** shape cannot be assigned to at all.
-/

namespace NavGraph

open Schema

/-- The shapes of documents. -/
inductive Shape where
  | repository
  | entry
  | connection
  | metadata
  | node
  | routeEntry
  | journey
  | analysis
  deriving DecidableEq, Repr

/-- Why a field of a document cannot be assigned. -/
inductive AssignFailure where
  /-- The shape does not change. -/
  | frozen (problem : Problem)
  /-- The shape has no such field. -/
  | unknownField (shape : Shape) (field : String)
  deriving DecidableEq, Repr

namespace Shape

/-- The written name. -/
def name : Shape → String
  | repository => "RepositoryReference"
  | entry => "RemoteFile"
  | connection => "Connection"
  | metadata => "NodeMetadata"
  | node => "FlowNode"
  | routeEntry => "RouteEntry"
  | journey => "UserJourney"
  | analysis => "AnalysisResult"

/-- All shapes. -/
def all : List Shape :=
  [repository, entry, connection, metadata, node, routeEntry, journey, analysis]

/-- The shape with a written name. -/
def ofName? (name : String) : Option Shape := all.find? (·.name == name)

theorem ofName?_name (s : Shape) : ofName? s.name = some s := by cases s <;> rfl

/-- A document with every field, from one that may leave some out and write others leniently. -/
def complete : Shape → Json → Reading Json
  | repository, v => (Repository.ofJson v).map Repository.toJson
  | entry, v => (Entry.ofJson v).map Entry.toJson
  | connection, v => (Connection.ofJson v).map Connection.toJson
  | metadata, v => (Metadata.ofJson v).map Metadata.toJson
  | node, v => (Node.ofJson v).map Node.toJson
  | routeEntry, v => (RouteEntry.ofJson v).map RouteEntry.toJson
  | journey, v => (Journey.ofJson v).map Journey.toJson
  | analysis, v => (Analysis.ofJson v).map Analysis.toJson

/-- Whether documents of a shape do not change: those that a whole run rests on. -/
def isFrozen : Shape → Bool
  | repository | analysis => true
  | _ => false

/-- A complete document with a field replaced. -/
def assign (s : Shape) (field : String) (value : Json) (v : Json) :
    Except AssignFailure Json :=
  if s.isFrozen then .error (.frozen ⟨[.field field], .frozen⟩)
  else
    match v with
    | .object fields =>
        if (fields.lookup field).isSome then .ok (.object (Assoc.put field value fields))
        else .error (.unknownField s field)
    | _ => .error (.unknownField s field)

/-- What is told of a field that cannot be assigned because there is none. -/
def unknownFieldText (s : Shape) (field : String) : String :=
  "\"" ++ s.name ++ "\" object has no field \"" ++ field ++ "\""

end Shape

end NavGraph

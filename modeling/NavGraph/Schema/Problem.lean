/-!
# Problems of a document

What is wrong with a document that was to be read as a value of a given shape: a kind of problem
and the place where it is.

## Main definitions

* `Problem` - a kind of problem at a place of a document
* `Problem.Kind.code` - the stable name of a kind
-/

namespace NavGraph.Schema

/-- One step into a document. -/
inductive Step where
  /-- Into a field of an object. -/
  | field (name : String)
  /-- To an item of a list; the first has index zero. -/
  | index (i : Nat)
  deriving DecidableEq, Repr

/-- Kinds of problems. -/
inductive Problem.Kind where
  /-- A field without a default is absent. -/
  | missing
  /-- Not a text. -/
  | notText
  /-- Not one of the allowed texts. -/
  | notAllowed
  /-- Not a list. -/
  | notList
  /-- Not an object. -/
  | notObject
  /-- Neither true nor false, nor a text or number that could be either. -/
  | notBoolean
  /-- A text or a number that is neither true nor false. -/
  | unreadableBoolean
  /-- Not an integer, nor a text or number that could be one. -/
  | notInteger
  /-- A text that is no integer. -/
  | unreadableInteger
  /-- A number that is not whole. -/
  | fractionalInteger
  /-- A number that is infinite or undefined. -/
  | notFinite
  /-- Not a number, nor a text that could be one. -/
  | notNumber
  /-- A text that is no number. -/
  | unreadableNumber
  /-- A number that is not above its lower bound. -/
  | notAbove
  /-- A number that is below its lower bound. -/
  | below
  /-- Not a time. -/
  | notTime
  /-- A text that is no time. -/
  | unreadableTime
  /-- An assignment to a value that does not change. -/
  | frozen
  deriving DecidableEq, Repr

/-- The stable name of a kind of problem. -/
def Problem.Kind.code : Problem.Kind → String
  | missing => "missing"
  | notText => "string_type"
  | notAllowed => "literal_error"
  | notList => "list_type"
  | notObject => "model_type"
  | notBoolean => "bool_type"
  | unreadableBoolean => "bool_parsing"
  | notInteger => "int_type"
  | unreadableInteger => "int_parsing"
  | fractionalInteger => "int_from_float"
  | notFinite => "finite_number"
  | notNumber => "float_type"
  | unreadableNumber => "float_parsing"
  | notAbove => "greater_than"
  | below => "greater_than_equal"
  | notTime => "datetime_type"
  | unreadableTime => "datetime_from_date_parsing"
  | frozen => "frozen_instance"

/-- A problem at a place of a document. -/
structure Problem where
  place : List Step
  kind : Problem.Kind
  deriving DecidableEq, Repr

end NavGraph.Schema

import NavGraph.Model.Node
import NavGraph.Time.Timestamp

/-!
# Results of an analysis

What an analysis of a repository finds: its nodes, the table of its routes, and illustrative
journeys through it.

## Main definitions

* `Analysis` - the result of a run
* `RouteEntry`, `Journey`, `Audience` - what it holds besides nodes
-/

namespace NavGraph

/-- A page in the table of routes. -/
structure RouteEntry where
  path : String
  componentName : String
  sourcePath : String
  /-- What a visitor has to pass first; absent for none. -/
  guards : Option (List String)
  /-- Names of the parameters in the path; absent for none. -/
  params : Option (List String)
  deriving DecidableEq, Repr

/-- Who takes a journey. -/
inductive Audience where
  | guest
  | authenticated
  | admin
  deriving DecidableEq, Repr

namespace Audience

/-- The written name. -/
def name : Audience → String
  | guest => "guest"
  | authenticated => "authenticated"
  | admin => "admin"

/-- The audience with a written name. -/
def ofName? : String → Option Audience
  | "guest" => some guest
  | "authenticated" => some authenticated
  | "admin" => some admin
  | _ => none

@[simp] theorem ofName?_name (k : Audience) : ofName? k.name = some k := by cases k <;> rfl

end Audience

/-- A walk through the graph that illustrates what a visitor does. -/
structure Journey where
  id : String
  name : String
  description : String
  steps : List Node
  /-- Id of the first step. -/
  startId : String
  /-- Id of the last step. -/
  endId : String
  audience : Audience
  deriving DecidableEq, Repr

/-- The result of a run. -/
structure Analysis where
  repoUrl : String
  repoName : String
  nodes : List Node
  routes : List RouteEntry
  journeys : List Journey
  /-- How many files the listings showed. -/
  totalFiles : Int
  /-- How many of them were read and had text. -/
  analyzedFiles : Int
  timestamp : Time.Timestamp
  deriving DecidableEq

end NavGraph

import NavGraph.Assoc
import NavGraph.Graph.Integrity
import NavGraph.Model.Analysis
import NavGraph.Source.File

/-!
# Building a graph

A graph is built in two passes.  The first adds one file after the other and gives each node an
id of its own; the second connects the nodes along the references of their files.

## Main definitions

* `Builder` - the files and nodes so far
* `Builder.add` - the first pass, for one file
* `Builder.routeIndex` - which node owns a route
* `Builder.connect` - the second pass
* `Builder.resolve` - the second pass with the check of its outcome
* `Builder.routes` - the table of routes

## Design notes

A node that shares its id with an earlier one takes the path of its file into the id, and where
that is not enough a number.  The first node with a route owns it: references to the route lead
there.
-/

namespace NavGraph.Graph

open Source

/-- The state between two steps of a build. -/
structure Builder where
  /-- The latest analysis of each path. -/
  files : List (String × FileAnalysis)
  nodes : List Node
  /-- Ids that are taken, in order. -/
  ids : List String
  /-- Ids of nodes whose route is the bare one. -/
  bareIds : List String
  deriving DecidableEq

namespace Builder

/-- Nothing added yet. -/
def empty : Builder := ⟨[], [], [], []⟩

/-- The ending of a path from its last point on. -/
def pathEnding : Pattern :=
  .sequence [.single '.', .oneOrMore (Pattern.noneOf "./"), .textEnd]

/-- Characters that stay in a slug. -/
def isSlugChar (c : Char) : Bool := c.isLower || c.isDigit

/-- A path as part of an id: in lower case, without its ending, and a dash for whatever is
neither letter nor digit. -/
def slug (path : String) : String :=
  let body := pathEnding.replaceAll [] (Text.lower path.toList)
  let dashed := (Pattern.oneOrMore (!isSlugChar ·)).replaceAll ['-'] body
  String.ofList (Text.trimWhile (· == '-') dashed)

/-- An id with a number behind it. -/
def numbered (id : String) (n : Nat) : String :=
  id ++ "-" ++ String.ofList (Text.digitsOfNat n)

/-- The first number from two on that makes an id free.  Among one more numbers than there are
ids taken, one does. -/
def freeNumber (taken : List String) (id : String) : Nat :=
  (((List.range (taken.length + 1)).map (· + 2)).find? fun n =>
    !taken.contains (numbered id n)).getD (taken.length + 3)

/-- The id that a node gets: its own if it is free, else with the slug of its path, else with a
number too. -/
def assignId (taken : List String) (path id : String) : String :=
  if !taken.contains id then id
  else
    let slugged := id ++ "-" ++ slug path
    if !taken.contains slugged then slugged
    else numbered slugged (freeNumber taken slugged)

/-- Add one node of a file. -/
def addNode (analysis : FileAnalysis) (b : Builder) (n : Node) : Builder :=
  let id := assignId b.ids analysis.path n.id
  { b with
    nodes := b.nodes ++ [{ n with id := id }]
    ids := b.ids ++ [id]
    bareIds := if analysis.bareRoutes.contains n.id then b.bareIds ++ [id] else b.bareIds }

/-- Add a file: remember its analysis and add its nodes in order. -/
def add (b : Builder) (analysis : FileAnalysis) : Builder :=
  analysis.nodes.foldl (addNode analysis)
    { b with files := Assoc.put analysis.path analysis b.files }

/-- The routes of a list of nodes in order, each with the id of the first node that has it. -/
def routeIndexOf (nodes : List Node) : List (String × String) :=
  nodes.foldl (fun index n =>
    if (index.lookup n.routePath).isSome then index else index ++ [(n.routePath, n.id)]) []

/-- Which node owns a route. -/
def routeIndex (b : Builder) : List (String × String) := routeIndexOf b.nodes

/-- References of the file that a node is from. -/
def referencesOf (b : Builder) (n : Node) : List Reference :=
  ((b.files.lookup n.sourcePath).map (·.references)).getD []

/-- The connection along a reference, if a node owns the route that it names. -/
def connection? (index : List (String × String)) (r : Reference) : Option Connection :=
  (index.lookup (normalizeTarget r.target)).map fun id => ⟨id, r.kind, r.trigger, r.condition⟩

/-- Connections that a node gets in the second pass. -/
def newConnections (b : Builder) (n : Node) : List Connection :=
  (b.referencesOf n).filterMap (connection? b.routeIndex)

/-- Give each node its connections, behind those that it has. -/
def connect (b : Builder) : Builder :=
  { b with nodes := b.nodes.map fun n =>
      { n with connections := n.connections ++ b.newConnections n } }

/-- The second pass with its check: the connected graph, and whether a connection leads out of it.
What was connected stays connected either way. -/
def resolve (b : Builder) : Builder × Except Failure Unit :=
  (b.connect, checkConnections b.connect.nodes)

/-- How many references the second pass follows. -/
def resolvedCount (b : Builder) : Nat := (b.nodes.flatMap b.newConnections).length

/-- How many references the second pass drops because no node owns their route. -/
def droppedCount (b : Builder) : Nat :=
  (b.nodes.flatMap b.referencesOf).length - b.resolvedCount

/-- Whether a node belongs in the table of routes. -/
def isRouted (b : Builder) (n : Node) : Bool :=
  n.kind == .page && !n.routePath.isEmpty && !b.bareIds.contains n.id

/-- A list, or none instead of an empty one. -/
def nonEmpty? (names : List String) : Option (List String) :=
  if names.isEmpty then none else some names

/-- The entry of a node in the table of routes. -/
def routeEntry (n : Node) : RouteEntry where
  path := n.routePath
  componentName := n.displayName
  sourcePath := n.sourcePath
  guards := if n.metadata.isProtected then some ["auth"] else none
  params := nonEmpty? (routeParams n.routePath)

/-- The table of routes. -/
def routes (b : Builder) : List RouteEntry := (b.nodes.filter b.isRouted).map routeEntry

end Builder

end NavGraph.Graph

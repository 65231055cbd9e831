import NavGraph.Demo.Marker
import NavGraph.Graph.Grid
import NavGraph.Json.Basic

/-!
# Diagram data

A result in the form that a diagram is drawn from: nodes with positions, edges, journeys as lists
of ids, and figures.

## Main definitions

* `Diagram` - the data
* `Diagram.ofAnalysis` - the diagram of a result
* `Diagram.toJson` - its written form
-/

namespace NavGraph.Report

open NavGraph.Graph

/-- A node of a diagram: a node at a position. -/
structure DiagramNode where
  node : Node
  position : Position
  deriving DecidableEq, Repr

/-- An edge of a diagram: a connection with the id that it starts from. -/
structure Edge where
  source : String
  connection : Connection
  deriving DecidableEq, Repr

/-- Figures about a result. -/
structure Stats where
  totalFiles : Int
  analyzedFiles : Int
  pages : Nat
  routes : Nat
  connections : Nat
  deriving DecidableEq, Repr

/-- What a diagram is drawn from. -/
structure Diagram where
  repoUrl : String
  repoName : String
  nodes : List DiagramNode
  edges : List Edge
  journeys : List Journey
  isDemo : Bool
  stats : Stats
  timestamp : Time.Timestamp
  deriving DecidableEq

/-- Edges of a list of nodes, node by node. -/
def edgesOf (nodes : List Node) : List Edge :=
  nodes.flatMap fun n => n.connections.map fun c => ⟨n.id, c⟩

/-- The diagram of a result. -/
def Diagram.ofAnalysis (a : Analysis) : Diagram :=
  let positions := layout .standard (a.nodes.map (·.id))
  let edges := edgesOf a.nodes
  { repoUrl := a.repoUrl
    repoName := a.repoName
    nodes := a.nodes.map fun n => ⟨n, (positions.lookup n.id).getD ⟨0, 0⟩⟩
    edges := edges
    journeys := a.journeys
    isDemo := a.isDemo
    stats :=
      { totalFiles := a.totalFiles
        analyzedFiles := a.analyzedFiles
        pages := (a.nodes.filter (·.kind == .page)).length
        routes := a.routes.length
        connections := edges.length }
    timestamp := a.timestamp }

/-- The written form of a position. -/
def positionJson (p : Position) : Json := .object [("x", .int p.x), ("y", .int p.y)]

/-- The written form of a node. -/
def DiagramNode.toJson (d : DiagramNode) : Json :=
  .object [("id", .string d.node.id), ("type", .string d.node.kind.name),
    ("name", .string d.node.displayName), ("path", .string d.node.routePath),
    ("file", .string d.node.sourcePath), ("position", positionJson d.position),
    ("complexity", .string d.node.metadata.complexity.name),
    ("description", .string d.node.metadata.description),
    ("protected", .bool d.node.metadata.isProtected)]

/-- The written form of an edge. -/
def Edge.toJson (e : Edge) : Json :=
  .object [("source", .string e.source), ("target", .string e.connection.target),
    ("type", .string e.connection.kind.name), ("trigger", .string e.connection.trigger),
    ("condition", .ofOption e.connection.condition)]

/-- The written form of a journey: its steps by their ids. -/
def journeyJson (j : Journey) : Json :=
  .object [("id", .string j.id), ("name", .string j.name),
    ("user_type", .string j.audience.name), ("steps", .ofStrings (j.steps.map (·.id))),
    ("start", .string j.startId), ("end", .string j.endId)]

/-- The written form of figures. -/
def Stats.toJson (s : Stats) : Json :=
  .object [("total_files", .int s.totalFiles), ("analyzed_files", .int s.analyzedFiles),
    ("pages", .int s.pages), ("routes", .int s.routes), ("connections", .int s.connections)]

/-- The written form of a diagram. -/
def Diagram.toJson (d : Diagram) : Json :=
  .object [("repo", .object [("url", .string d.repoUrl), ("name", .string d.repoName)]),
    ("nodes", .array (d.nodes.map DiagramNode.toJson)),
    ("edges", .array (d.edges.map Edge.toJson)),
    ("journeys", .array (d.journeys.map journeyJson)), ("is_demo", .bool d.isDemo),
    ("stats", d.stats.toJson), ("timestamp", .string d.timestamp.isoText)]

end NavGraph.Report

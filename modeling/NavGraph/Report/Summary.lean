import NavGraph.Assoc
import NavGraph.Demo.Marker
import NavGraph.Text.Digit

/-!
# Text summary

A result as a text for a terminal: a header, the journeys, and a paragraph for each node.

## Main definitions

* `summary` - the text
* `summaryHeader`, `kindCounts`, `nodeLines` - its parts
-/

namespace NavGraph.Report

/-- Texts with a separator between them. -/
def joined (separator : String) (texts : List String) : String := separator.intercalate texts

/-- An integer as a text. -/
def decimal (n : Int) : String := String.ofList (Text.intText n)

/-- How many nodes of each kind there are, in the order of the kinds' names. -/
def kindCounts (nodes : List Node) : List (NodeKind × Nat) :=
  [NodeKind.component, .layout, .modal, .page, .redirect].filterMap fun k =>
    match nodes.countP (·.kind == k) with
    | 0 => none
    | n + 1 => some (k, n + 1)

/-- How many connections there are. -/
def connectionCount (nodes : List Node) : Nat := (nodes.flatMap (·.connections)).length

/-- Display names by id; of several nodes with an id the last one counts. -/
def displayNames (nodes : List Node) : List (String × String) :=
  Assoc.ofList (nodes.map fun n => (n.id, n.displayName))

/-- The line of a connection. -/
def connectionLine (names : List (String × String)) (c : Connection) : String :=
  let target := (names.lookup c.target).getD c.target
  let condition := match c.condition with
    | none => ""
    | some text => if text.isEmpty then "" else " [" ++ text ++ "]"
  "  -> " ++ target ++ " via " ++ c.trigger ++ " (" ++ c.kind.name ++ ")" ++ condition

/-- Names of the flags that a node has. -/
def flagNames (m : Metadata) : List String :=
  (if m.hasAuth then ["auth"] else []) ++ (if m.hasParameters then ["params"] else []) ++
    if m.isProtected then ["protected"] else []

/-- The lines of a node. -/
def nodeLines (names : List (String × String)) (n : Node) : List String :=
  [n.kind.capitalized ++ " " ++ n.displayName ++ " (" ++ n.routePath ++ ") at " ++ n.sourcePath,
    "  Complexity: " ++ n.metadata.complexity.name ++ "; actions: " ++
      joined ", " n.metadata.userActions] ++
    (match flagNames n.metadata with
      | [] => []
      | names => ["  Flags: " ++ joined ", " names]) ++
    n.connections.map (connectionLine names)

/-- The first line of a summary. -/
def summaryHeader (a : Analysis) : String :=
  "Repository " ++ a.repoName ++ " (" ++ a.repoUrl ++ "): " ++ decimal a.nodes.length ++
    " nodes, " ++ decimal (connectionCount a.nodes) ++ " connections, " ++
    decimal a.routes.length ++ " routes from " ++ decimal a.analyzedFiles ++ "/" ++
    decimal a.totalFiles ++ " files" ++ if a.isDemo then " [demo data]" else ""

/-- The line that counts kinds; none without nodes. -/
def kindLines (nodes : List Node) : List String :=
  match kindCounts nodes with
  | [] => []
  | counts =>
      ["  Kinds: " ++ joined ", " (counts.map fun p => p.1.name ++ "=" ++ decimal p.2)]

/-- The line of a journey. -/
def journeyLine (j : Journey) : String :=
  "  Journey " ++ j.name ++ " (" ++ j.audience.name ++ "): " ++
    joined " -> " (j.steps.map (·.displayName))

/-- The paragraph of a node. -/
def nodeParagraph (names : List (String × String)) (n : Node) : String :=
  joined "\n" (nodeLines names n)

/-- A result as a text. -/
def summary (a : Analysis) : String :=
  joined "\n" <|
    [summaryHeader a] ++ kindLines a.nodes ++ a.journeys.map journeyLine ++ [""] ++
      a.nodes.map (nodeParagraph (displayNames a.nodes))

end NavGraph.Report

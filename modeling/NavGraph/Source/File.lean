import NavGraph.Source.Complexity
import NavGraph.Source.Declaration
import NavGraph.Source.Feature
import NavGraph.Source.Kind
import NavGraph.Source.Reference
import NavGraph.Text.Digit

/-!
# Analysis of a file

What one file contributes to the graph: a node for each of its declarations, and the references
that all of them share.

## Main definitions

* `FileAnalysis` - nodes, references, and which nodes have a bare route only
* `nodeOf` - the node of a declaration
* `analyzeFile` - the analysis of a file
-/

namespace NavGraph.Source

/-- What is learned from a file. -/
structure FileAnalysis where
  path : String
  nodes : List Node
  references : List Reference
  /-- Ids of nodes whose route is the bare one, for want of a better. -/
  bareRoutes : List String
  deriving DecidableEq, Repr

/-- The id of a declaration within its file. -/
def nodeId (d : Declaration) : String :=
  Text.lowerString d.name ++ "-" ++ String.ofList (Text.digitsOfNat d.index)

/-- The node of a declaration, not connected yet. -/
def nodeOf (path text : String) (d : Declaration) : Node :=
  let r := (route path d.name).1
  let f := flags text r
  let title := displayName d.name
  { id := nodeId d
    displayName := title
    routePath := r
    sourcePath := path
    kind := classify d.name path text
    connections := []
    metadata :=
      { title := title
        description := describe d.name text
        hasAuth := f.hasAuth
        hasParameters := f.hasParameters
        isProtected := f.isProtected
        complexity := bucket (score text)
        userActions := userActions text
        entryPoints := entryPoints text r } }

/-- The analysis of a file.  References are collected only where there is a node to start them
from. -/
def analyzeFile (path text : String) : FileAnalysis :=
  let found := declarations text
  { path := path
    nodes := found.map (nodeOf path text)
    references := if found.isEmpty then [] else references text
    bareRoutes := (found.filter fun d => (route path d.name).2).map nodeId }

end NavGraph.Source

import NavGraph.Failure
import NavGraph.Model.Node

/-!
# Integrity of a graph

## Main definitions

* `danglingConnection?` - the first connection that leads out of a list of nodes
* `checkConnections` - refuses a list of nodes with such a connection
-/

namespace NavGraph.Graph

/-- Whether a list of nodes has a node with an id. -/
def hasId (nodes : List Node) (id : String) : Bool := nodes.any (·.id == id)

/-- The first connection that leads to no node of the list, with the id of the node that has
it. -/
def danglingConnection? (nodes : List Node) : Option (String × Connection) :=
  nodes.findSome? fun n =>
    (n.connections.find? fun c => !hasId nodes c.target).map fun c => (n.id, c)

/-- Refuse a list of nodes that a connection leads out of. -/
def checkConnections (nodes : List Node) : Except Failure Unit :=
  match danglingConnection? nodes with
  | some (source, c) => .error (.danglingConnection source c.target)
  | none => .ok ()

end NavGraph.Graph

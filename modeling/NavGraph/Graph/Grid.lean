import NavGraph.Assoc
import NavGraph.Model.Node

/-!
# Grid layout

Nodes are drawn on a grid that is as wide as it is high, give or take one row, filled row by row
in the order of the nodes.

## Main definitions

* `columns` - the width of the grid for a number of nodes
* `layout` - the position of each id
-/

namespace NavGraph.Graph

/-- Where a drawing starts, and how far apart its columns and rows are. -/
structure GridStyle where
  columnWidth : Int
  rowHeight : Int
  origin : Int
  deriving DecidableEq, Repr

/-- The style of the diagrams. -/
def GridStyle.standard : GridStyle := ⟨320, 280, 100⟩

/-- A position in a drawing. -/
structure Position where
  x : Int
  y : Int
  deriving DecidableEq, Repr

/-- The least width whose square holds so many nodes. -/
def columns (count : Nat) : Nat :=
  ((List.range (count + 1)).find? fun c => count ≤ c * c).getD count

/-- The position of the node with an index in a grid of a width. -/
def cellPosition (style : GridStyle) (width index : Nat) : Position where
  x := style.origin + Int.ofNat (index % width) * style.columnWidth
  y := style.origin + Int.ofNat (index / width) * style.rowHeight

/-- The position of each id.  An id that comes again keeps its place in the order and takes the
later position. -/
def layout (style : GridStyle) (ids : List String) : List (String × Position) :=
  Assoc.ofList (ids.mapIdx fun i id => (id, cellPosition style (columns ids.length) i))

end NavGraph.Graph

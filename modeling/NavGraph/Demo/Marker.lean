import NavGraph.Model.Analysis

/-!
# The mark of demonstration data

Demonstration data says what it is where a reader looks first: the description of its first node
starts with a marker.

## Main definitions

* `demoMarker` - the marker
* `Analysis.isDemo` - whether a result carries it
-/

namespace NavGraph

/-- What the description of the first node starts with. -/
def demoMarker : String := "⚠️ Demo data"

/-- Whether a result is demonstration data. -/
def Analysis.isDemo (a : Analysis) : Bool :=
  match a.nodes with
  | [] => false
  | first :: _ => demoMarker.toList.isPrefixOf first.metadata.description.toList

end NavGraph

import NavGraph.Demo.Marker
import NavGraph.Failure

/-!
# Standing in for a failed run

When the host fails, a fixed result can stand in for the one that could not be found.  It carries
the request's names and the present time, and its first node tells what happened.

## Main definitions

* `demoDescription` - the description of the first node
* `Analysis.standIn` - a fixed result in place of a failed one
-/

namespace NavGraph

/-- The description of the first node of a result that stands in for a failed one. -/
def demoDescription (failure : Failure) (description : String) : String :=
  demoMarker ++ ": " ++ failure.message ++ ". Showing demo analysis instead. " ++ description

/-- A node whose description tells of a failure. -/
def Node.marked (n : Node) (failure : Failure) : Node :=
  { n with metadata :=
      { n.metadata with description := demoDescription failure n.metadata.description } }

/-- A fixed result in place of the one that a failure prevented. -/
def Analysis.standIn (dataset : Analysis) (url name : String) (failure : Failure)
    (now : Time.Timestamp) : Analysis :=
  { dataset with
    repoUrl := url
    repoName := name
    timestamp := now
    nodes := match dataset.nodes with
      | [] => []
      | first :: others => first.marked failure :: others }

end NavGraph

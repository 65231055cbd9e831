import NavGraph.Model.Analysis
import NavGraph.Text.LetterCase
import NavGraph.Text.Trim

/-!
# Journeys

At most two journeys illustrate a graph: a visitor who signs in, and one who comes back.  They
lead along three landmarks, each the first node of its sort.

## Main definitions

* `isLandmark`, `home?`, `login?`, `dashboard?` - the landmarks
* `journeys` - the journeys of a list of nodes
-/

namespace NavGraph.Graph

/-- Whether the route or the name of a node has a word in it, in any letter case. -/
def isLandmark (word : String) (n : Node) : Bool :=
  Text.contains word.toList (Text.lower n.routePath.toList) ||
    Text.contains word.toList (Text.lower n.displayName.toList)

/-- The start of the site: the first node at the root or with `home` in it. -/
def home? (nodes : List Node) : Option Node :=
  nodes.find? fun n => n.routePath == "/" || isLandmark "home" n

/-- The first node to sign in at. -/
def login? (nodes : List Node) : Option Node := nodes.find? (isLandmark "login")

/-- The first dashboard. -/
def dashboard? (nodes : List Node) : Option Node := nodes.find? (isLandmark "dashboard")

/-- The journey of a first visit. -/
def guestJourney (home login : Node) (dashboard : Option Node) : Journey where
  id := "guest-onboarding"
  name := "New User Onboarding"
  description := "First-time visitor discovers the app and signs in"
  steps := [home, login] ++ dashboard.toList
  startId := home.id
  endId := (dashboard.getD login).id
  audience := .guest

/-- The journey of a returning user. -/
def returningJourney (dashboard : Node) : Journey where
  id := "authenticated-user"
  name := "Authenticated User Flow"
  description := "Returning user accesses their account and performs tasks"
  steps := [dashboard]
  startId := dashboard.id
  endId := dashboard.id
  audience := .authenticated

/-- The journeys of a list of nodes. -/
def journeys (nodes : List Node) : List Journey :=
  let guest := match home? nodes, login? nodes with
    | some home, some login => [guestJourney home login (dashboard? nodes)]
    | _, _ => []
  guest ++ ((dashboard? nodes).map returningJourney).toList

end NavGraph.Graph

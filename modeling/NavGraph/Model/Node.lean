/-!
# Nodes and connections

The graph that an analysis builds: a node is a page, layout, dialog or other navigable unit of a
front end, a connection a way from one node to another.

## Main definitions

* `Node`, `NodeKind`, `Metadata`, `Complexity`
* `Connection`, `ConnectionKind`
-/

namespace NavGraph

/-- What a node is. -/
inductive NodeKind where
  | page
  | layout
  | modal
  | redirect
  | component
  deriving DecidableEq, Repr

/-- How a connection is taken. -/
inductive ConnectionKind where
  | navigation
  | redirect
  | modal
  | conditional
  deriving DecidableEq, Repr

/-- How much goes on in a file. -/
inductive Complexity where
  | low
  | medium
  | high
  deriving DecidableEq, Repr

/-- A way from a node to another. -/
structure Connection where
  /-- Id of the node that the connection leads to. -/
  target : String
  kind : ConnectionKind
  /-- What the user does, or what happens, to take the connection. -/
  trigger : String
  condition : Option String
  deriving DecidableEq, Repr

/-- What is known of a node beyond its place in the graph. -/
structure Metadata where
  title : String
  description : String
  hasAuth : Bool
  hasParameters : Bool
  isProtected : Bool
  complexity : Complexity
  userActions : List String
  entryPoints : List String
  deriving DecidableEq, Repr

/-- A navigable unit. -/
structure Node where
  id : String
  displayName : String
  routePath : String
  sourcePath : String
  kind : NodeKind
  connections : List Connection
  metadata : Metadata
  deriving DecidableEq, Repr

namespace NodeKind

/-- The written name. -/
def name : NodeKind → String
  | page => "page"
  | layout => "layout"
  | modal => "modal"
  | redirect => "redirect"
  | component => "component"

/-- The written name at the start of a sentence. -/
def capitalized : NodeKind → String
  | page => "Page"
  | layout => "Layout"
  | modal => "Modal"
  | redirect => "Redirect"
  | component => "Component"

/-- The kind with a written name. -/
def ofName? : String → Option NodeKind
  | "page" => some page
  | "layout" => some layout
  | "modal" => some modal
  | "redirect" => some redirect
  | "component" => some component
  | _ => none

@[simp] theorem ofName?_name (k : NodeKind) : ofName? k.name = some k := by cases k <;> rfl

end NodeKind

namespace ConnectionKind

/-- The written name. -/
def name : ConnectionKind → String
  | navigation => "navigation"
  | redirect => "redirect"
  | modal => "modal"
  | conditional => "conditional"

/-- The kind with a written name. -/
def ofName? : String → Option ConnectionKind
  | "navigation" => some navigation
  | "redirect" => some redirect
  | "modal" => some modal
  | "conditional" => some conditional
  | _ => none

@[simp] theorem ofName?_name (k : ConnectionKind) : ofName? k.name = some k := by cases k <;> rfl

end ConnectionKind

namespace Complexity

/-- The written name. -/
def name : Complexity → String
  | low => "low"
  | medium => "medium"
  | high => "high"

/-- The complexity with a written name. -/
def ofName? : String → Option Complexity
  | "low" => some low
  | "medium" => some medium
  | "high" => some high
  | _ => none

/-- The place in the order from low to high. -/
def rank : Complexity → Nat
  | low => 0
  | medium => 1
  | high => 2

@[simp] theorem ofName?_name (k : Complexity) : ofName? k.name = some k := by cases k <;> rfl

end Complexity

end NavGraph

import Mathlib.Data.List.Forall2
import NavGraph.Proofs.Graph.Connection
import NavGraph.Proofs.Graph.Grid
import NavGraph.Proofs.Report.Summary
import NavGraph.Report.Diagram

/-!
# Diagram and summary agree

The diagram of a result and its summary go through the nodes on their own: one makes lists of nodes
and edges, the other one counts.  Both say the same of the result, whatever it is: ids may come
again and connections may lead nowhere.

A node of a diagram gets its position by its id.  Since every id of the nodes has one, the search
for it never misses, which is all that could keep a diagram from being drawn.

## Main definitions

* `links` - connections with the ids they start from
* `IsNodeItem`, `IsEdgeItem`, `IsDrawing` - what the written form of a diagram shows
* `Figures.AreDrawn` - figures that the written form of a diagram tells

## Main statements

* `isDrawing_ofAnalysis` - the written form of a diagram shows all nodes and connections
* `IsDrawing.exists_ends` - its edges have ends if the connections have
* `summary_agrees` - the summary tells the figures that the diagram tells
-/

namespace NavGraph.Report

open NavGraph.Graph

/-- Connections of nodes with the ids that they start from: node by node, and of a node in its
order. -/
def links (nodes : List Node) : List (String × Connection) :=
  nodes.flatMap fun n => n.connections.map fun c => (n.id, c)

/-- The written form of a node in a diagram of nodes with some ids. -/
structure IsNodeItem (ids : List String) (n : Node) (item : Json) : Prop where
  id : item.field? "id" = some (.string n.id)
  /-- The node has a position, and the position is there. -/
  position : ∃ p, (layout .standard ids).lookup n.id = some p ∧
    item.field? "position" = some (positionJson p)

/-- The written form of a connection that starts from an id. -/
structure IsEdgeItem (link : String × Connection) (item : Json) : Prop where
  source : item.field? "source" = some (.string link.1)
  target : item.field? "target" = some (.string link.2.target)
  kind : item.field? "type" = some (.string link.2.kind.name)
  trigger : item.field? "trigger" = some (.string link.2.trigger)
  condition : item.field? "condition" = some (.ofOption link.2.condition)

/-- **A written diagram of a result**: one item for each node and one for each connection, in their
order. -/
structure IsDrawing (a : Analysis) (payload : Json) (nodeItems edgeItems : List Json) : Prop where
  nodes_eq : payload.field? "nodes" = some (.array nodeItems)
  edges_eq : payload.field? "edges" = some (.array edgeItems)
  nodes : List.Forall₂ (IsNodeItem (a.nodes.map (·.id))) a.nodes nodeItems
  edges : List.Forall₂ IsEdgeItem (links a.nodes) edgeItems

/-- What a written diagram says under a name of its figures. -/
def stat? (payload : Json) (name : String) : Option Json :=
  (payload.field? "stats").bind (·.field? name)

/-- **Figures that a written diagram tells.** -/
structure Figures.AreDrawn (f : Figures) (payload : Json) (nodeItems : List Json) : Prop where
  nodes : f.nodes = nodeItems.length
  connections : stat? payload "connections" = some (.int f.connections)
  routes : stat? payload "routes" = some (.int f.routes)
  analyzedFiles : stat? payload "analyzed_files" = some (.int f.analyzedFiles)
  totalFiles : stat? payload "total_files" = some (.int f.totalFiles)
  isDemo : payload.field? "is_demo" = some (.bool f.isDemo)

variable {a : Analysis} {payload : Json} {nodeItems edgeItems : List Json}

/-! ### Nodes and edges -/

theorem edgesOf_eq (nodes : List Node) :
    edgesOf nodes = (links nodes).map fun link => ⟨link.1, link.2⟩ := by
  rw [edgesOf, links, List.map_flatMap]
  simp only [List.map_map, Function.comp_def]

/-- Edges and connections are counted alike. -/
theorem length_edgesOf (nodes : List Node) : (edgesOf nodes).length = connectionCount nodes := by
  rw [edgesOf, connectionCount, List.length_flatMap, List.length_flatMap]
  simp only [List.length_map]

/-- **The written form of a diagram shows all nodes and all connections**, and it finds a position
for every node. -/
theorem isDrawing_ofAnalysis (a : Analysis) :
    IsDrawing a (Diagram.ofAnalysis a).toJson
      ((Diagram.ofAnalysis a).nodes.map DiagramNode.toJson)
      ((edgesOf a.nodes).map Edge.toJson) := by
  refine ⟨rfl, rfl, ?_, ?_⟩
  · rw [Diagram.ofAnalysis, List.map_map, List.forall₂_map_right_iff, List.forall₂_same]
    intro n hn
    obtain ⟨p, hp⟩ := Option.isSome_iff_exists.1
      ((isSome_lookup_layout .standard).2 (List.mem_map_of_mem (f := (·.id)) hn))
    refine ⟨rfl, p, hp, ?_⟩
    simp only [Function.comp_apply, hp, Option.getD_some]
    rfl
  · rw [edgesOf_eq, List.map_map, List.forall₂_map_right_iff, List.forall₂_same]
    exact fun link _ => ⟨rfl, rfl, rfl, rfl, rfl⟩

/-- Every node has its item. -/
theorem IsDrawing.exists_nodeItem (h : IsDrawing a payload nodeItems edgeItems) {n : Node}
    (hn : n ∈ a.nodes) : ∃ item ∈ nodeItems, item.field? "id" = some (.string n.id) := by
  obtain ⟨i, hi, rfl⟩ := List.mem_iff_getElem.1 hn
  have hitem := h.nodes.length_eq ▸ hi
  exact ⟨nodeItems[i], List.getElem_mem hitem, (h.nodes.get hi hitem).id⟩

/-- **Edges start and end at items of nodes** if no connection leads out of the result. -/
theorem IsDrawing.exists_ends (h : IsDrawing a payload nodeItems edgeItems)
    (hchecked : checkConnections a.nodes = .ok ()) {edge : Json} (hedge : edge ∈ edgeItems) :
    ∃ start ∈ nodeItems, ∃ stop ∈ nodeItems, edge.field? "source" = start.field? "id" ∧
      edge.field? "target" = stop.field? "id" := by
  obtain ⟨i, hi, rfl⟩ := List.mem_iff_getElem.1 hedge
  have hlink := h.edges.length_eq.symm ▸ hi
  have hshown : IsEdgeItem (links a.nodes)[i] edgeItems[i] := h.edges.get hlink hi
  obtain ⟨n, hn, hc⟩ := List.mem_flatMap.1 (List.getElem_mem hlink)
  obtain ⟨c, hc, heq⟩ := List.mem_map.1 hc
  rw [← heq] at hshown
  obtain ⟨m, hm, htarget⟩ := checkConnections_eq_ok_iff.1 hchecked n hn c hc
  obtain ⟨start, hstart, hsource⟩ := h.exists_nodeItem hn
  obtain ⟨stop, hstop, hid⟩ := h.exists_nodeItem hm
  refine ⟨start, hstart, stop, hstop, ?_, ?_⟩
  · rw [hshown.source, hsource]
  · rw [hshown.target, hid, htarget]

/-! ### Figures -/

theorem areDrawn_figuresOf (a : Analysis) :
    (figuresOf a).AreDrawn (Diagram.ofAnalysis a).toJson
      ((Diagram.ofAnalysis a).nodes.map DiagramNode.toJson) where
  nodes := by
    rw [List.length_map]
    exact (List.length_map _).symm
  connections := by
    rw [figuresOf, ← length_edgesOf]
    rfl
  routes := rfl
  analyzedFiles := rfl
  totalFiles := rfl
  isDemo := rfl

theorem stat?_pages (a : Analysis) : stat? (Diagram.ofAnalysis a).toJson "pages" =
    some (.int (((kindCounts a.nodes).lookup .page).getD 0)) := by
  rw [getD_lookup_kindCounts, List.countP_eq_length_filter]
  rfl

/-- **Diagram and summary agree with the result and with each other**: the diagram shows its nodes,
all with positions, and its connections; the header of the summary tells the figures that the
diagram tells, and no others; the counts in the line below it add up to the nodes of the diagram and
give its pages; and edges have ends if connections have. -/
theorem summary_agrees (a : Analysis) : ∃ nodeItems edgeItems figures counts,
    IsDrawing a (Diagram.ofAnalysis a).toJson nodeItems edgeItems ∧
    figures.AreDrawn (Diagram.ofAnalysis a).toJson nodeItems ∧
    (∃ lines, summary a = joined "\n" (summaryHeader a :: (kindLines a.nodes ++ lines))) ∧
    (∀ f : Figures, summaryHeader a = f.header a.repoName a.repoUrl ↔ f = figures) ∧
    (demoFlag.toList <:+ (summaryHeader a).toList ↔
      (Diagram.ofAnalysis a).toJson.field? "is_demo" = some (.bool true)) ∧
    (∀ c, kindLines a.nodes = kindsText c ↔ c = counts) ∧
    stat? (Diagram.ofAnalysis a).toJson "pages" = some (.int ((counts.lookup .page).getD 0)) ∧
    (counts.map (·.2)).sum = nodeItems.length ∧
    (checkConnections a.nodes = .ok () → ∀ edge ∈ edgeItems, ∃ start ∈ nodeItems,
      ∃ stop ∈ nodeItems, edge.field? "source" = start.field? "id" ∧
        edge.field? "target" = stop.field? "id") := by
  have hdrawing := isDrawing_ofAnalysis a
  have hdrawn := areDrawn_figuresOf a
  refine ⟨_, _, figuresOf a, kindCounts a.nodes, hdrawing, hdrawn, exists_lines_summary a,
    fun f => ?_, ?_, fun c => ?_, stat?_pages a, ?_,
    fun hchecked edge => hdrawing.exists_ends hchecked⟩
  · rw [summaryHeader_eq]
    exact ⟨fun h => (Figures.header_inj h).symm, fun h => h ▸ rfl⟩
  · rw [summaryHeader_eq, Figures.demoFlag_suffix_iff, hdrawn.isDemo, Option.some.injEq,
      Json.bool.injEq]
  · rw [kindLines_eq]
    exact ⟨fun h => (kindsText_inj h).symm, fun h => h ▸ rfl⟩
  · rw [sum_kindCounts, ← hdrawn.nodes]
    rfl

end NavGraph.Report

import NavGraph.Demo.Dataset
import NavGraph.Demo.Provider
import NavGraph.Graph.Journeys
import NavGraph.Proofs.Graph.Connection
import NavGraph.Proofs.Graph.Identity

/-!
# Results that hold together

A result **holds together** if whatever it refers to is in it: connections and journeys lead to
its nodes, and its table of routes is one of its pages.

## Main definitions

* `Analysis.IsSound` - a result that holds together
* `Builder.IsUnconnected` - a graph before its second pass

## Main statements

* `isSound_of_connect` - the result of a graph that was connected once holds together
* `isSound_demoAnalysis`, `IsSound.standIn` - so do the demonstration data, also when they stand in
  for a failed run
-/

namespace NavGraph

open NavGraph.Graph NavGraph.Source

/-- A result that **holds together**. -/
structure Analysis.IsSound (r : Analysis) : Prop where
  /-- No two nodes share an id. -/
  ids_nodup : (r.nodes.map (·.id)).Nodup
  /-- Connections lead to nodes of the result. -/
  connected : ∀ n ∈ r.nodes, ∀ c ∈ n.connections, ∃ m ∈ r.nodes, m.id = c.target
  /-- Journeys start, pass and end at nodes of the result. -/
  journeys : ∀ j ∈ r.journeys, (∃ m ∈ r.nodes, m.id = j.startId) ∧
    (∃ m ∈ r.nodes, m.id = j.endId) ∧ ∀ s ∈ j.steps, ∃ m ∈ r.nodes, m.id = s.id
  /-- Entries of the table of routes are pages of the result. -/
  routes : ∀ e ∈ r.routes, ∃ n ∈ r.nodes,
    n.kind = .page ∧ e.path = n.routePath ∧ e.sourcePath = n.sourcePath
  /-- No more files were analyzed than there are. -/
  counts : r.analyzedFiles ≤ r.totalFiles

/-! ### Graphs that were connected once -/

namespace Graph

/-- No node has a connection yet. -/
def Builder.IsUnconnected (b : Builder) : Prop := ∀ n ∈ b.nodes, n.connections = []

theorem Builder.isUnconnected_empty : Builder.empty.IsUnconnected := by
  intro n hn
  cases hn

theorem Builder.IsUnconnected.add {b : Builder} (h : b.IsUnconnected) {analysis : FileAnalysis}
    (ha : ∀ n ∈ analysis.nodes, n.connections = []) : (b.add analysis).IsUnconnected := by
  refine Builder.add_induction analysis h fun b n hn hb => ?_
  intro m hm
  rcases List.mem_append.1 hm with hm | hm
  · exact hb m hm
  · rw [List.mem_singleton.1 hm]
    exact ha n hn

/-- Files that were just analyzed have no connections. -/
theorem connections_of_mem_analyzeFile {path text : String} {n : Node}
    (h : n ∈ (analyzeFile path text).nodes) : n.connections = [] := by
  obtain ⟨d, -, rfl⟩ := List.mem_map.1 h
  rfl

/-- A graph without connections is never refused by the second pass. -/
theorem Builder.IsUnconnected.resolve_ok {b : Builder} (h : b.IsUnconnected) :
    b.resolve.2 = .ok () := by
  rw [Builder.resolve_ok_iff]
  intro n hn c hc
  rw [h n hn] at hc
  cases hc

/-! ### Routes and journeys -/

theorem exists_page_of_mem_routes {b : Builder} {e : RouteEntry} (h : e ∈ b.routes) :
    ∃ n ∈ b.nodes, n.kind = .page ∧ e.path = n.routePath ∧ e.sourcePath = n.sourcePath := by
  obtain ⟨n, hn, rfl⟩ := List.mem_map.1 h
  obtain ⟨hmem, hrouted⟩ := List.mem_filter.1 hn
  have hkind : n.kind = .page := by
    simp only [Builder.isRouted, Bool.and_eq_true, beq_iff_eq] at hrouted
    exact hrouted.1.1
  exact ⟨n, hmem, hkind, rfl, rfl⟩

/-- Journeys visit nodes of the list, and start and end at nodes of the list. -/
theorem visits_of_mem_journeys {nodes : List Node} {j : Journey} (h : j ∈ journeys nodes) :
    (∃ m ∈ nodes, m.id = j.startId) ∧ (∃ m ∈ nodes, m.id = j.endId) ∧ ∀ s ∈ j.steps, s ∈ nodes := by
  rcases List.mem_append.1 h with h | h
  · split at h
    · rename_i home login hhome hlogin
      have hhome := List.mem_of_find?_eq_some hhome
      have hlogin := List.mem_of_find?_eq_some hlogin
      rw [List.mem_singleton.1 h]
      cases hdashboard : dashboard? nodes with
      | none =>
          refine ⟨⟨home, hhome, rfl⟩, ⟨login, hlogin, rfl⟩, ?_⟩
          simp [guestJourney, hhome, hlogin]
      | some dashboard =>
          have hdashboard := List.mem_of_find?_eq_some hdashboard
          refine ⟨⟨home, hhome, rfl⟩, ⟨dashboard, hdashboard, rfl⟩, ?_⟩
          simp [guestJourney, hhome, hlogin, hdashboard]
    · cases h
  · cases hdashboard : dashboard? nodes with
    | none => simp [hdashboard] at h
    | some dashboard =>
        have hmem := List.mem_of_find?_eq_some hdashboard
        simp only [hdashboard, Option.map_some, Option.toList_some, List.mem_singleton] at h
        subst h
        refine ⟨⟨dashboard, hmem, rfl⟩, ⟨dashboard, hmem, rfl⟩, ?_⟩
        simp [returningJourney, hmem]

end Graph

/-- **The result of a graph that was connected once holds together**, whatever else it says. -/
theorem Analysis.isSound_of_connect {b : Builder} (hid : b.IsIdentified) (hb : b.IsUnconnected)
    {r : Analysis} (hnodes : r.nodes = b.connect.nodes) (hroutes : r.routes = b.connect.routes)
    (hjourneys : r.journeys = Graph.journeys b.connect.nodes)
    (hcounts : r.analyzedFiles ≤ r.totalFiles) : r.IsSound where
  ids_nodup := by
    rw [hnodes, ← hid.connect.ids_eq]
    exact hid.connect.nodup
  connected := by
    rw [hnodes]
    exact checkConnections_eq_ok_iff.1 hb.resolve_ok
  journeys := by
    rw [hnodes, hjourneys]
    intro j hj
    obtain ⟨hstart, hend, hsteps⟩ := visits_of_mem_journeys hj
    exact ⟨hstart, hend, fun s hs => ⟨s, hsteps s hs, rfl⟩⟩
  routes := by
    rw [hnodes, hroutes]
    exact fun e he => exists_page_of_mem_routes he
  counts := hcounts

/-! ### Demonstration data -/

theorem Analysis.isSound_demoAnalysis : Demo.demoAnalysis.IsSound where
  ids_nodup := by decide
  connected := by decide
  journeys := by decide
  routes := by decide
  counts := by decide

/-- Standing in changes no more than the description of the first node: whatever else is read off
the nodes stays. -/
theorem Analysis.map_nodes_standIn {α : Type} (dataset : Analysis) (url name : String) (f : Failure)
    (now : Time.Timestamp) (g : Node → α) (hg : ∀ n : Node, g (n.marked f) = g n) :
    (dataset.standIn url name f now).nodes.map g = dataset.nodes.map g := by
  unfold standIn
  cases dataset.nodes with
  | nil => rfl
  | cons first others => simp [hg]

/-- **A result that holds together still does when it stands in for a failed run.** -/
theorem Analysis.IsSound.standIn {dataset : Analysis} (h : dataset.IsSound) (url name : String)
    (f : Failure) (now : Time.Timestamp) : (dataset.standIn url name f now).IsSound := by
  have hmap {α : Type} (g : Node → α) := dataset.map_nodes_standIn url name f now g
  have hid : ∀ id, (∃ m ∈ dataset.nodes, m.id = id) →
      ∃ m ∈ (dataset.standIn url name f now).nodes, m.id = id := by
    intro id hmem
    rw [← List.mem_map] at hmem ⊢
    rwa [hmap (·.id) fun _ => rfl]
  constructor
  case ids_nodup =>
    rw [hmap (·.id) fun _ => rfl]
    exact h.ids_nodup
  case connected =>
    intro n hn c hc
    -- A node of the new list has the connections of a node of the old one.
    have hmem := List.mem_map_of_mem (f := Node.connections) hn
    rw [hmap (·.connections) fun _ => rfl] at hmem
    obtain ⟨m, hm, heq⟩ := List.mem_map.1 hmem
    rw [← heq] at hc
    exact hid _ (h.connected m hm c hc)
  case journeys =>
    intro j hj
    obtain ⟨hstart, hend, hsteps⟩ := h.journeys j hj
    exact ⟨hid _ hstart, hid _ hend, fun s hs => hid _ (hsteps s hs)⟩
  case routes =>
    intro e he
    obtain ⟨n, hn, hpage⟩ := h.routes e he
    have hmem := List.mem_map_of_mem (f := fun n : Node => (n.kind, n.routePath, n.sourcePath)) hn
    rw [← hmap (fun n : Node => (n.kind, n.routePath, n.sourcePath)) fun _ => rfl] at hmem
    obtain ⟨m, hm, heq⟩ := List.mem_map.1 hmem
    simp only [Prod.mk.injEq] at heq
    obtain ⟨hkind, hroute, hsource⟩ := heq
    exact ⟨m, hm, by rw [hkind, hroute, hsource]; exact hpage⟩
  case counts => exact h.counts

end NavGraph

import Mathlib.Data.List.Induction
import Mathlib.Tactic.Push
import NavGraph.Proofs.Graph.Identity

/-!
# Connections of a graph

The second pass looks routes up in an index and references up in a table of files.  This module
says what it does without either: each reference of the file that was added last under a node's
path leads to the first node with the route that it names.

## Main definitions

* `BuildStep`, `Builder.after` - what is done to a graph, and the graph after a list of steps
* `latestAnalysis?` - the analysis that was added last under a path
* `followed` - the connections along references, found by a search through all nodes

## Main statements

* `lookup_routeIndexOf` - looking a route up in the index is searching the nodes
* `lookup_files_after` - looking a path up in the table of files is searching the steps backwards
* `resolve_after` - the second pass after any steps, and when it refuses the graph

## Design notes

The index is built once and each node then looks into it, so the search through the nodes is done
again and again only in the statement.  Connections do not enter the index: the second pass may be
repeated, and finds the same targets again.
-/

namespace NavGraph.Graph

open Source

/-! ### The route index -/

namespace Builder

/-- An index that was begun before answers first. -/
theorem lookup_foldl_routeIndex (nodes : List Node) (index : List (String × String)) (r : String) :
    (nodes.foldl (fun index n =>
      if (index.lookup n.routePath).isSome then index else index ++ [(n.routePath, n.id)])
      index).lookup r =
      (index.lookup r).or ((nodes.find? fun n => n.routePath == r).map (·.id)) := by
  induction nodes generalizing index with
  | nil => simp
  | cons n nodes ih =>
      rw [List.foldl_cons, ih, List.find?_cons]
      by_cases hr : n.routePath = r
      · -- The node has the route: it begins the entry, unless an earlier node has.
        subst hr
        cases hindex : index.lookup n.routePath with
        | some id => simp [hindex]
        | none => simp [hindex, List.lookup_append]
      · have hother : (n.routePath == r) = false := beq_false_of_ne hr
        have hskip : (r == n.routePath) = false := beq_false_of_ne (Ne.symm hr)
        rw [hother]
        split
        · rfl
        · simp [List.lookup_append, List.lookup_cons, hskip]

/-- **Looking a route up in the index is searching the nodes** for the first that has it. -/
theorem lookup_routeIndexOf (nodes : List Node) (r : String) :
    (routeIndexOf nodes).lookup r = (nodes.find? fun n => n.routePath == r).map (·.id) := by
  rw [routeIndexOf, lookup_foldl_routeIndex]
  simp

end Builder

/-! ### What the second pass adds -/

/-- The connection along a reference to the first node with the route that it names. -/
def follow? (nodes : List Node) (r : Reference) : Option Connection :=
  (nodes.find? fun n => n.routePath == normalizeTarget r.target).map fun n =>
    ⟨n.id, r.kind, r.trigger, r.condition⟩

/-- Connections along references in order; a reference that names no node's route has none. -/
def followed (nodes : List Node) (references : List Reference) : List Connection :=
  references.filterMap (follow? nodes)

namespace Builder

theorem connection?_routeIndex (b : Builder) (r : Reference) :
    connection? b.routeIndex r = follow? b.nodes r := by
  rw [connection?, follow?, routeIndex, lookup_routeIndexOf, Option.map_map]
  rfl

theorem newConnections_eq_followed (b : Builder) (n : Node) :
    b.newConnections n = followed b.nodes (b.referencesOf n) := by
  rw [newConnections, followed]
  congr 1
  funext r
  exact b.connection?_routeIndex r

end Builder

/-- A followed reference leads to a node. -/
theorem exists_node_of_mem_followed {nodes : List Node} {references : List Reference}
    {c : Connection} (h : c ∈ followed nodes references) : ∃ n ∈ nodes, n.id = c.target := by
  obtain ⟨r, -, hr⟩ := List.mem_filterMap.1 h
  obtain ⟨n, hn, rfl⟩ := Option.map_eq_some_iff.1 hr
  exact ⟨n, List.mem_of_find?_eq_some hn, rfl⟩

/-! ### The check -/

/-- The check finds a connection out of the graph exactly if there is one. -/
theorem danglingConnection?_eq_none_iff {nodes : List Node} :
    danglingConnection? nodes = none ↔
      ∀ n ∈ nodes, ∀ c ∈ n.connections, ∃ m ∈ nodes, m.id = c.target := by
  simp [danglingConnection?, hasId]

theorem checkConnections_eq_ok_iff {nodes : List Node} :
    checkConnections nodes = .ok () ↔
      ∀ n ∈ nodes, ∀ c ∈ n.connections, ∃ m ∈ nodes, m.id = c.target := by
  rw [← danglingConnection?_eq_none_iff, checkConnections]
  cases danglingConnection? nodes with
  | none => simp
  | some found => simp

/-- The check refuses a graph for one reason only. -/
theorem checkConnections_ne_ok_iff {nodes : List Node} :
    checkConnections nodes ≠ .ok () ↔
      ∃ source target, checkConnections nodes = .error (.danglingConnection source target) := by
  rw [checkConnections]
  cases danglingConnection? nodes with
  | none => simp
  | some found => simp

namespace Builder

/-- The nodes that the second pass leaves have the ids that they had before it. -/
theorem exists_id_connect_iff (b : Builder) (id : String) :
    (∃ m ∈ b.connect.nodes, m.id = id) ↔ ∃ m ∈ b.nodes, m.id = id := by
  constructor
  · rintro ⟨m, hm, hid⟩
    obtain ⟨n, hn, rfl⟩ := List.mem_map.1 hm
    exact ⟨n, hn, hid⟩
  · rintro ⟨n, hn, hid⟩
    exact ⟨_, List.mem_map_of_mem hn, hid⟩

/-- **When the second pass refuses a graph**: a connection that was there before leads out of it.
What the second pass adds never does. -/
theorem resolve_ok_iff (b : Builder) :
    b.resolve.2 = .ok () ↔ ∀ n ∈ b.nodes, ∀ c ∈ n.connections, ∃ m ∈ b.nodes, m.id = c.target := by
  rw [resolve, checkConnections_eq_ok_iff]
  constructor
  · intro h n hn c hc
    have hkept : c ∈ n.connections ++ b.newConnections n := List.mem_append_left _ hc
    exact (b.exists_id_connect_iff _).1 (h _ (List.mem_map_of_mem hn) c hkept)
  · intro h m hm c hc
    obtain ⟨n, hn, rfl⟩ := List.mem_map.1 hm
    refine (b.exists_id_connect_iff _).2 ?_
    -- What was there before is what is assumed of; what is new follows a reference to a node.
    rcases List.mem_append.1 hc with hold | hnew
    · exact h n hn c hold
    · rw [newConnections_eq_followed] at hnew
      exact exists_node_of_mem_followed hnew

end Builder

/-! ### Graphs that steps lead to -/

/-- What is done to a graph: a file is added, or the second pass is made.  Files may come from
anywhere, with whatever ids, connections and references. -/
inductive BuildStep where
  | add (analysis : FileAnalysis)
  | resolve

/-- The analysis that a step adds. -/
def BuildStep.analysis? : BuildStep → Option FileAnalysis
  | add analysis => some analysis
  | resolve => none

namespace Builder

/-- The graph after one step; a graph that the second pass refuses is kept as it was left. -/
def step (b : Builder) : BuildStep → Builder
  | .add analysis => b.add analysis
  | .resolve => b.resolve.1

/-- The graph after a list of steps. -/
def after (steps : List BuildStep) : Builder := steps.foldl step empty

end Builder

/-- The analysis that was added last under a path. -/
def latestAnalysis? (steps : List BuildStep) (path : String) : Option FileAnalysis :=
  (steps.filterMap BuildStep.analysis?).reverse.find? (·.path == path)

/-- References of the analysis that was added last under a path; none if there is no such. -/
def latestReferences (steps : List BuildStep) (path : String) : List Reference :=
  ((latestAnalysis? steps path).map (·.references)).getD []

@[simp] theorem latestAnalysis?_concat_resolve (steps : List BuildStep) (path : String) :
    latestAnalysis? (steps ++ [.resolve]) path = latestAnalysis? steps path := by
  simp [latestAnalysis?, List.filterMap_cons, BuildStep.analysis?]

theorem latestAnalysis?_concat_add (steps : List BuildStep) (analysis : FileAnalysis)
    (path : String) :
    latestAnalysis? (steps ++ [.add analysis]) path =
      if path = analysis.path then some analysis else latestAnalysis? steps path := by
  by_cases h : path = analysis.path
  · simp [latestAnalysis?, BuildStep.analysis?, h]
  · simp [latestAnalysis?, BuildStep.analysis?, h,
      beq_false_of_ne (Ne.symm h)]

namespace Builder

theorem after_concat (steps : List BuildStep) (s : BuildStep) :
    after (steps ++ [s]) = (after steps).step s := by
  simp [after]

@[simp] theorem files_addNode (analysis : FileAnalysis) (b : Builder) (n : Node) :
    (addNode analysis b n).files = b.files := rfl

@[simp] theorem files_add (b : Builder) (analysis : FileAnalysis) :
    (b.add analysis).files = Assoc.put analysis.path analysis b.files := by
  refine add_induction (P := fun c => c.files = Assoc.put analysis.path analysis b.files)
    analysis rfl ?_
  intro c n _ hc
  rw [files_addNode, hc]

/-- **Looking a path up in the table of files is searching the steps backwards.** -/
theorem lookup_files_after (steps : List BuildStep) (path : String) :
    (after steps).files.lookup path = latestAnalysis? steps path := by
  induction steps using List.reverseRecOn with
  | nil => rfl
  | append_singleton steps s ih =>
      rw [after_concat]
      cases s with
      | resolve => rw [latestAnalysis?_concat_resolve, ← ih]; rfl
      | add analysis =>
          rw [latestAnalysis?_concat_add, ← ih, step, files_add, Assoc.lookup_put]

/-- References of the analysis that was added last under the path of a node. -/
theorem referencesOf_after (steps : List BuildStep) (n : Node) :
    (after steps).referencesOf n = latestReferences steps n.sourcePath := by
  rw [referencesOf, lookup_files_after, latestReferences]

/-- **The second pass after any steps.**  Each node gets, behind the connections that it has, one
connection per reference of the analysis that was added last under its path, in order, to the first
node with the route that the reference names; nothing else about the graph changes.  The graph is
refused exactly if a connection that was there before leads to no node, and what was connected
stays either way. -/
theorem resolve_after (steps : List BuildStep) :
    let b := after steps
    b.resolve.1 =
        { b with nodes := b.nodes.map fun n =>
            { n with connections := n.connections ++
                followed b.nodes (latestReferences steps n.sourcePath) } } ∧
      after (steps ++ [.resolve]) = b.resolve.1 ∧
      ((∃ source target, b.resolve.2 = .error (.danglingConnection source target)) ↔
        ∃ n ∈ b.nodes, ∃ c ∈ n.connections, ∀ m ∈ b.nodes, m.id ≠ c.target) ∧
      (b.resolve.2 = .ok () ↔
        ∀ n ∈ b.nodes, ∀ c ∈ n.connections, ∃ m ∈ b.nodes, m.id = c.target) := by
  intro b
  refine ⟨?_, ?_, ?_, b.resolve_ok_iff⟩
  · have hnew : ∀ n, b.newConnections n =
        followed b.nodes (latestReferences steps n.sourcePath) := by
      intro n
      rw [newConnections_eq_followed, referencesOf_after]
    simp only [resolve, connect, hnew]
  · exact after_concat steps .resolve
  · calc (∃ source target, b.resolve.2 = .error (.danglingConnection source target))
        ↔ b.resolve.2 ≠ .ok () := checkConnections_ne_ok_iff.symm
      _ ↔ ∃ n ∈ b.nodes, ∃ c ∈ n.connections, ∀ m ∈ b.nodes, m.id ≠ c.target := by
          rw [Ne, b.resolve_ok_iff]
          push Not
          rfl

end Builder

end NavGraph.Graph

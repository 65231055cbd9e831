import NavGraph.Proofs.Graph.Assignment
import NavGraph.Proofs.Graph.Connection

/-!
# Graphs that grow

More files leave a graph as it is and only add to it, and that is so for its connections too: where
the second pass is made later, with files of other paths behind those that were there, each node
gets what it would have got before, in the same order, and perhaps more in between.

## Main statements

* `nodes_prefix_addAll` - nodes stay, in their places
* `lookup_routeIndex_addAll` - a route that has an owner keeps it
* `connections_sublist_addAll` - no connection is lost or led elsewhere
* `resolve_addAll` - the second pass before and after more files

## Design notes

Nothing is assumed of the graph that grows, not even that it was built from files.  The paths of the
files have to be new: an analysis under a path that is there takes the place of the references of
the nodes that are from it.
-/

namespace NavGraph.Graph

open Source

/-- References that were followed are followed to the same node when more nodes come behind. -/
theorem follow?_mono {nodes more : List Node} (h : nodes <+: more) {r : Reference}
    {c : Connection} (hc : follow? nodes r = some c) : follow? more r = some c := by
  obtain ⟨n, hn, rfl⟩ := Option.map_eq_some_iff.1 hc
  exact Option.map_eq_some_iff.2 ⟨n, h.find?_eq_some hn, rfl⟩

/-- **More nodes behind add connections and take none away.**  By induction on the references: each
is followed as before, or may be followed where it was dropped before. -/
theorem followed_sublist {nodes more : List Node} (h : nodes <+: more)
    (references : List Reference) :
    (followed nodes references).Sublist (followed more references) := by
  induction references with
  | nil => exact List.Sublist.refl []
  | cons r references ih =>
    rw [followed, followed, List.filterMap_cons, List.filterMap_cons]
    cases hr : follow? nodes r with
    | some c =>
      rw [follow?_mono h hr]
      exact ih.cons_cons c
    | none =>
      cases follow? more r with
      | some c => exact ih.cons c
      | none => exact ih

namespace Builder

variable {b : Builder} {files : List FileAnalysis}

theorem nodes_prefix_addAll (b : Builder) (files : List FileAnalysis) :
    b.nodes <+: (b.addAll files).nodes := by
  induction files generalizing b with
  | nil => exact List.prefix_rfl
  | cons file files ih => exact (b.nodes_prefix_add file).trans (ih (b.add file))

/-- The file that is known under a path stays the same while files of other paths are added. -/
theorem lookup_files_addAll {path : String} (h : ∀ file ∈ files, file.path ≠ path) :
    (b.addAll files).files.lookup path = b.files.lookup path := by
  induction files generalizing b with
  | nil => rfl
  | cons file files ih =>
    obtain ⟨hfile, hfiles⟩ := List.forall_mem_cons.1 h
    rw [addAll_cons, ih hfiles, files_add, Assoc.lookup_put, if_neg (Ne.symm hfile)]

/-- **A route that has an owner keeps it.** -/
theorem lookup_routeIndex_addAll {route id : String} (h : b.routeIndex.lookup route = some id) :
    (b.addAll files).routeIndex.lookup route = some id := by
  rw [routeIndex, lookup_routeIndexOf] at h ⊢
  obtain ⟨n, hn, rfl⟩ := Option.map_eq_some_iff.1 h
  exact Option.map_eq_some_iff.2 ⟨n, (b.nodes_prefix_addAll files).find?_eq_some hn, rfl⟩

section

variable (hnew : ∀ file ∈ files, b.files.lookup file.path = none)

include hnew

/-- A node whose file is known has the same references before and after. -/
theorem referencesOf_addAll {n : Node} {file : FileAnalysis}
    (hfile : b.files.lookup n.sourcePath = some file) :
    (b.addAll files).referencesOf n = b.referencesOf n := by
  have hother : ∀ file' ∈ files, file'.path ≠ n.sourcePath := by
    intro file' hmem hpath
    have hnone := hnew file' hmem
    rw [hpath, hfile] at hnone
    cases hnone
  rw [referencesOf, referencesOf, lookup_files_addAll hother]

/-- **No connection is lost or led elsewhere.** -/
theorem connections_sublist_addAll (n : Node) :
    (b.newConnections n).Sublist ((b.addAll files).newConnections n) := by
  rw [newConnections_eq_followed, newConnections_eq_followed]
  cases hfile : b.files.lookup n.sourcePath with
  | some file =>
    rw [referencesOf_addAll hnew hfile]
    exact followed_sublist (b.nodes_prefix_addAll files) _
  | none =>
    -- Without its file a node has no references yet, whatever it may get later.
    have hnone : b.referencesOf n = [] := by rw [referencesOf, hfile]; rfl
    rw [hnone]
    exact List.nil_sublist _

end

/-- **Growing never removes or redirects a connection.**  However a graph came about, let files be
added whose paths it does not know yet.  Then its nodes stay as they are and where they are, its
routes keep their owners, and the connections that the second pass leaves a node with are, in the
same order, among those that it leaves the node with in the larger graph. -/
theorem resolve_addAll (b : Builder) (files : List FileAnalysis)
    (hnew : ∀ file ∈ files, b.files.lookup file.path = none) :
    b.nodes <+: (b.addAll files).nodes ∧
      (∀ route id, b.routeIndex.lookup route = some id →
        (b.addAll files).routeIndex.lookup route = some id) ∧
      ∀ (k : Nat) (n : Node), b.nodes[k]? = some n → ∃ before after,
        b.resolve.1.nodes[k]? = some { n with connections := before } ∧
        (b.addAll files).resolve.1.nodes[k]? = some { n with connections := after } ∧
        before.Sublist after := by
  have hbefore := b.nodes_prefix_addAll files
  refine ⟨hbefore, fun route id => lookup_routeIndex_addAll, ?_⟩
  intro k n hn
  obtain ⟨hk, -⟩ := List.getElem?_eq_some_iff.1 hn
  have hn' : (b.addAll files).nodes[k]? = some n := by
    rw [List.prefix_iff_getElem?.1 hbefore k hk, ← List.getElem?_eq_getElem hk, hn]
  refine ⟨n.connections ++ b.newConnections n,
    n.connections ++ (b.addAll files).newConnections n, ?_, ?_, ?_⟩
  · rw [resolve, connect, List.getElem?_map, hn]
    rfl
  · rw [resolve, connect, List.getElem?_map, hn']
    rfl
  · exact (connections_sublist_addAll hnew n).append_left n.connections

/-- A file with one node, and links from it. -/
def fileWith (path id route : String) (links : List String) : FileAnalysis where
  path := path
  nodes := [⟨id, id, route, path, .page, [], ⟨id, "", false, false, false, .low, [], []⟩⟩]
  references := links.map fun target => ⟨target, .navigation, "click", none, 0⟩
  bareRoutes := []

/-- A graph in which one of two links leads somewhere. -/
def startGraph : Builder :=
  empty.addAll [fileWith "start.tsx" "start-0" "/start" ["/profile", "/about"],
    fileWith "about.tsx" "about-0" "/about" []]

/-- Files that bring in what the other link names, and the same page again. -/
def laterFiles : List FileAnalysis :=
  [fileWith "profile.tsx" "profile-0" "/profile" [], fileWith "again.tsx" "about-0" "/about" []]

/-- Targets of the connections of each node after the second pass. -/
def targets (b : Builder) : List (List String) :=
  b.resolve.1.nodes.map fun n => n.connections.map (·.target)

/-- The link that led nowhere leads somewhere in the larger graph, and the other one where it led.
-/
theorem resolve_addAll_laterFiles :
    (∀ file ∈ laterFiles, startGraph.files.lookup file.path = none) ∧
      startGraph.targets = [["about-0"], []] ∧
      (startGraph.addAll laterFiles).targets = [["profile-0", "about-0"], [], [], []] ∧
      ∃ before after : List Connection, before.Sublist after ∧
        before.map (·.target) = ["about-0"] ∧ after.map (·.target) = ["profile-0", "about-0"] := by
  have hnew : ∀ file ∈ laterFiles, startGraph.files.lookup file.path = none := by decide
  have hbefore : startGraph.targets = [["about-0"], []] := by decide
  have hafter : (startGraph.addAll laterFiles).targets =
      [["profile-0", "about-0"], [], [], []] := by decide
  refine ⟨hnew, hbefore, hafter, ?_⟩
  have hlength : 0 < startGraph.nodes.length := by decide
  obtain ⟨before, after, hn, hn', hsublist⟩ := (resolve_addAll startGraph laterFiles hnew).2.2 0
    startGraph.nodes[0] (List.getElem?_eq_getElem hlength)
  refine ⟨before, after, hsublist, ?_, ?_⟩
  · have h := congrArg (fun all => all[0]?) hbefore
    simpa [targets, hn] using h
  · have h := congrArg (fun all => all[0]?) hafter
    simpa [targets, hn'] using h

end Builder

end NavGraph.Graph

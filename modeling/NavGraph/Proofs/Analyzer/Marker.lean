import NavGraph.Proofs.Analyzer.Substitution
import NavGraph.Proofs.Analyzer.Traversal
import NavGraph.Proofs.Host.Attempts
import NavGraph.Proofs.Source.Description

/-!
# The mark tells where a result is from

A result carries the mark of demonstration data if and only if demonstration data took the place of
a failure.  That those which stand in are marked is how they are made; that nothing else is marked
holds because the nodes that a scan finds are described in the words of a program.

## Main definitions

* `Node.IsDeclared` - a node that comes from a declaration of some text
* `Analysis.StandsIn` - what data say in place of a failure

## Main statements

* `seek_ensures_declared` - all nodes that a run finds come from declarations
* `standsIn_standIn` - what data say in place of a failure, field by field
* `analyze_marks` - the mark tells whether a result was found or stands in

## Design notes

Where a result is from is told by a second run, the one with nothing to fall back to: it ends in the
same result if that was found, and in a failure of the host if data stood in for it.
-/

namespace NavGraph

open NavGraph.Graph NavGraph.Source NavGraph.Run

/-! ### Nodes of declarations -/

/-- A node comes from a declaration of some text, but for its id and its connections. -/
def Node.IsDeclared (n : Node) : Prop :=
  ∃ path text, ∃ m ∈ (analyzeFile path text).nodes,
    n = { m with id := n.id, connections := n.connections }

theorem Node.isDeclared_of_mem {path text : String} {n : Node}
    (h : n ∈ (analyzeFile path text).nodes) : n.IsDeclared := ⟨path, text, n, h, rfl⟩

theorem Node.IsDeclared.with {n : Node} (h : n.IsDeclared) (id : String)
    (connections : List Connection) :
    Node.IsDeclared { n with id := id, connections := connections } := by
  obtain ⟨path, text, m, hm, heq⟩ := h
  refine ⟨path, text, m, hm, ?_⟩
  rw [heq]

theorem Node.IsDeclared.not_marked {n : Node} (h : n.IsDeclared) :
    ¬ demoMarker.toList <+: n.metadata.description.toList := by
  obtain ⟨path, text, m, hm, heq⟩ := h
  have hmetadata : n.metadata = m.metadata := by rw [heq]
  rw [hmetadata]
  exact not_marked_of_mem_analyzeFile hm

namespace Graph

/-- All nodes of a graph come from declarations. -/
def Builder.IsDeclared (b : Builder) : Prop := ∀ n ∈ b.nodes, n.IsDeclared

theorem Builder.IsDeclared.add {b : Builder} (h : b.IsDeclared) (path text : String) :
    (b.add (analyzeFile path text)).IsDeclared := by
  refine Builder.add_induction _ h fun b n hn hb => ?_
  intro m hm
  rcases List.mem_append.1 hm with hm | hm
  · exact hb m hm
  · rw [List.mem_singleton.1 hm]
    exact (Node.isDeclared_of_mem hn).with _ _

theorem Builder.IsDeclared.connect {b : Builder} (h : b.IsDeclared) : b.connect.IsDeclared := by
  intro n hn
  obtain ⟨m, hm, rfl⟩ := List.mem_map.1 hn
  exact (h m hm).with _ _

/-- Whether a connection leads out of a list of nodes is said by their ids and connections. -/
theorem danglingConnection?_eq (nodes : List Node) :
    danglingConnection? nodes =
      (nodes.map fun n => (n.id, n.connections)).findSome? fun l =>
        (l.2.find? fun c => !(nodes.map (·.id)).any (· == c.target)).map fun c => (l.1, c) := by
  simp only [danglingConnection?, hasId, List.findSome?_map, List.any_map, Function.comp_def]

end Graph

/-! ### What a run finds -/

namespace Analyzer

variable (a : Analyzer)

theorem isKept_isDeclared : ScanState.IsKept fun st => st.builder.IsDeclared where
  seen h := h
  filled path text h := h.add path text

theorem resultOf_ensures_declared (url : String) (repo : Repository) {st : ScanState}
    (h : st.builder.IsDeclared) :
    (a.resultOf url repo st).Ensures (fun result => ∀ n ∈ result.nodes, n.IsDeclared)
      fun _ => True := by
  unfold resultOf
  split
  · exact ensures_throw trivial
  · refine (resolve_ensures_connect fun _ _ => trivial).bind fun connected hconnected => ?_
    subst hconnected
    exact (ensures_log _ _ _).bind fun _ _ => ensures_pure h.connect

/-- **All nodes that a run finds come from declarations**, whatever the host says of them. -/
theorem seek_ensures_declared (repo : Repository) (url : String) :
    (a.seek repo url).Ensures (fun result => ∀ n ∈ result.nodes, n.IsDeclared)
      fun _ => True := by
  refine ((a.client.probe_ensures repo).mono_failure fun _ _ => trivial).bind fun _ _ => ?_
  refine ((a.listRoot_ensures repo).mono_failure fun _ _ => trivial).bind ?_
  rintro ⟨repo', root⟩ -
  have hempty : ScanState.empty.builder.IsDeclared := nofun
  have hscan := a.scanEntries_ensures isKept_isDeclared repo' a.nesting root hempty
  refine (hscan.mono_failure fun _ _ => trivial).bind fun st h => ?_
  exact a.resultOf_ensures_declared url repo' h

end Analyzer

/-! ### The mark -/

namespace Analysis

theorem isDemo_iff {result : Analysis} : result.isDemo = true ↔ ∃ first others,
    result.nodes = first :: others ∧
      demoMarker.toList <+: first.metadata.description.toList := by
  unfold isDemo
  cases result.nodes with
  | nil => exact iff_of_false Bool.false_ne_true (by rintro ⟨_, _, h, -⟩; cases h)
  | cons first others =>
    rw [List.isPrefixOf_iff_prefix]
    constructor
    · exact fun h => ⟨first, others, rfl, h⟩
    · rintro ⟨_, _, ⟨⟩, h⟩
      exact h

/-- A result of declarations does not carry the mark. -/
theorem isDemo_eq_false {result : Analysis} (h : ∀ n ∈ result.nodes, n.IsDeclared) :
    result.isDemo = false := by
  rw [← Bool.not_eq_true, isDemo_iff]
  rintro ⟨first, others, hnodes, hprefix⟩
  have hfirst : first ∈ result.nodes := by
    rw [hnodes]
    exact List.mem_cons_self
  exact (h first hfirst).not_marked hprefix

/-- What data with a node in them say in place of a failure: what they said before, under the
names and at the time of the request, but for the description of the first node, which begins with
the mark and the failure and ends in what it was. -/
structure StandsIn (dataset : Analysis) (url name : String) (f : Failure) (now : Time.Timestamp)
    (result : Analysis) : Prop where
  repoUrl_eq : result.repoUrl = url
  repoName_eq : result.repoName = name
  timestamp_eq : result.timestamp = now
  routes_eq : result.routes = dataset.routes
  journeys_eq : result.journeys = dataset.journeys
  totalFiles_eq : result.totalFiles = dataset.totalFiles
  analyzedFiles_eq : result.analyzedFiles = dataset.analyzedFiles
  nodes_eq : ∃ first others told, dataset.nodes = first :: others ∧
    result.nodes = { first with metadata := { first.metadata with
      description := demoMarker ++ ": " ++ f.message ++ told ++ first.metadata.description } } ::
        others
  /-- The verdict on the connections is the one on those of the data. -/
  resolved_eq : checkConnections result.nodes = checkConnections dataset.nodes

section

variable {dataset : Analysis} (hnodes : dataset.nodes ≠ []) (url name : String) (f : Failure)
  (now : Time.Timestamp)

theorem checkConnections_standIn (dataset : Analysis) :
    checkConnections (dataset.standIn url name f now).nodes = checkConnections dataset.nodes := by
  rw [checkConnections, checkConnections, danglingConnection?_eq, danglingConnection?_eq]
  rw [dataset.map_nodes_standIn url name f now (fun n => (n.id, n.connections)) fun _ => rfl,
    dataset.map_nodes_standIn url name f now (·.id) fun _ => rfl]

include hnodes

/-- **What data say in place of a failure.** -/
theorem standsIn_standIn : dataset.StandsIn url name f now (dataset.standIn url name f now) where
  repoUrl_eq := rfl
  repoName_eq := rfl
  timestamp_eq := rfl
  routes_eq := rfl
  journeys_eq := rfl
  totalFiles_eq := rfl
  analyzedFiles_eq := rfl
  nodes_eq := by
    obtain ⟨first, others, hdataset⟩ := List.exists_cons_of_ne_nil hnodes
    refine ⟨first, others, ". Showing demo analysis instead. ", hdataset, ?_⟩
    rw [standIn, hdataset]
    rfl
  resolved_eq := checkConnections_standIn url name f now dataset

theorem isDemo_standIn : (dataset.standIn url name f now).isDemo = true := by
  obtain ⟨first, others, told, -, hresult⟩ := (standsIn_standIn hnodes url name f now).nodes_eq
  rw [isDemo_iff]
  refine ⟨_, _, hresult, ?_⟩
  simp only [String.toList_append, List.append_assoc]
  exact List.prefix_append _ _

end

end Analysis

namespace Analyzer

/-- **The mark tells where a result is from.**  A run with data to fall back to, at least one node
in them, ends in a marked result if and only if without them it ends in a failure of the host, and
then the data stand in; an unmarked result is the one that is found without them. -/
theorem analyze_marks (a : Analyzer) {dataset : Analysis} (hnodes : dataset.nodes ≠ [])
    {url : String} {t : Trace} {result : Analysis}
    (hresult : (((a.withFallback (some dataset)).analyze url).outcome t).1 = .ok result) :
    (result.isDemo = true ↔ ∃ repo f, Repository.ofAddress (some url) = .ok repo ∧
      (((a.withFallback none).analyze url).outcome t).1 = .error f ∧ f.isHostFailure = true ∧
      dataset.StandsIn url repo.name f a.client.now result) ∧
    (result.isDemo = false ↔ (((a.withFallback none).analyze url).outcome t).1 = .ok result) := by
  cases hurl : Repository.ofAddress (some url) with
  | error f =>
    rw [outcome_analyze_of_error _ hurl] at hresult
    cases hresult
  | ok repo =>
    rw [outcome_analyze_with hurl] at hresult
    rw [outcome_analyze_without hurl]
    -- Both runs seek the same; what they make of it differs where that is a failure of the host.
    cases hsought : ((a.seek repo url).outcome (repo.announced t)).1 with
    | ok found =>
      rw [hsought, Analysis.insteadOf_ok] at hresult
      cases hresult
      have hunmarked : result.isDemo = false :=
        Analysis.isDemo_eq_false ((a.seek_ensures_declared repo url).value_of_ok hsought)
      refine ⟨iff_of_false (by simp [hunmarked]) ?_, iff_of_true hunmarked rfl⟩
      rintro ⟨_, _, _, h, -⟩
      cases h
    | error f =>
      rw [hsought, Analysis.insteadOf_error] at hresult
      split at hresult
      · rename_i hhost
        cases hresult
        have hmarked := Analysis.isDemo_standIn hnodes url repo.name f a.client.now
        have hstands := Analysis.standsIn_standIn hnodes url repo.name f a.client.now
        exact ⟨iff_of_true hmarked ⟨repo, f, rfl, rfl, hhost, hstands⟩,
          iff_of_false (by simp [hmarked]) nofun⟩
      · cases hresult

/-- An analyzer whose client asks once, and reaches nobody. -/
def unreachableAnalyzer : Analyzer :=
  { smallAnalyzer with client := { smallAnalyzer.client with
      host := fun _ _ => .unreachable "timeout"
      settings := { Settings.default with maxRetries := 0 } } }

theorem outcome_seek_unreachable (t : Trace) :
    ((unreachableAnalyzer.seek smallRepository "github.com/o/n").outcome t).1 =
      .error (.hostError none "timeout") := by
  have hrequest (r : Request) : (unreachableAnalyzer.client.request r).outcome t =
      (.error (.hostError none "timeout"), unreachableAnalyzer.client.asked r t) :=
    Client.outcome_attempt_last (c := unreachableAnalyzer.client) (t := t) rfl 0 1 (.inl rfl)
  rw [seek, outcome_bind, Client.probe, outcome_bind, hrequest]

/-- The data of the library stand in for a host that cannot be reached, and are marked. -/
theorem analyze_marks_unreachable :
    ∃ result, (((unreachableAnalyzer.withFallback (some Demo.demoAnalysis)).analyze
      "github.com/o/n").outcome .empty).1 = .ok result ∧ result.isDemo = true := by
  have hnodes : Demo.demoAnalysis.nodes ≠ [] := by decide
  have hurl : Repository.ofAddress (some "github.com/o/n") = .ok smallRepository := rfl
  have hbare : (((unreachableAnalyzer.withFallback none).analyze "github.com/o/n").outcome
      .empty).1 = .error (.hostError none "timeout") := by
    rw [outcome_analyze_without hurl, outcome_seek_unreachable]
  have hresult : (((unreachableAnalyzer.withFallback (some Demo.demoAnalysis)).analyze
      "github.com/o/n").outcome .empty).1 = .ok (Demo.demoAnalysis.standIn "github.com/o/n" "n"
        (.hostError none "timeout") Demo.demoAnalysis.timestamp) := by
    rw [outcome_analyze_with hurl, outcome_seek_unreachable]
    rfl
  have hmarks := analyze_marks unreachableAnalyzer hnodes hresult
  have hstands := Analysis.standsIn_standIn hnodes "github.com/o/n" "n"
    (.hostError none "timeout") Demo.demoAnalysis.timestamp
  exact ⟨_, hresult, hmarks.1.2 ⟨_, _, hurl, hbare, rfl, hstands⟩⟩

end Analyzer

end NavGraph

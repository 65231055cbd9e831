import NavGraph.Analyzer
import NavGraph.Proofs.Analysis.Sound
import NavGraph.Proofs.Host.Client

/-!
# Every result holds together

Whatever a host answers and whenever a run is asked to stop, a result that the run ends with holds
together, be it found or stood in for.

## Main definitions

* `Failure.OfScan`, `Failure.OfRun` - the failures that a scan and a whole run can end in
* `ScanState.IsKept` - what each step of a scan keeps
* `ScanState.IsSound` - the invariant of a scan

## Main statements

* `scanEntries_ensures` - a scan keeps what each of its steps keeps
* `analyze_holds_together` - results of whole runs hold together, and no connection of a graph ever
  ends a run

## Design notes

A scan that fails halfway leaves no state behind, so the invariant only has to hold where a scan
goes on.  The files that it adds may come from any listing, twice from the same path or with names
that are taken: ids are kept apart by the graph, not by the scan.
-/

namespace NavGraph

open NavGraph.Graph NavGraph.Source NavGraph.Run

/-! ### Failures -/

/-- Failures that a scan can end in. -/
inductive Failure.OfScan : Failure → Prop where
  | listing {f : Failure} (h : f.OfListing) : OfScan f
  | reading {f : Failure} (h : f.OfReading) : OfScan f
  | nested : OfScan .nestedTooDeeply

/-- Failures that a run can end in. -/
inductive Failure.OfRun : Failure → Prop where
  | scan {f : Failure} (h : f.OfScan) : OfRun f
  | reference (text : Option String) : OfRun (.invalidReference text)
  | empty (repository : String) : OfRun (.emptyResult repository)

/-- No run ends because a connection leads out of a graph. -/
theorem Failure.not_ofRun_danglingConnection (source target : String) :
    ¬ (danglingConnection source target).OfRun := by
  intro h
  cases h with
  | scan h =>
    cases h with
    | listing h =>
      cases h with
      | json h =>
        cases h with
        | request h =>
          cases h with
          | host h => cases h
    | reading h => cases h

/-- A text that is no address of a repository is told so. -/
theorem Failure.eq_of_ofAddress {address : Option String} {f : Failure}
    (h : Repository.ofAddress address = .error f) : ∃ text, f = .invalidReference text := by
  unfold Repository.ofAddress at h
  dsimp only at h
  split at h
  · cases h
    exact ⟨_, rfl⟩
  · split at h <;> cases h
    exact ⟨_, rfl⟩

/-! ### The scan -/

/-- A state of a scan with one more file, and the text that was read from it. -/
def ScanState.withFile (st : ScanState) (path text : String) : ScanState where
  builder := st.builder.add (analyzeFile path text)
  candidates := st.candidates + 1
  totalFiles := st.totalFiles + 1
  analyzedFiles := if text.isEmpty then st.analyzedFiles else st.analyzedFiles + 1

/-- A property that each step of a scan keeps: seeing a file, and taking in the text of one. -/
structure ScanState.IsKept (property : ScanState → Prop) : Prop where
  seen : ∀ {st}, property st → property { st with totalFiles := st.totalFiles + 1 }
  filled : ∀ {st} path text, property st → property (st.withFile path text)

/-- The invariant of a scan: ids are kept apart, nothing is connected yet, and no more files were
analyzed than were seen. -/
structure ScanState.IsSound (st : ScanState) : Prop where
  identified : st.builder.IsIdentified
  unconnected : st.builder.IsUnconnected
  counts : st.analyzedFiles ≤ st.totalFiles

theorem ScanState.isSound_empty : ScanState.empty.IsSound :=
  ⟨Builder.isIdentified_empty, Builder.isUnconnected_empty, Nat.le_refl 0⟩

theorem ScanState.isKept_isSound : ScanState.IsKept ScanState.IsSound where
  seen h := ⟨h.identified, h.unconnected, Nat.le_succ_of_le h.counts⟩
  filled path text h := by
    refine ⟨h.identified.add _, h.unconnected.add ?_, ?_⟩
    · exact fun n hn => connections_of_mem_analyzeFile hn
    · have hcounts := h.counts
      rw [withFile]
      dsimp only
      split <;> omega

namespace Analyzer

section

variable (a : Analyzer) {property : ScanState → Prop} (hkept : ScanState.IsKept property)

include hkept

theorem scanFile_ensures (path location : String) {st : ScanState} (h : property st) :
    (a.scanFile path location
      { st with totalFiles := st.totalFiles + 1, candidates := st.candidates + 1 }).Ensures
      property Failure.OfScan := by
  unfold scanFile
  refine ((a.client.read_ensures location).mono_failure fun _ => .reading).bind ?_
  intro text _
  refine (ensures_log _ _ _).bind fun _ _ => ?_
  exact ensures_pure (hkept.filled path text h)

theorem scanEntry_ensures {descend : String → ScanState → Run ScanState}
    (hdescend : ∀ path st, property st → (descend path st).Ensures property Failure.OfScan)
    (e : Entry) {st : ScanState} (h : property st) :
    (a.scanEntry descend e st).Ensures property Failure.OfScan := by
  unfold scanEntry
  refine (ensures_requireActive (.reading .cancelled)).bind fun _ _ => ?_
  split
  · split
    · exact (ensures_log _ _ _).bind fun _ _ => ensures_pure h
    · split
      · exact hdescend e.path st h
      · exact ensures_pure h
  · dsimp only
    split
    · exact ensures_pure (hkept.seen h)
    · exact a.scanFile_ensures hkept _ _ h

theorem scanEach_ensures {descend : String → ScanState → Run ScanState}
    (hdescend : ∀ path st, property st → (descend path st).Ensures property Failure.OfScan)
    (entries : List Entry) {st : ScanState} (h : property st) :
    (a.scanEach descend entries st).Ensures property Failure.OfScan := by
  induction entries generalizing st with
  | nil => exact ensures_pure h
  | cons e rest ih =>
    exact (a.scanEntry_ensures hkept hdescend e h).bind fun st' h' => ih h'

/-- **A scan keeps what each of its steps keeps**, by induction on the levels that it may still go
down. -/
theorem scanEntries_ensures (repo : Repository) (levels : Nat) (entries : List Entry)
    {st : ScanState} (h : property st) :
    (a.scanEntries repo levels entries st).Ensures property Failure.OfScan := by
  induction levels generalizing entries st with
  | zero => exact a.scanEach_ensures hkept (fun _ _ _ => ensures_throw .nested) entries h
  | succ levels ih =>
      refine a.scanEach_ensures hkept (fun path st' h' => ?_) entries h
      refine ((a.client.list_ensures repo path).mono_failure fun _ => .listing).bind ?_
      exact fun below _ => ih below h'

end

variable (a : Analyzer)

/-! ### The run -/

theorem listRoot_ensures (repo : Repository) :
    (a.listRoot repo).Ensures (fun _ => True) Failure.OfScan := by
  have hlist (repo : Repository) : Ensures (do return (repo, ← a.client.list repo ""))
      (fun _ => True) Failure.OfScan :=
    ((a.client.list_ensures repo "").mono_failure fun _ => .listing).bind
      fun _ _ => ensures_pure trivial
  refine (hlist repo).tryCatch fun f hf => ?_
  split
  · split
    · exact (ensures_log _ _ _).bind fun _ _ => hlist _
    · exact ensures_throw hf
  · exact ensures_throw hf

/-- The second pass connects the graph, or ends in the verdict on it. -/
theorem resolve_ensures_connect {b : Builder} {failure : Failure → Prop}
    (h : ∀ f, b.resolve.2 = .error f → failure f) :
    (resolve b).Ensures (fun connected => connected = b.connect) failure := by
  unfold resolve
  refine (ensures_log _ _ _).bind fun _ _ => ?_
  have hverdict : (ofExcept b.resolve.2).Ensures (fun _ => True) failure :=
    ensures_ofExcept (fun _ _ => trivial) h
  exact hverdict.bind fun _ _ => ensures_pure rfl

/-- Over a graph without connections the second pass never fails. -/
theorem resolve_ensures {b : Builder} (h : b.IsUnconnected) {failure : Failure → Prop} :
    (resolve b).Ensures (fun connected => connected = b.connect) failure := by
  refine resolve_ensures_connect fun f hf => ?_
  rw [h.resolve_ok] at hf
  cases hf

theorem resultOf_ensures (url : String) (repo : Repository) {st : ScanState} (h : st.IsSound) :
    (a.resultOf url repo st).Ensures Analysis.IsSound Failure.OfRun := by
  unfold resultOf
  split
  · exact ensures_throw (.empty repo.name)
  · refine (resolve_ensures h.unconnected).bind fun connected hc => ?_
    subst hc
    refine (ensures_log _ _ _).bind fun _ _ => ensures_pure ?_
    exact Analysis.isSound_of_connect h.identified h.unconnected rfl rfl rfl
      (Int.ofNat_le.2 h.counts)

theorem explore_ensures (url : String) (repo : Repository) :
    (a.explore url repo).Ensures Analysis.IsSound Failure.OfRun := by
  unfold explore
  refine ((a.listRoot_ensures repo).mono_failure fun _ => .scan).bind ?_
  rintro ⟨repo', root⟩ -
  have hscan := a.scanEntries_ensures ScanState.isKept_isSound repo' a.nesting root
    ScanState.isSound_empty
  exact (hscan.mono_failure fun _ => .scan).bind fun st h => a.resultOf_ensures url repo' h

/-- A result that stands in holds together if the data that it is made of do. -/
theorem recover_ensures (hfallback : ∀ dataset, a.fallback = some dataset → dataset.IsSound)
    (url : String) (repo : Repository) {f : Failure} (hf : f.OfRun) :
    (a.recover url repo f).Ensures Analysis.IsSound Failure.OfRun := by
  unfold recover
  split
  · exact ensures_throw hf
  · rename_i dataset hdataset
    split
    · refine (ensures_log _ _ _).bind fun _ _ => ?_
      exact ensures_pure ((hfallback dataset hdataset).standIn _ _ _ _)
    · exact ensures_throw hf

theorem analyze_ensures (hfallback : ∀ dataset, a.fallback = some dataset → dataset.IsSound)
    (url : String) : (a.analyze url).Ensures Analysis.IsSound Failure.OfRun := by
  unfold analyze
  refine Ensures.bind (ensures_ofExcept (fun _ _ => trivial) ?_) fun repo (_ : True) => ?_
  · intro f hf
    obtain ⟨text, rfl⟩ := Failure.eq_of_ofAddress hf
    exact .reference text
  · refine (ensures_log _ _ _).bind fun _ _ => ?_
    refine Ensures.tryCatch ?_ fun f hf => a.recover_ensures hfallback url repo hf
    refine ((a.client.probe_ensures repo).mono_failure fun _ h => ?_).bind ?_
    · exact .scan (.listing (.json h))
    · exact fun _ _ => a.explore_ensures url repo

/-- **Results of whole runs hold together**, on every host, under every pair of signals, without
demonstration data or with those of the library; and a run that has no result does not owe that to
a connection out of its graph. -/
theorem analyze_holds_together (client : Client) (cancelled : Signal) (demo : Bool) (nesting : Nat)
    (url : String) (t : Trace) :
    let a : Analyzer := ⟨client, cancelled, if demo then some Demo.demoAnalysis else none, nesting⟩
    match ((a.analyze url).outcome t).1 with
    | .ok result => result.IsSound
    | .error f => ∀ source target, f ≠ .danglingConnection source target := by
  intro a
  have hfallback : ∀ dataset, a.fallback = some dataset → dataset.IsSound := by
    intro dataset h
    cases demo with
    | false => cases h
    | true =>
        cases h
        exact Analysis.isSound_demoAnalysis
  have h := a.analyze_ensures hfallback url
  cases ho : ((a.analyze url).outcome t).1 with
  | ok result => exact h.value_of_ok ho
  | error f =>
    rintro source target rfl
    exact Failure.not_ofRun_danglingConnection source target (h.failure_of_error ho)

end Analyzer

end NavGraph

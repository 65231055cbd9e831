import NavGraph.Proofs.Analyzer.Equations

/-!
# Demonstration data in place of failures

What there is to fall back to changes nothing about a run but its outcome, and of the outcome
nothing but the failures of the host.

## Main definitions

* `Analyzer.withFallback` - an analyzer with something else, or nothing, to fall back to
* `Analysis.insteadOf` - what data make of the outcome of a run that had nothing to fall back to

## Main statements

* `seek_withFallback` - what a run seeks does not depend on what it could fall back to
* `analyze_withFallback` - data take the place of exactly the failures of the host

## Design notes

The comparison is between two runs from one trace, so it says of everything that the host answered
before the failure that it was the same for both: a probe, a root listing, or half a scan.
-/

namespace NavGraph

open Run

/-- What data make of the outcome of a run that had nothing to fall back to: they stand in for a
failure of the host, and leave every other outcome as it is. -/
def Analysis.insteadOf (dataset : Analysis) (url name : String) (now : Time.Timestamp) :
    Except Failure Analysis → Except Failure Analysis
  | .error (.repositoryNotFound message) =>
      .ok (dataset.standIn url name (.repositoryNotFound message) now)
  | .error (.rateLimited reset) => .ok (dataset.standIn url name (.rateLimited reset) now)
  | .error (.hostError status detail) =>
      .ok (dataset.standIn url name (.hostError status detail) now)
  | outcome => outcome

section

variable (dataset : Analysis) (url name : String) (now : Time.Timestamp)

@[simp] theorem Analysis.insteadOf_ok (result : Analysis) :
    dataset.insteadOf url name now (.ok result) = .ok result := rfl

theorem Analysis.insteadOf_error (f : Failure) :
    dataset.insteadOf url name now (.error f) =
      if f.isHostFailure then .ok (dataset.standIn url name f now) else .error f := by
  cases f <;> rfl

end

namespace Analyzer

variable (a : Analyzer) (fallback : Option Analysis) (repo : Repository)

/-- An analyzer with something else, or nothing, to fall back to. -/
def withFallback : Analyzer := { a with fallback := fallback }

/-! ### What a run seeks -/

theorem scanEach_withFallback (descend : String → ScanState → Run ScanState)
    (entries : List Entry) (st : ScanState) :
    (a.withFallback fallback).scanEach descend entries st = a.scanEach descend entries st := by
  induction entries generalizing st with
  | nil => rfl
  | cons e rest ih =>
    rw [scanEach, scanEach]
    congr 1
    funext st'
    exact ih st'

theorem scanEntries_withFallback (levels : Nat) (entries : List Entry) (st : ScanState) :
    (a.withFallback fallback).scanEntries repo levels entries st =
      a.scanEntries repo levels entries st := by
  induction levels generalizing entries st with
  | zero => exact a.scanEach_withFallback fallback _ entries st
  | succ levels ih =>
    rw [scanEntries, scanEntries, scanEach_withFallback]
    congr 1
    funext path st'
    exact congrArg (a.client.list repo path >>= ·) (funext fun below => ih below st')

/-- **What a run seeks does not depend on what it could fall back to**: nothing below the
outermost handler looks at it. -/
theorem seek_withFallback (url : String) :
    (a.withFallback fallback).seek repo url = a.seek repo url := by
  have hexplore : (a.withFallback fallback).explore url repo = a.explore url repo := by
    unfold explore
    refine congrArg (a.listRoot repo >>= ·) (funext fun (repo', root) => ?_)
    exact congrArg (· >>= a.resultOf url repo')
      (a.scanEntries_withFallback fallback repo' a.nesting root .empty)
  exact congrArg (a.client.probe repo >>= ·) (funext fun _ => hexplore)

/-! ### Outcomes -/

variable {a repo} {url : String}

/-- With nothing to fall back to, a run is what it seeks. -/
theorem outcome_analyze_without (hurl : Repository.ofAddress (some url) = .ok repo) (t : Trace) :
    ((a.withFallback none).analyze url).outcome t =
      (a.seek repo url).outcome (repo.announced t) := by
  rw [outcome_analyze_of_ok _ hurl, seek_withFallback]
  rcases (a.seek repo url).outcome (repo.announced t) with ⟨f | result, u⟩ <;> rfl

/-- With data to fall back to, a run ends in what these make of what it seeks. -/
theorem outcome_analyze_with {dataset : Analysis}
    (hurl : Repository.ofAddress (some url) = .ok repo) (t : Trace) :
    (((a.withFallback (some dataset)).analyze url).outcome t).1 =
      dataset.insteadOf url repo.name a.client.now
        ((a.seek repo url).outcome (repo.announced t)).1 := by
  rw [outcome_analyze_of_ok _ hurl, seek_withFallback]
  rcases (a.seek repo url).outcome (repo.announced t) with ⟨f | result, u⟩
  · show (((a.withFallback (some dataset)).recover url repo f).outcome u).1 = _
    rw [Analysis.insteadOf_error]
    cases hf : f.isHostFailure with
    | true =>
      unfold recover
      simp only [withFallback, hf, if_true, outcome_bind, outcome_log, outcome_pure]
    | false =>
      rw [recover_of_not_isHostFailure _ _ _ hf]
      rfl
  · rfl

/-- A run asks and waits as often as what it seeks does, whatever it falls back to. -/
theorem exists_lines_analyze (a : Analyzer) (hurl : Repository.ofAddress (some url) = .ok repo)
    (t : Trace) :
    ∃ lines, ((a.analyze url).outcome t).2 =
      { ((a.seek repo url).outcome (repo.announced t)).2 with lines := lines } := by
  rw [outcome_analyze_of_ok _ hurl]
  rcases (a.seek repo url).outcome (repo.announced t) with ⟨f | result, u⟩
  · exact a.exists_lines_recover repo url f u
  · exact ⟨u.lines, rfl⟩

/-- **Data take the place of exactly the failures of the host.**  With and without them a run from
the same trace asks and waits the same, and the outcome with them is the one without, but for a
failure of the host, in place of which the data stand under the request's names. -/
theorem analyze_withFallback (a : Analyzer) (dataset : Analysis) (url : String) (t : Trace) :
    let bare := ((a.withFallback none).analyze url).outcome t
    let backed := ((a.withFallback (some dataset)).analyze url).outcome t
    backed.2.requests = bare.2.requests ∧ backed.2.sleeps = bare.2.sleeps ∧
      backed.1 = match Repository.ofAddress (some url) with
        | .error _ => bare.1
        | .ok repo => dataset.insteadOf url repo.name a.client.now bare.1 := by
  intro bare backed
  cases hurl : Repository.ofAddress (some url) with
  | error f =>
    have hbare : bare = (.error f, t) := outcome_analyze_of_error _ hurl t
    have hbacked : backed = (.error f, t) := outcome_analyze_of_error _ hurl t
    rw [hbare, hbacked]
    exact ⟨rfl, rfl, rfl⟩
  | ok repo =>
    have hbare : bare = (a.seek repo url).outcome (repo.announced t) :=
      outcome_analyze_without hurl t
    have htrace : ∃ lines, backed.2 = { bare.2 with lines := lines } := by
      have h := exists_lines_analyze (a.withFallback (some dataset)) hurl t
      rwa [seek_withFallback, ← hbare] at h
    have houtcome : backed.1 = dataset.insteadOf url repo.name a.client.now bare.1 := by
      rw [hbare]
      exact outcome_analyze_with hurl t
    obtain ⟨lines, hlines⟩ := htrace
    refine ⟨?_, ?_, houtcome⟩
    · rw [hlines]
    · rw [hlines]

end Analyzer

end NavGraph

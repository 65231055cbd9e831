import NavGraph.Analyzer
import NavGraph.Proofs.Run.Outcome

/-!
# Equations of a run

How a scan goes on from one entry to the next, which failures a run hands on, and what is left of a
whole run once its address is understood.

## Main definitions

* `Analyzer.descend` - what a scan does with a directory
* `Analyzer.seek` - the part of a run whose failures are handled

## Main statements

* `scanEntries_cons` - a scan takes the entries of a listing one after the other
* `recover_of_not_isHostFailure` - nothing stands in for what is no failure of the host
* `outcome_analyze_of_ok` - a run is what it seeks, or what its handler makes of the failure
* `outcome_analyze_error_iff` - which failures of what it seeks a run ends in
-/

namespace NavGraph

open Run

/-- A trace with the line that opens the run for a repository. -/
def Repository.announced (repo : Repository) (t : Trace) : Trace :=
  { t with lines := t.lines ++ [⟨.info, pipelineLogger,
    "Analyzing repository " ++ repo.owner ++ "/" ++ repo.name ++ "@" ++ repo.branch⟩] }

@[simp] theorem Repository.announced_requests (repo : Repository) (t : Trace) :
    (repo.announced t).requests = t.requests := rfl

@[simp] theorem Repository.announced_sleeps (repo : Repository) (t : Trace) :
    (repo.announced t).sleeps = t.sleeps := rfl

namespace Analyzer

variable (a : Analyzer) (repo : Repository)

/-- How a scan goes on in a directory, with so many levels left. -/
def descend : Nat → String → ScanState → Run ScanState
  | 0, _, _ => throw .nestedTooDeeply
  | levels + 1, path, st => do
      let entries ← a.client.list repo path
      a.scanEntries repo levels entries st

theorem scanEntries_eq_scanEach (levels : Nat) (entries : List Entry) (st : ScanState) :
    a.scanEntries repo levels entries st = a.scanEach (a.descend repo levels) entries st := by
  cases levels <;> rfl

theorem scanEntries_nil (levels : Nat) (st : ScanState) :
    a.scanEntries repo levels [] st = pure st := by
  rw [scanEntries_eq_scanEach]
  rfl

theorem scanEntries_cons (levels : Nat) (e : Entry) (rest : List Entry) (st : ScanState) :
    a.scanEntries repo levels (e :: rest) st =
      a.scanEntry (a.descend repo levels) e st >>= a.scanEntries repo levels rest := by
  rw [scanEntries_eq_scanEach, scanEach]
  congr 1
  funext st'
  exact (a.scanEntries_eq_scanEach repo levels rest st').symm

/-- **Nothing stands in for what is no failure of the host.** -/
theorem recover_of_not_isHostFailure (url : String) {f : Failure} (h : f.isHostFailure = false) :
    a.recover url repo f = throw f := by
  unfold recover
  cases a.fallback with
  | none => rfl
  | some dataset =>
    dsimp only
    rw [h]
    rfl

/-- Whatever a handler makes of a failure, it only notes down lines. -/
theorem exists_lines_recover (url : String) (f : Failure) (t : Trace) :
    ∃ lines, ((a.recover url repo f).outcome t).2 = { t with lines := lines } := by
  unfold recover
  cases a.fallback with
  | none => exact ⟨t.lines, rfl⟩
  | some dataset =>
    dsimp only
    split
    · exact ⟨_, rfl⟩
    · exact ⟨t.lines, rfl⟩

/-! ### Whole runs -/

/-- The part of a run whose failures are handled: the probe and the scan. -/
def seek (url : String) : Run Analysis := do
  let _ ← a.client.probe repo
  a.explore url repo

theorem outcome_analyze_of_error {url : String} {f : Failure}
    (h : Repository.ofAddress (some url) = .error f) (t : Trace) :
    (a.analyze url).outcome t = (.error f, t) := by
  unfold analyze
  rw [h, outcome_bind, outcome_ofExcept]

/-- **A run is what it seeks, or what its handler makes of the failure.** -/
theorem outcome_analyze_of_ok {repo : Repository} {url : String}
    (h : Repository.ofAddress (some url) = .ok repo) (t : Trace) :
    (a.analyze url).outcome t =
      match (a.seek repo url).outcome (repo.announced t) with
      | (.ok result, u) => (.ok result, u)
      | (.error f, u) => (a.recover url repo f).outcome u := by
  unfold analyze
  rw [h, outcome_bind, outcome_ofExcept]
  show (Run.log _ _ _ >>= fun _ => a.analyzeRepository url repo).outcome t = _
  rw [outcome_bind, outcome_log]
  show (tryCatch (a.seek repo url) (a.recover url repo) : Run Analysis).outcome
    (repo.announced t) = _
  rw [outcome_tryCatch]
  rcases (a.seek repo url).outcome (repo.announced t) with ⟨f | result, u⟩ <;> rfl

/-- **A run fails in what it seeks**, unless that is a failure of the host and there is something to
fall back to. -/
theorem outcome_analyze_error_iff {repo : Repository} {url : String} {f : Failure}
    (h : Repository.ofAddress (some url) = .ok repo) (t : Trace) :
    ((a.analyze url).outcome t).1 = .error f ↔
      ((a.seek repo url).outcome (repo.announced t)).1 = .error f ∧
        (f.isHostFailure = true → a.fallback = none) := by
  have hrecover : ∀ g u, ((a.recover url repo g).outcome u).1 = .error f ↔
      g = f ∧ (f.isHostFailure = true → a.fallback = none) := by
    intro g u
    cases hfallback : a.fallback with
    | none => simp [recover, hfallback]
    | some dataset =>
      by_cases hhost : g.isHostFailure = true
      · refine iff_of_false ?_ fun ⟨hgf, hbare⟩ => nomatch hbare (hgf ▸ hhost)
        unfold recover
        rw [hfallback]
        dsimp only
        rw [if_pos hhost, outcome_bind, outcome_log]
        nofun
      · rw [recover_of_not_isHostFailure a repo url (by simpa using hhost), outcome_throw]
        simp only [Except.error.injEq]
        constructor
        · rintro rfl
          exact ⟨rfl, fun h => absurd h hhost⟩
        · exact And.left
  rw [a.outcome_analyze_of_ok h]
  rcases (a.seek repo url).outcome (repo.announced t) with ⟨g | result, u⟩
  · rw [hrecover, Except.error.injEq]
  · exact iff_of_false nofun fun h => nomatch h.1

end Analyzer

end NavGraph

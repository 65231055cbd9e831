import NavGraph.Proofs.Analyzer.Equations
import NavGraph.Proofs.Run.Truncation

/-!
# Cancelled runs

A run that is asked to stop after so many requests makes the first of the requests that it would
have made anyway, and then either ends as it would have ended or says that it was cancelled.

## Main definitions

* `Client.under`, `Analyzer.under` - the same client and analyzer under another signal

## Main statements

* `Client.attempt_truncates` - stopping between two attempts at one request
* `Analyzer.scanEntries_truncates` - stopping between two entries of a listing
* `Analyzer.analyze_cancelled` - whole runs

## Design notes

There are three handlers on the way of a cancellation: reading a file, looking for another branch,
and standing in for a host that fails.  Each of them hands it on, which is what
`Truncates.tryCatch` asks for; nothing else in a run looks at a failure.
-/

namespace NavGraph

open NavGraph.Graph NavGraph.Run

/-- A client under another signal. -/
def Client.under (c : Client) (signal : Signal) : Client := { c with cancelled := signal }

@[simp] theorem Client.under_now (c : Client) (signal : Signal) :
    (c.under signal).now = c.now := rfl

@[simp] theorem Client.under_settings (c : Client) (signal : Signal) :
    (c.under signal).settings = c.settings := rfl

/-- An analyzer under another signal, which it shares with its client. -/
def Analyzer.under (a : Analyzer) (signal : Signal) : Analyzer :=
  { a with client := a.client.under signal, cancelled := signal }

namespace Client

variable (c : Client) (n : Nat)

/-! ### Questions -/

theorem noteUnreadableTime_truncates (header : Option String) :
    Truncates n (noteUnreadableTime header) (noteUnreadableTime header) := by
  apply truncates_of_silent
  intro t
  unfold noteUnreadableTime
  split
  · rfl
  · split <;> rfl

/-- Stopping between two attempts at one request, by induction on the attempts left. -/
theorem attempt_truncates (r : Request) (retries k left : Nat) :
    Truncates n ((c.under (.after n)).attempt r retries k left)
      ((c.under .never).attempt r retries k left) := by
  induction left generalizing k with
  | zero =>
    unfold attempt
    refine truncates_ask c.host r fun answer => ?_
    refine (noteUnreadableTime_truncates n _).bind fun _ => ?_
    simp only [under_now]
    cases judge c.now answer with
    | success r => exact truncates_pure r
    | final f => exact truncates_throw f
    | retry f => exact truncates_throw f
  | succ left ih =>
    unfold attempt
    refine truncates_ask c.host r fun answer => ?_
    refine (noteUnreadableTime_truncates n _).bind fun _ => ?_
    simp only [under_now]
    cases judge c.now answer with
    | success r => exact truncates_pure r
    | final f => exact truncates_throw f
    | retry f =>
      refine (truncates_log _ _ _).bind fun _ => ?_
      refine (truncates_sleep _).bind fun _ => ?_
      exact ih (k + 1)

theorem request_truncates (r : Request) :
    Truncates n ((c.under (.after n)).request r) ((c.under .never).request r) := by
  unfold request
  simp only [under_settings]
  cases c.settings.maxRetries with
  | ofNat retries => exact c.attempt_truncates n r retries 1 retries
  | negSucc _ => exact truncates_throw _

theorem requireJson_truncates (r : Response) : Truncates n (requireJson r) (requireJson r) :=
  truncates_ofExcept _

theorem probe_truncates (repo : Repository) :
    Truncates n ((c.under (.after n)).probe repo) ((c.under .never).probe repo) := by
  unfold probe
  refine (c.request_truncates n _).bind fun r => ?_
  refine (requireJson_truncates n r).bind fun v => ?_
  cases v <;> exact truncates_pure _

theorem list_truncates (repo : Repository) (path : String) :
    Truncates n ((c.under (.after n)).list repo path) ((c.under .never).list repo path) := by
  unfold list
  refine (c.request_truncates n _).bind fun r => ?_
  refine (requireJson_truncates n r).bind fun v => ?_
  cases v with
  | array items =>
    refine (truncates_ofExcept _).bind fun entries => ?_
    exact (truncates_log _ _ _).bind fun _ => truncates_pure entries
  | _ => exact truncates_pure _

/-- A file that was not read because of a cancellation does not count as empty. -/
theorem read_truncates (location : String) :
    Truncates n ((c.under (.after n)).read location) ((c.under .never).read location) := by
  unfold read
  refine Truncates.tryCatch ?_ ?_ rfl
  · exact (c.request_truncates n _).bind fun r => truncates_ofExcept _
  · intro f
    split
    · exact truncates_throw f
    · exact (truncates_log _ _ _).bind fun _ => truncates_pure _

end Client

namespace Analyzer

variable (a : Analyzer) (n : Nat)

@[simp] theorem under_fallback (signal : Signal) : (a.under signal).fallback = a.fallback := rfl

/-! ### The scan -/

theorem scanFile_truncates (path location : String) (st : ScanState) :
    Truncates n ((a.under (.after n)).scanFile path location st)
      ((a.under .never).scanFile path location st) := by
  unfold scanFile
  refine (a.client.read_truncates n location).bind fun text => ?_
  exact (truncates_log _ _ _).bind fun _ => truncates_pure _

/-- Stopping before an entry, or on the way through it. -/
theorem scanEntry_truncates {descend descend' : String → ScanState → Run ScanState}
    (hdescend : ∀ path st, Truncates n (descend path st) (descend' path st)) (e : Entry)
    (st : ScanState) :
    Truncates n ((a.under (.after n)).scanEntry descend e st)
      ((a.under .never).scanEntry descend' e st) := by
  unfold scanEntry
  refine truncates_requireActive ?_
  cases e.kind with
  | directory =>
    dsimp only
    split
    · exact (truncates_log _ _ _).bind fun _ => truncates_pure st
    · split
      · exact hdescend e.path st
      · exact truncates_pure st
  | file =>
    dsimp only
    cases candidateLocation? e with
    | none => exact truncates_pure _
    | some location => exact a.scanFile_truncates n _ _ _

theorem scanEach_truncates {descend descend' : String → ScanState → Run ScanState}
    (hdescend : ∀ path st, Truncates n (descend path st) (descend' path st))
    (entries : List Entry) (st : ScanState) :
    Truncates n ((a.under (.after n)).scanEach descend entries st)
      ((a.under .never).scanEach descend' entries st) := by
  induction entries generalizing st with
  | nil => exact truncates_pure st
  | cons e rest ih => exact (a.scanEntry_truncates n hdescend e st).bind fun st' => ih st'

/-- Stopping anywhere in a scan, by induction on the levels that it may still go down. -/
theorem scanEntries_truncates (repo : Repository) (levels : Nat) (entries : List Entry)
    (st : ScanState) :
    Truncates n ((a.under (.after n)).scanEntries repo levels entries st)
      ((a.under .never).scanEntries repo levels entries st) := by
  induction levels generalizing entries st with
  | zero => exact a.scanEach_truncates n (fun _ _ => truncates_throw _) entries st
  | succ levels ih =>
    apply a.scanEach_truncates n
    intro path st'
    exact (a.client.list_truncates n repo path).bind fun below => ih below st'

/-! ### The run -/

/-- A cancellation is no reason to look for another branch. -/
theorem listRoot_truncates (repo : Repository) :
    Truncates n ((a.under (.after n)).listRoot repo) ((a.under .never).listRoot repo) := by
  have hlist : ∀ repo : Repository,
      Truncates n (do return (repo, ← (a.under (.after n)).client.list repo ""))
        (do return (repo, ← (a.under .never).client.list repo "")) := by
    intro repo
    exact (a.client.list_truncates n repo "").bind fun _ => truncates_pure _
  unfold listRoot
  refine (hlist repo).tryCatch ?_ rfl
  intro f
  cases f with
  | repositoryNotFound message =>
    dsimp only
    split
    · exact (truncates_log _ _ _).bind fun _ => hlist _
    · exact truncates_throw _
  | _ => exact truncates_throw _

theorem resolve_truncates (b : Builder) : Truncates n (resolve b) (resolve b) := by
  unfold resolve
  refine (truncates_log _ _ _).bind fun _ => ?_
  exact (truncates_ofExcept _).bind fun _ => truncates_pure _

theorem resultOf_truncates (url : String) (repo : Repository) (st : ScanState) :
    Truncates n ((a.under (.after n)).resultOf url repo st)
      ((a.under .never).resultOf url repo st) := by
  unfold resultOf
  split
  · exact truncates_throw _
  · refine (resolve_truncates n st.builder).bind fun connected => ?_
    exact (truncates_log _ _ _).bind fun _ => truncates_pure _

theorem explore_truncates (url : String) (repo : Repository) :
    Truncates n ((a.under (.after n)).explore url repo) ((a.under .never).explore url repo) := by
  unfold explore
  refine (a.listRoot_truncates n repo).bind ?_
  rintro ⟨repo', root⟩
  refine (a.scanEntries_truncates n repo' a.nesting root .empty).bind fun st => ?_
  exact a.resultOf_truncates n url repo' st

theorem recover_truncates (url : String) (repo : Repository) (f : Failure) :
    Truncates n ((a.under (.after n)).recover url repo f)
      ((a.under .never).recover url repo f) := by
  unfold recover
  simp only [under_fallback]
  cases a.fallback with
  | none => exact truncates_throw f
  | some dataset =>
    dsimp only
    split
    · exact (truncates_log _ _ _).bind fun _ => truncates_pure _
    · exact truncates_throw f

theorem analyze_truncates (url : String) :
    Truncates n ((a.under (.after n)).analyze url) ((a.under .never).analyze url) := by
  unfold analyze
  refine (truncates_ofExcept _).bind fun repo => ?_
  refine (truncates_log _ _ _).bind fun _ => ?_
  refine Truncates.tryCatch ?_ ?_ (recover_of_not_isHostFailure _ repo url rfl)
  · exact (a.client.probe_truncates n repo).bind fun _ => a.explore_truncates n url repo
  · intro f
    exact a.recover_truncates n url repo f

/-- **Cancellation only truncates.**  A run whose signal comes after so many requests, whether its
client was given that signal or none of its own, makes the first of the requests of the run without
a signal.  If there are more of them it ends cancelled, and else it may also end as that run does.
-/
theorem analyze_cancelled (client : Client) (shared : Bool) (fallback : Option Analysis)
    (nesting n : Nat) (url : String) :
    let own := if shared then some (Signal.after n) else none
    let stopped := { assemble client own (some (.after n)) fallback with nesting := nesting }
    let free := { assemble client none none fallback with nesting := nesting }
    let cut := (stopped.analyze url).outcome .empty
    let whole := (free.analyze url).outcome .empty
    cut.2.requests = whole.2.requests.take (min n whole.2.requests.length) ∧
      (n < whole.2.requests.length → cut.1 = .error .cancelled) ∧
      (cut.1 = .error .cancelled ∨ cut.1 = whole.1) := by
  intro own stopped free
  have hown : (own.or (some (.after n))).getD .never = Signal.after n := by
    cases shared <;> rfl
  have hstopped : stopped = free.under (.after n) := by
    show Analyzer.mk { client with cancelled := (own.or (some (.after n))).getD .never } _ _ _ = _
    rw [hown]
    rfl
  have htruncates : Truncates n (stopped.analyze url) (free.analyze url) := by
    rw [hstopped]
    exact free.analyze_truncates n url
  have hstart := htruncates.from_start
  rw [List.take_eq_take_min] at hstart
  exact hstart

end Analyzer

end NavGraph

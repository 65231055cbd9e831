import NavGraph.Proofs.Analyzer.Defect

/-!
# Runs that are interrupted between calls

A client that has a signal of its own does not look at the signal of its analyzer.  The analyzer
itself looks at it before each entry of a listing, and nowhere else.  So the calls that lead to a
root listing are made whatever the signal says, and a call of the scan that was begun is made to its
end, with all its attempts; but no call of the scan is begun once the signal is up.

## Main definitions

* `Client.CallsWhileDown` - calls that are begun only while a signal is down
* `Client.StopsBetween` - one run is another one that is stopped between two calls, if at all
* `Analyzer.watching` - the same analyzer under another signal, which its client does not see
* `Heeds` - a run asks for nothing once its signal is up

## Main statements

* `requests_le_of_happens` - how many requests stand behind a call
* `scanEntries_stopsBetween` - the scan of a listing is stopped between two calls
* `analyze_stopsBetween` - what becomes of whole runs
* `not_heeds_smallHost` - a file is asked for after the signal

## Design notes

Truncation compares two runs request by request, and does not apply: a run that is stopped here may
have gone beyond the request at which its signal came up.  The two runs are the same call by call
instead, up to the entry before which the first of them ends.
-/

namespace NavGraph

open Run

namespace Client

variable {c : Client}

/-! ### How many requests stand behind a call -/

section

variable {t u : Trace} {call : Call}

/-- Attempts are at most one more than the retries left, by induction on these. -/
theorem requests_attempt_le (r : Request) (retries n left : Nat) (t : Trace) :
    ((c.attempt r retries n left).outcome t).2.requests.length ≤
      t.requests.length + (left + 1) := by
  induction left generalizing n t with
  | zero =>
    cases hsignal : c.cancelled t.requests.length with
    | true =>
      rw [outcome_attempt_stopped hsignal]
      exact Nat.le_add_right _ _
    | false =>
      rw [outcome_attempt_last hsignal retries n (.inl rfl), asked_requests]
      exact Nat.le_of_eq List.length_append
  | succ left ih =>
    cases hsignal : c.cancelled t.requests.length with
    | true =>
      rw [outcome_attempt_stopped hsignal]
      exact Nat.le_add_right _ _
    | false =>
      by_cases hretry : (judge c.now (c.host t.requests r)).IsRetry
      · obtain ⟨v, hv, houtcome⟩ := outcome_attempt_again hsignal retries n hretry
        have hlater := ih (n + 1) v
        rw [hv, List.length_append, List.length_singleton] at hlater
        rw [houtcome]
        omega
      · rw [outcome_attempt_last hsignal retries n (.inr hretry), asked_requests,
          List.length_append, List.length_singleton]
        omega

theorem requests_request_le (r : Request) (t : Trace) :
    ((c.request r).outcome t).2.requests.length ≤
      t.requests.length + (c.settings.maxRetries.toNat + 1) := by
  unfold request
  split
  · rename_i retries hretries
    rw [hretries]
    exact requests_attempt_le r retries 1 retries t
  · exact Nat.le_add_right _ _

/-- One request stands behind a call, with the attempts at it. -/
theorem exists_request_of_happens (h : c.Happens call t u) :
    ∃ r, u.requests = ((c.request r).outcome t).2.requests := by
  cases call with
  | probe repo answer =>
    refine ⟨c.probeRequest repo, ?_⟩
    have houtcome : (c.probe repo).outcome t = (answer, u) := h
    rw [probe_eq, outcome_bind, outcome_json] at houtcome
    generalize (c.request (c.probeRequest repo)).outcome t = asked at houtcome ⊢
    obtain ⟨f | response, v⟩ := asked <;> dsimp only at houtcome ⊢
    · cases houtcome
      rfl
    · cases hjson : jsonOf response <;> rw [hjson] at houtcome <;> cases houtcome <;> rfl
  | list repo path answer =>
    refine ⟨c.listRequest repo path, ?_⟩
    have houtcome : (c.list repo path).outcome t = (answer, u) := h
    rw [list_eq, outcome_bind, outcome_json] at houtcome
    generalize (c.request (c.listRequest repo path)).outcome t = asked at houtcome ⊢
    obtain ⟨f | response, v⟩ := asked <;> dsimp only at houtcome ⊢
    · cases houtcome
      rfl
    · cases hjson : jsonOf response with
      | error f =>
        rw [hjson] at houtcome
        cases houtcome
        rfl
      | ok w =>
        have hlisted := (outcome_listingOf path w v).1
        rw [hjson] at houtcome
        rwa [show (listingOf path w).outcome v = (answer, u) from houtcome] at hlisted
  | read location answer =>
    refine ⟨readRequest location, ?_⟩
    have houtcome : (c.read location).outcome t = (answer, u) := h
    rw [← c.requests_read location t, houtcome]

/-- **No call asks oftener than its retries allow.** -/
theorem requests_le_of_happens (h : c.Happens call t u) :
    u.requests.length ≤ t.requests.length + (c.settings.maxRetries.toNat + 1) := by
  obtain ⟨r, hr⟩ := exists_request_of_happens h
  rw [hr]
  exact requests_request_le r t

end

/-! ### Calls while a signal is down -/

variable (c) in
/-- Calls one after the other, none of which is begun while a signal is up. -/
inductive CallsWhileDown (signal : Signal) : Trace → List Call → Trace → Prop where
  | none {t : Trace} (lines : List LogLine) : CallsWhileDown signal t [] { t with lines := lines }
  | made {t u v : Trace} {call : Call} {later : List Call} (lines : List LogLine)
      (down : signal t.requests.length = false)
      (happens : c.Happens call { t with lines := lines } u)
      (after : CallsWhileDown signal u later v) : CallsWhileDown signal t (call :: later) v

section

variable {signal : Signal} {t u v : Trace} {calls more : List Call}

theorem CallsWhileDown.toCalls (h : c.CallsWhileDown signal t calls u) : c.Calls t calls u := by
  induction h with
  | none lines => exact .none lines
  | made lines _ happens _ ih => exact .made lines happens ih

/-- Lines noted down before the calls do not count. -/
theorem CallsWhileDown.of_noted {lines : List LogLine}
    (h : c.CallsWhileDown signal { t with lines := lines } calls u) :
    c.CallsWhileDown signal t calls u := by
  cases h with
  | none lines => exact .none lines
  | made lines down happens after => exact .made lines down happens after

theorem CallsWhileDown.append (h : c.CallsWhileDown signal t calls u)
    (hmore : c.CallsWhileDown signal u more v) : c.CallsWhileDown signal t (calls ++ more) v := by
  induction h with
  | none => exact hmore.of_noted
  | made lines down happens _ ih => exact .made lines down happens (ih hmore)

/-- **Calls that are begun before a signal end soon after it**: only the last of them can go beyond
it, and no further than its retries allow. -/
theorem CallsWhileDown.requests_le {n : Nat} (h : c.CallsWhileDown (.after n) t calls u) :
    u.requests.length ≤ max t.requests.length (n + c.settings.maxRetries.toNat) := by
  induction h with
  | none lines => exact Nat.le_max_left _ _
  | made lines down happens _ ih =>
    have hbegun := of_decide_eq_false down
    have hcall := requests_le_of_happens happens
    dsimp only at hcall
    omega

end

/-! ### Runs that are stopped between calls -/

variable (c) in
/-- From a trace on, one run **is another one that is stopped between two calls**, if at all: its
calls are begun while the signal is down, and some calls of the other run may be left; either there
is nothing left and the two end in the same way, or the first one was cancelled because the signal
is up. -/
structure StopsBetween {α : Type} (signal : Signal) (t : Trace)
    (cut whole : Except Failure α × Trace) : Prop where
  made : ∃ calls, c.CallsWhileDown signal t calls cut.2
  left : ∃ calls, c.Calls cut.2 calls whole.2
  same_or_stopped : cut = whole ∨
    cut.1 = .error .cancelled ∧ signal cut.2.requests.length = true

section

variable {α β : Type} {signal : Signal} {t : Trace} {cut whole : Except Failure α × Trace}

theorem StopsBetween.calls (h : c.StopsBetween signal t cut whole) :
    ∃ calls, c.Calls t calls whole.2 := by
  obtain ⟨⟨calls, hcalls⟩, ⟨left, hleft⟩, -⟩ := h
  exact ⟨calls ++ left, hcalls.toCalls.append hleft⟩

/-- What was stopped has made the first of the requests. -/
theorem StopsBetween.requests_prefix (h : c.StopsBetween signal t cut whole) :
    cut.2.requests <+: whole.2.requests := by
  obtain ⟨left, hleft⟩ := h.left
  exact hleft.grows

/-- A run that makes its calls while the signal is down is not stopped. -/
theorem stopsBetween_self {calls : List Call} (h : c.CallsWhileDown signal t calls whole.2) :
    c.StopsBetween signal t whole whole where
  made := ⟨calls, h⟩
  left := ⟨[], .none whole.2.lines⟩
  same_or_stopped := .inl rfl

/-- A run without calls is not stopped. -/
theorem stopsBetween_of_idle (h : c.Calls t [] whole.2) : c.StopsBetween signal t whole whole := by
  obtain ⟨outcome, u⟩ := whole
  cases h
  exact stopsBetween_self (.none _)

/-- A call that is begun while the signal is down is not stopped. -/
theorem stopsBetween_of_happens (call : Call) (hdown : signal t.requests.length = false)
    (h : c.Happens call t whole.2) : c.StopsBetween signal t whole whole :=
  stopsBetween_self (.made t.lines hdown h (.none whole.2.lines))

/-- A run that is stopped before it has done anything leaves all its calls. -/
theorem stopsBetween_stopped (hup : signal t.requests.length = true) {calls : List Call}
    (h : c.Calls t calls whole.2) : c.StopsBetween signal t (.error .cancelled, t) whole where
  made := ⟨[], .none t.lines⟩
  left := ⟨calls, h⟩
  same_or_stopped := .inr ⟨rfl, hup⟩

/-- What is stopped between calls can be followed by more that is. -/
theorem StopsBetween.append {cut' whole' : Except Failure β × Trace}
    (h : c.StopsBetween signal t cut whole) (hsame : cut = whole)
    (hnext : c.StopsBetween signal whole.2 cut' whole') : c.StopsBetween signal t cut' whole' := by
  obtain ⟨⟨calls, hmade⟩, -, -⟩ := h
  obtain ⟨⟨more, hmore⟩, hleft, hend⟩ := hnext
  rw [hsame] at hmade
  exact ⟨⟨calls ++ more, hmade.append hmore⟩, hleft, hend⟩

/-- Where a run was stopped, the whole run goes on with whatever comes next. -/
theorem StopsBetween.extend {cut' whole' : Except Failure β × Trace}
    (h : c.StopsBetween signal t cut whole) (hup : signal cut.2.requests.length = true)
    (hcut : cut' = (.error .cancelled, cut.2)) (hwhole : ∃ more, c.Calls whole.2 more whole'.2) :
    c.StopsBetween signal t cut' whole' := by
  obtain ⟨hmade, ⟨left, hleft⟩, -⟩ := h
  obtain ⟨more, hmore⟩ := hwhole
  subst hcut
  exact ⟨hmade, ⟨left ++ more, hleft.append hmore⟩, .inr ⟨rfl, hup⟩⟩

/-- One run after another is stopped in the first or in the second. -/
theorem StopsBetween.bind {run run' : Run α} {next next' : α → Run β} {s : Trace}
    (h : c.StopsBetween signal t (run.outcome s) (run'.outcome s))
    (hnext : ∀ a u, c.StopsBetween signal u ((next a).outcome u) ((next' a).outcome u)) :
    c.StopsBetween signal t ((run >>= next).outcome s) ((run' >>= next').outcome s) := by
  obtain hsame | ⟨hcancelled, hup⟩ := h.same_or_stopped
  · refine h.append hsame ?_
    rw [outcome_bind, outcome_bind, hsame]
    generalize run'.outcome s = o
    obtain ⟨f | a, u⟩ := o
    · exact stopsBetween_of_idle (.none u.lines)
    · exact hnext a u
  · refine h.extend hup ?_ ?_
    · rw [outcome_bind, ← Prod.eta (run.outcome s), hcancelled]
    · rw [outcome_bind]
      generalize run'.outcome s = o
      obtain ⟨f | a, u⟩ := o
      · exact ⟨[], .none u.lines⟩
      · exact (hnext a u).calls

/-- A handler that hands a cancellation on may come behind what is stopped. -/
theorem StopsBetween.tryCatch {run run' : Run α} {handler handler' : Failure → Run α} {s : Trace}
    (h : c.StopsBetween signal t (run.outcome s) (run'.outcome s))
    (hhandler : ∀ f u, c.StopsBetween signal u ((handler f).outcome u) ((handler' f).outcome u))
    (hcancelled : handler .cancelled = throw .cancelled) :
    c.StopsBetween signal t ((tryCatch run handler : Run α).outcome s)
      ((tryCatch run' handler' : Run α).outcome s) := by
  obtain hsame | ⟨hstopped, hup⟩ := h.same_or_stopped
  · refine h.append hsame ?_
    rw [outcome_tryCatch, outcome_tryCatch, hsame]
    generalize run'.outcome s = o
    obtain ⟨f | a, u⟩ := o
    · exact hhandler f u
    · exact stopsBetween_of_idle (.none u.lines)
  · refine h.extend hup ?_ ?_
    · rw [outcome_tryCatch, ← Prod.eta (run.outcome s), hstopped]
      show (handler .cancelled).outcome _ = _
      rw [hcancelled, outcome_throw]
    · rw [outcome_tryCatch]
      generalize run'.outcome s = o
      obtain ⟨f | a, u⟩ := o
      · exact (hhandler f u).calls
      · exact ⟨[], .none u.lines⟩

end

end Client

namespace Analyzer

variable (a : Analyzer) (signal : Signal)

/-- An analyzer under another signal, which its client does not see. -/
def watching : Analyzer := { a with cancelled := signal }

/-! ### The scan -/

section

variable {signal} {t : Trace}

theorem scanFile_stopsBetween (hdown : signal t.requests.length = false) (path location : String)
    (st : ScanState) :
    a.client.StopsBetween signal t ((a.scanFile path location st).outcome t)
      ((a.scanFile path location st).outcome t) := by
  unfold scanFile
  refine Client.StopsBetween.bind ?_ fun text u => Client.stopsBetween_of_idle ?_
  · exact Client.stopsBetween_of_happens (.read location _) hdown rfl
  · exact .none _

/-- Behind a look at a signal that is down, an entry asks for one call at most before the entries
below it are scanned. -/
theorem scanEntry_stopsBetween (hdown : signal t.requests.length = false)
    {descend descend' : String → ScanState → Run ScanState}
    (hdescend : ∀ path st, a.client.StopsBetween signal t ((descend path st).outcome t)
      ((descend' path st).outcome t)) (e : Entry) (st : ScanState) :
    a.client.StopsBetween signal t (((a.watching signal).scanEntry descend e st).outcome t)
      (((a.watching .never).scanEntry descend' e st).outcome t) := by
  have hcut : (requireActive (a.watching signal).cancelled).outcome t = (.ok (), t) := by
    rw [outcome_requireActive]
    simp [watching, hdown]
  have hwhole : (requireActive (a.watching .never).cancelled).outcome t = (.ok (), t) :=
    outcome_requireActive_never t
  unfold scanEntry
  rw [outcome_bind, outcome_bind, hcut, hwhole]
  dsimp only
  cases e.kind with
  | directory =>
    dsimp only
    split
    · exact Client.stopsBetween_of_idle (.none _)
    · split
      · exact hdescend e.path st
      · exact Client.stopsBetween_of_idle (.none t.lines)
  | file =>
    dsimp only
    cases candidateLocation? e with
    | none => exact Client.stopsBetween_of_idle (.none t.lines)
    | some location => exact a.scanFile_stopsBetween hdown _ _ _

/-- Entries in order, by induction on them: where the signal is up before an entry, this entry and
all behind it are left. -/
theorem scanEntries_stopsBetween_of_descend (repo : Repository) {levels : Nat}
    (hdescend : ∀ path st t, signal t.requests.length = false →
      a.client.StopsBetween signal t (((a.watching signal).descend repo levels path st).outcome t)
        (((a.watching .never).descend repo levels path st).outcome t))
    (entries : List Entry) (st : ScanState) (t : Trace) :
    a.client.StopsBetween signal t
      (((a.watching signal).scanEntries repo levels entries st).outcome t)
      (((a.watching .never).scanEntries repo levels entries st).outcome t) := by
  induction entries generalizing st t with
  | nil =>
    rw [scanEntries_nil, scanEntries_nil]
    exact Client.stopsBetween_of_idle (.none t.lines)
  | cons e rest ih =>
    cases hsignal : signal t.requests.length with
    | true =>
      have hcut : ((a.watching signal).scanEntries repo levels (e :: rest) st).outcome t =
          (.error .cancelled, t) := by
        rw [scanEntries_cons, outcome_bind, scanEntry, outcome_bind, outcome_requireActive]
        simp [watching, hsignal]
      obtain ⟨calls, hcalls, -⟩ :=
        (a.watching .never).scanEntries_makes repo levels (e :: rest) st t
      rw [hcut]
      exact Client.stopsBetween_stopped hsignal hcalls
    | false =>
      rw [scanEntries_cons, scanEntries_cons]
      refine Client.StopsBetween.bind ?_ fun st' u => ih st' u
      exact a.scanEntry_stopsBetween hsignal (fun path st => hdescend path st t hsignal) e st

/-- **The scan of a listing is stopped between two calls**, by induction on the levels that it may
still go down. -/
theorem scanEntries_stopsBetween (repo : Repository) (levels : Nat) (entries : List Entry)
    (st : ScanState) (t : Trace) :
    a.client.StopsBetween signal t
      (((a.watching signal).scanEntries repo levels entries st).outcome t)
      (((a.watching .never).scanEntries repo levels entries st).outcome t) := by
  induction levels generalizing entries st t with
  | zero =>
    refine a.scanEntries_stopsBetween_of_descend repo (fun path st t _ => ?_) entries st t
    exact Client.stopsBetween_of_idle (.none t.lines)
  | succ levels ih =>
    refine a.scanEntries_stopsBetween_of_descend repo (fun path st t hdown => ?_) entries st t
    refine Client.StopsBetween.bind ?_ fun below u => ih below st u
    exact Client.stopsBetween_of_happens (.list repo path _) hdown rfl

/-! ### The run -/

/-- The part of a run that leads to a root listing. -/
def reach (repo : Repository) : Run (Repository × List Entry) := do
  let _ ← a.client.probe repo
  a.listRoot repo

/-- The part of a run behind a root listing: the scan, and the result built from it. -/
def survey (url : String) (found : Repository × List Entry) : Run Analysis := do
  let st ← a.scanEntries found.1 a.nesting found.2 .empty
  a.resultOf url found.1 st

theorem seek_eq (repo : Repository) (url : String) :
    a.seek repo url = a.reach repo >>= a.survey url := by
  unfold reach
  rw [bind_assoc]
  rfl

theorem reach_makes (repo : Repository) :
    a.client.Makes (a.reach repo) fun calls outcome => Opens repo calls outcome.toOption := by
  refine (Client.makes_probe repo).bind ?_ ?_
  · rintro fields _ rfl
    exact (a.listRoot_makes repo).mono fun _ _ hroot => .known fields hroot
  · rintro f _ rfl
    exact .unknown f

theorem survey_stopsBetween (url : String) (found : Repository × List Entry) (t : Trace) :
    a.client.StopsBetween signal t (((a.watching signal).survey url found).outcome t)
      (((a.watching .never).survey url found).outcome t) := by
  refine (a.scanEntries_stopsBetween found.1 a.nesting found.2 .empty t).bind fun st u => ?_
  obtain ⟨calls, hcalls, rfl, -⟩ := a.resultOf_makes found.1 url st u
  exact Client.stopsBetween_of_idle hcalls

/-- **What a run seeks is stopped between two calls** of its scan: the calls up to the root listing
are made in any case, and where they find none there are no others. -/
theorem seek_stopsBetween (repo : Repository) (url : String) (t : Trace) :
    ∃ opening found opened, a.client.Calls t opening opened ∧ Opens repo opening found ∧
      a.client.StopsBetween signal opened (((a.watching signal).seek repo url).outcome t)
        (((a.watching .never).seek repo url).outcome t) ∧
      (found = none → (((a.watching .never).seek repo url).outcome t).2 = opened) := by
  obtain ⟨opening, hopening, hopens⟩ := a.reach_makes repo t
  have hreach : ∀ signal, (a.watching signal).reach repo = a.reach repo := fun _ => rfl
  rw [seek_eq, seek_eq, outcome_bind, outcome_bind, hreach, hreach]
  generalize (a.reach repo).outcome t = o at hopening hopens ⊢
  obtain ⟨f | found, opened⟩ := o
  · refine ⟨opening, none, opened, hopening, hopens, ?_, fun _ => rfl⟩
    exact Client.stopsBetween_of_idle (.none opened.lines)
  · exact ⟨opening, some found, opened, hopening, hopens, a.survey_stopsBetween url found opened,
      nofun⟩

theorem recover_stopsBetween (repo : Repository) (url : String) (f : Failure) (t : Trace) :
    a.client.StopsBetween signal t ((a.recover url repo f).outcome t)
      ((a.recover url repo f).outcome t) := by
  obtain ⟨lines, hlines⟩ := a.exists_lines_recover repo url f t
  refine Client.stopsBetween_of_idle ?_
  rw [hlines]
  exact .none lines

end

/-- A run under a signal that comes after so many requests **heeds** it, beside the same run without
a signal: it makes no more requests than these, and where the other one makes more it is cancelled.
-/
def Heeds (n : Nat) (cut whole : Except Failure Analysis × Trace) : Prop :=
  cut.2.requests.length ≤ n ∧ (n < whole.2.requests.length → cut.1 = .error .cancelled)

/-- **Runs are stopped between the calls of their scan.**  Let a client have a signal of its own
that never comes, and let the signal of its analyzer come after so many requests.  The calls up to a
root listing are made in any case.  From there on the run is the one without a signal, call by call,
but no call is begun once the signal is up; it is cancelled where it comes to a further entry, and
ends as the other one does where there is none.  So it goes beyond the signal by the calls that lead
to the root listing, or by the retries of one call. -/
theorem analyze_stopsBetween (client : Client) (fallback : Option Analysis) (nesting n : Nat)
    (url : String) :
    let put given := { assemble client (some .never) given fallback with nesting := nesting }
    let free := put none
    let cut := ((put (some (.after n))).analyze url).outcome .empty
    let whole := (free.analyze url).outcome .empty
    match Repository.ofAddress (some url) with
    | .error f => cut = (.error f, .empty) ∧ whole = (.error f, .empty)
    | .ok repo => ∃ opening found opened, free.client.Calls .empty opening opened ∧
        Opens repo opening found ∧ free.client.StopsBetween (.after n) opened cut whole ∧
        (found = none → whole.2.requests = opened.requests) ∧
        cut.2.requests <+: whole.2.requests ∧
        cut.2.requests.length ≤
          max opened.requests.length (n + client.settings.maxRetries.toNat) := by
  intro put free cut whole
  cases hurl : Repository.ofAddress (some url) with
  | error f =>
    exact ⟨outcome_analyze_of_error _ hurl .empty, free.outcome_analyze_of_error hurl .empty⟩
  | ok repo =>
    obtain ⟨opening, found, opened, hopening, hopens, hsought, hlost⟩ :=
      @seek_stopsBetween free (.after n) repo url (repo.announced .empty)
    have hrun : ∀ a : Analyzer, (a.analyze url).outcome .empty =
        (tryCatch (a.seek repo url) (a.recover url repo) : Run Analysis).outcome
          (repo.announced .empty) := by
      intro a
      rw [a.outcome_analyze_of_ok hurl, outcome_tryCatch]
      rcases (a.seek repo url).outcome (repo.announced .empty) with ⟨f | result, u⟩ <;> rfl
    have hstops : free.client.StopsBetween (.after n) opened cut whole := by
      rw [show cut = _ from hrun _, show whole = _ from hrun free]
      refine hsought.tryCatch ?_ ?_
      · exact free.recover_stopsBetween repo url
      · exact free.recover_of_not_isHostFailure repo url rfl
    refine ⟨opening, found, opened, hopening.of_noted, hopens, hstops, fun hfound => ?_,
      hstops.requests_prefix, ?_⟩
    · obtain ⟨lines, hlines⟩ := free.exists_lines_analyze hurl .empty
      rw [show whole.2 = _ from hlines, ← hlost hfound]
      rfl
    · obtain ⟨calls, hcalls⟩ := hstops.made
      exact hcalls.requests_le

/-- The small analyzer, put together with a client that has a signal of its own that never comes. -/
def separateAnalyzer (given : Option Signal) : Analyzer :=
  assemble smallAnalyzer.client (some .never) given none

/-- The signal comes after the first attempt at a file that cannot be read, and the file is asked
for twice more. -/
theorem not_heeds_smallHost :
    ¬ Heeds 5 (((separateAnalyzer (some (.after 5))).analyze "github.com/o/n").outcome .empty)
      (((separateAnalyzer none).analyze "github.com/o/n").outcome .empty) := by
  have hlength : (((separateAnalyzer (some (.after 5))).analyze "github.com/o/n").outcome
      .empty).2.requests.length = 7 := by
    decide +kernel
  rintro ⟨hlate, -⟩
  rw [hlength] at hlate
  exact absurd hlate (by decide)

end Analyzer

end NavGraph

import NavGraph.Proofs.Analyzer.Calls
import NavGraph.Proofs.Analyzer.Soundness
import NavGraph.Proofs.Analyzer.Traversal
import NavGraph.Proofs.Host.Defect

/-!
# Failures that a run is not expected to end in

A run ends in a result or in one of a few failures that a caller is told to expect; where there are
data to fall back to, those of the host are not among them.  This module says what else a run can
end in, and why: a call received an answer with a defect, in which case the run ends in it whatever
there is to fall back to, or directories are nested more deeply than they are followed.

## Main definitions

* `Failure.IsDocumented` - the failures that a caller is told to expect
* `IsNested` - directories below each other, listed on the way down
* `Blames` - an outcome owes each unexpected failure to a call, and no call's failure is passed over
* `Analyzer.Caused` - a failure that comes from an answer of the host or from nested directories

## Main statements

* `scanEntries_blames`, `seek_blames`, `analyze_blames` - scans and whole runs blame their calls
* `caused_of_blames` - what a run is not expected to end in has a cause
* `analyze_fails` - what a run ends in that has no result

## Design notes

The failures at issue are those that nothing on the way catches: an unread file and a missing root
are failures of the host, and both handlers hand everything else on.
-/

namespace NavGraph

open Run

/-- The failures that a caller is told to expect.  Where there are data to fall back to, they stand
in for those of the host. -/
inductive Failure.IsDocumented (backed : Bool) : Failure → Prop where
  | reference (text : Option String) : IsDocumented backed (.invalidReference text)
  | empty (repository : String) : IsDocumented backed (.emptyResult repository)
  | cancelled : IsDocumented backed .cancelled
  | host {f : Failure} (h : f.isHostFailure = true) (hbare : backed = false) :
      IsDocumented backed f

theorem Failure.IsDocumented.isReported_eq_true {backed : Bool} {f : Failure}
    (h : f.IsDocumented backed) : f.isReported = true := by
  cases h with
  | reference text => rfl
  | empty repository => rfl
  | cancelled => rfl
  | host h => exact isReported_of_isHostFailure h

/-- Of the failures of a run those that are told by their message are documented. -/
theorem Failure.OfRun.isDocumented {backed : Bool} {f : Failure} (h : f.OfRun)
    (hreported : f.isReported = true) (hbare : f.isHostFailure = true → backed = false) :
    f.IsDocumented backed := by
  cases h with
  | reference text => exact .reference text
  | empty repository => exact .empty repository
  | scan h =>
    cases h with
    | nested => cases hreported
    | reading h =>
      cases h with
      | cancelled => exact .cancelled
      | address message => cases hreported
      | body message => cases hreported
    | listing h =>
      cases h with
      | malformed problems => cases hreported
      | nameless => cases hreported
      | json h =>
        cases h with
        | nested => cases hreported
        | request h =>
          cases h with
          | cancelled => exact .cancelled
          | host h => exact .host h (hbare h)
          | unusable message => cases hreported

/-- Entries lead so many levels down: one of them is a directory to scan, its listing was received
among the calls, and this leads down as many levels but one. -/
inductive IsNested (repo : Repository) (calls : List Call) : Nat → List Entry → Prop where
  | here {entries : List Entry} {e : Entry} (he : e ∈ entries) (hscanned : e.isScanned = true) :
      IsNested repo calls 0 entries
  | deeper {levels : Nat} {entries listed : List Entry} {e : Entry} (he : e ∈ entries)
      (hscanned : e.isScanned = true) (hcall : .list repo e.path (.ok listed) ∈ calls)
      (h : IsNested repo calls levels listed) : IsNested repo calls (levels + 1) entries

theorem IsNested.mono {repo : Repository} {calls more : List Call} {levels : Nat}
    {entries others : List Entry} (h : IsNested repo calls levels entries) (hcalls : calls ⊆ more)
    (hentries : entries ⊆ others) : IsNested repo more levels others := by
  induction h generalizing others with
  | here he hscanned => exact .here (hentries he) hscanned
  | deeper he hscanned hcall _ ih =>
    exact .deeper (hentries he) hscanned (hcalls hcall) (ih (List.Subset.refl _))

/-! ### Blame -/

/-- An outcome **blames** calls for each failure that it is not expected to be: unless the failure
is of some other origin, a call ended in it; and where a call did, so does the run. -/
structure Blames {α : Type} (other : List Call → Failure → Prop) (calls : List Call)
    (outcome : Except Failure α) : Prop where
  caused : ∀ f, f.isReported = false → outcome = .error f →
    other calls f ∨ ∃ call ∈ calls, call.Fails f
  ended : ∀ f, f.isReported = false → ∀ call ∈ calls, call.Fails f → outcome = .error f

section

variable {α β : Type} {other other' other'' : List Call → Failure → Prop} {calls more : List Call}
  {f : Failure}

theorem blames_ok (a : α) : Blames other [] (.ok a : Except Failure α) where
  caused _ _ hfailed := nomatch hfailed
  ended _ _ call hcall := absurd hcall (List.not_mem_nil (a := call))

theorem blames_error (h : f.isReported = true ∨ other [] f) :
    Blames other [] (.error f : Except Failure α) where
  caused g hg hfailed := by
    cases hfailed
    obtain h | h := h
    · rw [hg] at h
      cases h
    · exact .inl h
  ended _ _ call hcall := absurd hcall (List.not_mem_nil (a := call))

/-- What one call ends in, it is to blame for. -/
theorem blames_singleton {call : Call} {answer : Except Failure α}
    (h : ∀ f, call.Fails f ↔ answer = .error f) : Blames other [call] answer where
  caused f _ hfailed := .inr ⟨call, List.mem_singleton.2 rfl, (h f).2 hfailed⟩
  ended f _ call' hcall hfails := by
    rw [List.mem_singleton.1 hcall] at hfails
    exact (h f).1 hfails

theorem Blames.error {outcome : Except Failure α} (h : Blames other calls outcome)
    (houtcome : outcome = .error f) : Blames other calls (.error f : Except Failure β) where
  caused g hg hfailed := by
    cases hfailed
    exact h.caused f hg houtcome
  ended g hg call hcall hfails := by
    have hsame := h.ended g hg call hcall hfails
    rw [houtcome] at hsame
    cases hsame
    rfl

/-- Calls that came to a value came to nothing unexpected. -/
theorem Blames.ok {a : α} {b : β} (h : Blames other calls (.ok a : Except Failure α)) :
    Blames other' calls (.ok b : Except Failure β) where
  caused := nofun
  ended f hf call hcall hfails := nomatch h.ended f hf call hcall hfails

theorem Blames.mono {outcome : Except Failure α} (h : Blames other calls outcome)
    (himp : ∀ f, other calls f → other' calls f) : Blames other' calls outcome where
  caused f hf hfailed := (h.caused f hf hfailed).imp_left (himp f)
  ended := h.ended

/-- Calls behind others are to blame where those came to nothing unexpected. -/
theorem Blames.append {outcome : Except Failure α} {outcome' : Except Failure β}
    (h : Blames other calls outcome) (hsafe : ∀ f, outcome = .error f → f.isReported = true)
    (hmore : Blames other' more outcome')
    (hother : ∀ f, other' more f → other'' (calls ++ more) f) :
    Blames other'' (calls ++ more) outcome' where
  caused f hf hfailed := by
    obtain hown | ⟨call, hcall, hfails⟩ := hmore.caused f hf hfailed
    · exact .inl (hother f hown)
    · exact .inr ⟨call, List.mem_append_right calls hcall, hfails⟩
  ended f hf call hcall hfails := by
    obtain hcall | hcall := List.mem_append.1 hcall
    · rw [hsafe f (h.ended f hf call hcall hfails)] at hf
      cases hf
    · exact hmore.ended f hf call hcall hfails

end

/-! ### The scan -/

/-- The failure that a scan ends in where it may not go down any further. -/
def TooDeep (repo : Repository) (levels : Nat) (entries : List Entry) (calls : List Call)
    (f : Failure) : Prop :=
  f = .nestedTooDeeply ∧ IsNested repo calls levels entries

/-- The same on the way down into a directory. -/
inductive TooDeepBelow (repo : Repository) (path : String) :
    Nat → List Call → Failure → Prop where
  | here {calls : List Call} : TooDeepBelow repo path 0 calls .nestedTooDeeply
  | deeper {levels : Nat} {listed : List Entry} {calls : List Call}
      (hcall : .list repo path (.ok listed) ∈ calls) (h : IsNested repo calls levels listed) :
      TooDeepBelow repo path (levels + 1) calls .nestedTooDeeply

theorem TooDeep.mono {repo : Repository} {levels : Nat} {entries others : List Entry}
    {calls more : List Call} {f : Failure} (h : TooDeep repo levels entries calls f)
    (hentries : entries ⊆ others) (hcalls : calls ⊆ more) : TooDeep repo levels others more f :=
  ⟨h.1, h.2.mono hcalls hentries⟩

theorem TooDeepBelow.tooDeep {repo : Repository} {e : Entry} {levels : Nat} {calls : List Call}
    {f : Failure} (h : TooDeepBelow repo e.path levels calls f) (hscanned : e.isScanned = true) :
    TooDeep repo levels [e] calls f := by
  have he : e ∈ [e] := List.mem_singleton.2 rfl
  cases h with
  | here => exact ⟨rfl, .here he hscanned⟩
  | deeper hcall h => exact ⟨rfl, .deeper he hscanned hcall h⟩

namespace Analyzer

variable (a : Analyzer) (repo : Repository) {other : List Call → Failure → Prop}

theorem scanFile_blames (path location : String) (st : ScanState) :
    a.client.Makes (a.scanFile path location st) (Blames other) := by
  unfold scanFile
  refine (Client.makes_read location).bind ?_ ?_
  · rintro text _ rfl
    have hread : Blames other [.read location (.ok text)] (.ok text) :=
      blames_singleton fun _ => Iff.rfl
    refine Client.Makes.after_log ?_ _ _ _
    exact Client.makes_pure hread.ok
  · rintro f _ rfl
    exact blames_singleton fun g => by
      show (Except.error f : Except Failure String) = .error g ↔ _
      rw [Except.error.injEq, Except.error.injEq]

section

variable {levels : Nat} {descend : String → ScanState → Run ScanState} (hdescend : ∀ path st,
  a.client.Makes (descend path st) (Blames (TooDeepBelow repo path levels)))

include hdescend

/-- One entry: its file is read, or the scan goes down into it. -/
theorem scanEntry_blames (e : Entry) (st : ScanState) :
    a.client.Makes (a.scanEntry descend e st) (Blames (TooDeep repo levels [e])) := by
  unfold scanEntry
  refine Client.Makes.after_requireActive ?_ _ (blames_error (.inl rfl))
  cases hkind : e.kind with
  | directory =>
    dsimp only
    by_cases hskipped : skipDirectories.contains e.name = true
    · rw [if_pos hskipped]
      refine Client.Makes.after_log ?_ _ _ _
      exact Client.makes_pure (blames_ok st)
    · rw [if_neg hskipped]
      by_cases hname : scanDirectories.contains e.name = true
      · have hscanned : e.isScanned = true := by
          rw [Bool.not_eq_true] at hskipped
          rw [Entry.isScanned, hkind, hname, hskipped]
          rfl
        rw [if_pos hname]
        refine (hdescend e.path st).mono fun calls outcome h => h.mono fun f hf => ?_
        exact hf.tooDeep hscanned
      · rw [if_neg hname]
        exact Client.makes_pure (blames_ok st)
  | file =>
    dsimp only
    cases candidateLocation? e with
    | none => exact Client.makes_pure (blames_ok _)
    | some location => exact a.scanFile_blames e.path location _

theorem scanEach_blames (entries : List Entry) (st : ScanState) :
    a.client.Makes (a.scanEach descend entries st) (Blames (TooDeep repo levels entries)) := by
  induction entries generalizing st with
  | nil => exact Client.makes_pure (blames_ok st)
  | cons e rest ih =>
    have hfirst : [e] ⊆ e :: rest := List.cons_subset_cons e (List.nil_subset rest)
    refine (a.scanEntry_blames repo hdescend e st).bind ?_ ?_
    · intro st' calls h
      refine (ih st').mono fun more outcome hmore => ?_
      refine h.append nofun hmore fun f hf => ?_
      exact hf.mono (List.subset_cons_self e rest) (List.subset_append_right calls more)
    · intro f calls h
      exact (h.mono fun g hg => hg.mono hfirst (List.Subset.refl calls)).error rfl

end

/-- **A scan blames its calls**, by induction on the levels that it may still go down. -/
theorem scanEntries_blames (levels : Nat) (entries : List Entry) (st : ScanState) :
    a.client.Makes (a.scanEntries repo levels entries st)
      (Blames (TooDeep repo levels entries)) := by
  induction levels generalizing entries st with
  | zero =>
    -- No level is left, so whatever is to be scanned below is nested too deeply.
    refine a.scanEach_blames repo (fun path st => ?_) entries st
    exact Client.makes_throw (blames_error (.inr .here))
  | succ levels ih =>
    refine a.scanEach_blames repo (fun path st => ?_) entries st
    refine (Client.makes_list repo path).bind ?_ ?_
    · rintro listed _ rfl
      have hlisted : Blames (TooDeepBelow repo path (levels + 1)) [.list repo path (.ok listed)]
          (.ok listed) := blames_singleton fun _ => Iff.rfl
      refine (ih listed st).mono fun calls outcome h => hlisted.append nofun h ?_
      rintro f ⟨rfl, hnested⟩
      have hbelow := hnested.mono (List.subset_append_right [.list repo path (.ok listed)] calls)
        (List.Subset.refl listed)
      exact .deeper (List.mem_append_left calls (List.mem_singleton.2 rfl)) hbelow
    · rintro f _ rfl
      exact (blames_singleton fun _ => Iff.rfl).error rfl

/-! ### The run -/

/-- The failures of a run that no call is to blame for: directories below a root are nested too
deeply, or a connection leads out of the graph. -/
inductive Unblamed (nesting : Nat) (calls : List Call) : Failure → Prop where
  | nested {repo : Repository} {root : List Entry} (hroot : .list repo "" (.ok root) ∈ calls)
      (h : IsNested repo calls nesting root) : Unblamed nesting calls .nestedTooDeeply
  | dangling (source target : String) : Unblamed nesting calls (.danglingConnection source target)

theorem Unblamed.mono {nesting : Nat} {calls more : List Call} {f : Failure}
    (h : Unblamed nesting calls f) (hcalls : calls ⊆ more) : Unblamed nesting more f := by
  cases h with
  | nested hroot h => exact .nested (hcalls hroot) (h.mono hcalls (List.Subset.refl _))
  | dangling source target => exact .dangling source target

/-- An attempt at a root is to blame for what comes of it. -/
theorem blames_root (repo : Repository) (answer : Except Failure (List Entry)) :
    Blames (fun _ _ => False) [.list repo "" answer] (answer.map fun root => (repo, root)) := by
  refine blames_singleton fun f => ?_
  show answer = .error f ↔ _
  cases answer <;> simp [Except.map]

/-- On the way to a root the calls are to blame for everything, and a root that is found was listed
among them. -/
theorem listRoot_blames : a.client.Makes (a.listRoot repo) fun calls outcome =>
    Blames (fun _ _ => False) calls outcome ∧
      ∀ repo' root, outcome = .ok (repo', root) → .list repo' "" (.ok root) ∈ calls := by
  unfold listRoot
  refine (a.root_makes repo).tryCatch ?_ ?_
  · rintro found _ ⟨answer, rfl, houtcome⟩
    rw [houtcome]
    refine ⟨blames_root repo answer, fun repo' root hroot => ?_⟩
    cases answer <;> cases hroot
    exact List.mem_singleton.2 rfl
  · rintro f _ ⟨g | _, rfl, houtcome⟩ <;> cases houtcome
    -- The second branch is tried after a failure of the host only, for which no call is to blame.
    have hlost : Blames (fun _ _ => False) [.list repo "" (.error f)]
        (.error f : Except Failure (Repository × List Entry)) := blames_root repo (.error f)
    split
    · rename_i message
      split
      · refine Client.Makes.after_log ?_ _ _ _
        refine (a.root_makes repo.onFallbackBranch).mono ?_
        rintro _ _ ⟨answer, rfl, rfl⟩
        refine ⟨hlost.append ?_ (blames_root repo.onFallbackBranch answer) fun _ h => h, ?_⟩
        · rintro _ ⟨⟩
          rfl
        · intro repo' root hroot
          cases answer <;> cases hroot
          exact List.mem_append_right _ (List.mem_singleton.2 rfl)
      · exact Client.makes_throw ⟨hlost, nofun⟩
    · exact Client.makes_throw ⟨hlost, nofun⟩

/-- Connections that lead out of the graph are the only failures of the second pass. -/
theorem resolve_blames (b : Graph.Builder) : a.client.Makes (resolve b)
    (Blames fun _ f => ∃ source target, f = .danglingConnection source target) := by
  have hverdict : ∀ f, b.resolve.2 = .error f →
      ∃ source target, f = .danglingConnection source target := by
    intro f hf
    have hrefused : b.resolve.2 ≠ .ok () := by
      rw [hf]
      nofun
    obtain ⟨source, target, h⟩ := Graph.checkConnections_ne_ok_iff.1 hrefused
    exact ⟨source, target, Except.error.inj (hf.symm.trans h)⟩
  unfold resolve
  refine Client.Makes.after_log ?_ _ _ _
  refine (Client.makes_ofExcept _).bind ?_ ?_
  · rintro _ _ ⟨rfl, -⟩
    exact Client.makes_pure (blames_ok _)
  · rintro f _ ⟨rfl, houtcome⟩
    exact blames_error (.inr (hverdict f houtcome.symm))

theorem resultOf_blames (url : String) (st : ScanState) : a.client.Makes (a.resultOf url repo st)
    (Blames fun _ f => ∃ source target, f = .danglingConnection source target) := by
  unfold resultOf
  split
  · exact Client.makes_throw (blames_error (.inl rfl))
  · refine (a.resolve_blames st.builder).bind ?_ fun f calls h => h.error rfl
    intro connected calls h
    refine Client.Makes.after_log ?_ _ _ _
    refine Client.makes_pure ?_
    rw [List.append_nil]
    exact h.ok

/-- A scan and its result blame the calls of the scan. -/
theorem scan_blames (url : String) (root : List Entry) :
    a.client.Makes (a.scanEntries repo a.nesting root .empty >>= a.resultOf url repo)
      (Blames fun calls f => TooDeep repo a.nesting root calls f ∨
        ∃ source target, f = .danglingConnection source target) := by
  refine (a.scanEntries_blames repo a.nesting root .empty).bind ?_ ?_
  · intro st calls h
    refine (a.resultOf_blames repo url st).mono fun more outcome hmore => ?_
    exact h.append nofun hmore fun f hf => .inr hf
  · exact fun f calls h => (h.mono fun g hg => .inl hg).error rfl

/-- **What a run seeks blames its calls.** -/
theorem seek_blames (url : String) :
    a.client.Makes (a.seek repo url) (Blames (Unblamed a.nesting)) := by
  refine (Client.makes_probe repo).bind ?_ ?_
  · rintro fields _ rfl
    have hknown : Blames (Unblamed a.nesting) [.probe repo (.ok fields)] (.ok fields) :=
      blames_singleton fun _ => Iff.rfl
    have hexplore : a.client.Makes (a.explore url repo) (Blames (Unblamed a.nesting)) := by
      refine (a.listRoot_blames repo).bind ?_ ?_
      · rintro ⟨repo', root⟩ calls ⟨hlisted, hroot⟩
        refine (a.scan_blames repo' url root).mono fun more outcome h => ?_
        refine hlisted.append nofun h ?_
        rintro f (⟨rfl, hnested⟩ | ⟨source, target, rfl⟩)
        · refine .nested (List.mem_append_left more (hroot repo' root rfl)) ?_
          exact hnested.mono (List.subset_append_right calls more) (List.Subset.refl root)
        · exact .dangling source target
      · exact fun f calls h => (h.1.mono nofun).error rfl
    refine hexplore.mono fun calls outcome h => hknown.append nofun h fun f hf => ?_
    exact hf.mono (List.subset_append_right _ calls)
  · rintro f _ rfl
    exact (blames_singleton fun _ => Iff.rfl).error rfl

theorem seek_ensures (url : String) :
    (a.seek repo url).Ensures Analysis.IsSound Failure.OfRun := by
  unfold seek
  refine ((a.client.probe_ensures repo).mono_failure fun _ h => ?_).bind ?_
  · exact .scan (.listing (.json h))
  · exact fun _ _ => a.explore_ensures url repo

/-- Directories below a root that was listed among the calls are nested too deeply. -/
def TooDeepBelowRoot (nesting : Nat) (calls : List Call) (f : Failure) : Prop :=
  f = .nestedTooDeeply ∧ ∃ repo root, .list repo "" (.ok root) ∈ calls ∧
    IsNested repo calls nesting root

/-- **A whole run blames its calls**, and no connection for what it ends in. -/
theorem analyze_blames (a : Analyzer) (url : String) (t : Trace) :
    ∃ calls, a.client.Calls t calls ((a.analyze url).outcome t).2 ∧
      Blames (TooDeepBelowRoot a.nesting) calls ((a.analyze url).outcome t).1 := by
  cases hurl : Repository.ofAddress (some url) with
  | error f =>
    obtain ⟨text, rfl⟩ := Failure.eq_of_ofAddress hurl
    rw [a.outcome_analyze_of_error hurl t]
    exact ⟨[], .none t.lines, blames_error (.inl rfl)⟩
  | ok repo =>
    obtain ⟨calls, hcalls, hblames⟩ := a.seek_blames repo url (repo.announced t)
    obtain ⟨lines, hlines⟩ := exists_lines_analyze a hurl t
    have hends : ∀ f, ((a.analyze url).outcome t).1 = .error f ↔ _ := fun f =>
      a.outcome_analyze_error_iff hurl t
    refine ⟨calls, ?_, ⟨fun f hf hended => ?_, fun f hf call hcall hfails => ?_⟩⟩
    · rw [hlines]
      exact hcalls.of_noted.noted lines
    · obtain ⟨hsought, -⟩ := (hends f).1 hended
      refine (hblames.caused f hf hsought).imp_left fun hother => ?_
      cases hother with
      | nested hroot h => exact ⟨rfl, _, _, hroot, h⟩
      | dangling source target =>
        have hrunnable := (a.seek_ensures repo url).failure_of_error hsought
        exact absurd hrunnable (Failure.not_ofRun_danglingConnection source target)
    · -- Nothing stands in for a failure that is not one of the host.
      refine (hends f).2 ⟨hblames.ended f hf call hcall hfails, fun hhost => ?_⟩
      rw [Failure.isReported_of_isHostFailure hhost] at hf
      cases hf

/-- A failure is **caused** on the way that calls tell if it is what is wrong about an answer that
one of them received, or if directories below a root are nested too deeply. -/
def Caused (a : Analyzer) (t : Trace) (calls : List Call) (u : Trace) (f : Failure) : Prop :=
  (∃ call r answer, a.client.Received t calls u call r answer ∧
      answer.IsDefective call.question f) ∨
    TooDeepBelowRoot a.nesting calls f

/-- **What a run is not expected to end in has a cause.** -/
theorem caused_of_blames {a : Analyzer} {calls : List Call} {t u : Trace} {f : Failure}
    {outcome : Except Failure Analysis} (hcalls : a.client.Calls t calls u)
    (h : Blames (TooDeepBelowRoot a.nesting) calls outcome) (hf : f.isReported = false)
    (hended : outcome = .error f) : a.Caused t calls u f :=
  (h.caused f hf hended).symm.imp_left (hcalls.fails_iff hf).1

/-- A failure that a run is expected to be able to end in is documented. -/
theorem isDocumented_of_analyze {a : Analyzer} {url : String} {t : Trace} {f : Failure}
    (hended : ((a.analyze url).outcome t).1 = .error f) (hf : f.isReported = true) :
    f.IsDocumented a.fallback.isSome := by
  cases hurl : Repository.ofAddress (some url) with
  | error g =>
    obtain ⟨text, rfl⟩ := Failure.eq_of_ofAddress hurl
    rw [a.outcome_analyze_of_error hurl t] at hended
    cases hended
    exact .reference text
  | ok repo =>
    obtain ⟨hsought, hbare⟩ := (a.outcome_analyze_error_iff hurl t).1 hended
    have hrunnable := (a.seek_ensures repo url).failure_of_error hsought
    -- Data that stand in for a failure of the host leave no failure.
    refine hrunnable.isDocumented hf fun hhost => ?_
    rw [hbare hhost]
    rfl

/-- **Only documented failures escape, but for defects.**  A run can be told as calls that receive
all answers of the host.  It ends in a failure that is neither documented nor what is wrong about
one of these answers only where directories below a root listing are nested too deeply.  And a
defective answer is never got over: the run ends in what is wrong about it, which is not documented,
whatever there is to fall back to. -/
theorem analyze_fails (a : Analyzer) (url : String) (t : Trace) :
    let run := (a.analyze url).outcome t
    ∃ calls, a.client.Calls t calls run.2 ∧
      (∀ r answer, a.client.Answered t.requests run.2.requests r answer →
        ∃ call, a.client.Received t calls run.2 call r answer) ∧
      (∀ f, run.1 = .error f →
        f.IsDocumented a.fallback.isSome ∨ a.Caused t calls run.2 f) ∧
      ∀ call r answer f, a.client.Received t calls run.2 call r answer →
        answer.IsDefective call.question f →
          run.1 = .error f ∧ ¬ f.IsDocumented a.fallback.isSome := by
  dsimp only
  obtain ⟨calls, hcalls, hblames⟩ := a.analyze_blames url t
  refine ⟨calls, hcalls, ?_, ?_, ?_⟩
  · intro r answer hanswer
    exact hcalls.exists_received hanswer
  · intro f hended
    cases hf : f.isReported with
    | true => exact .inl (isDocumented_of_analyze hended hf)
    | false => exact .inr (caused_of_blames hcalls hblames hf hended)
  · intro call r answer f hreceived hdefective
    have hf := hdefective.isReported_eq_false
    obtain ⟨call', hcall, hfails⟩ :=
      (hcalls.fails_iff hf).2 ⟨call, r, answer, hreceived, hdefective⟩
    refine ⟨hblames.ended f hf call' hcall hfails, fun hdocumented => ?_⟩
    rw [hdocumented.isReported_eq_true] at hf
    cases hf

/-- A host that lists one item at each root, with a path that is no text. -/
def mispathedHost : Host := fun _ r =>
  .response (answerWith (if r.branch = none then "[]" else "[\x7b\"path\": 5\x7d]"))

def mispathedAnalyzer : Analyzer :=
  { smallAnalyzer with client := { smallAnalyzer.client with host := mispathedHost } }

/-- The item ends the run in a failure that is not documented, whether or not there is anything to
fall back to. -/
theorem not_isDocumented_of_mispathed :
    ((mispathedAnalyzer.analyze "github.com/o/n").outcome .empty).1 = .error .namelessEntry ∧
      (((mispathedAnalyzer.withFallback (some Demo.demoAnalysis)).analyze
        "github.com/o/n").outcome .empty).1 = .error .namelessEntry ∧
      ∀ backed, ¬ Failure.namelessEntry.IsDocumented backed := by
  have hurl : Repository.ofAddress (some "github.com/o/n") = .ok smallRepository := rfl
  have hsought : ((mispathedAnalyzer.seek smallRepository "github.com/o/n").outcome
      (smallRepository.announced .empty)).1 = .error .namelessEntry := by decide +kernel
  refine ⟨?_, ?_, fun backed h => ?_⟩
  · exact (outcome_analyze_error_iff _ hurl .empty).2 ⟨hsought, nofun⟩
  · rw [outcome_analyze_error_iff (mispathedAnalyzer.withFallback _) hurl .empty,
      seek_withFallback]
    exact ⟨hsought, nofun⟩
  · cases h.isReported_eq_true

end Analyzer

end NavGraph

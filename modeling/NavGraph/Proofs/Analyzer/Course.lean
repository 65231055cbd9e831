import NavGraph.Proofs.Analyzer.Calls
import NavGraph.Proofs.Analyzer.Traversal
import NavGraph.Proofs.Host.Attempts

/-!
# The course of a run

The requests of a run from first to last, where nothing asks it to stop: attempts at the repository,
attempts at its root on the branch of the address, perhaps attempts at its root on the second
branch, and then the scan, all on the branch whose root was listed.

## Main definitions

* `Repository.branchesTried` - the branches that a run may ask for
* `Client.RootRequests` - the requests on the way to a root listing
* `Client.ScanRequests` - the requests of a scan, all on one branch
* `Client.Course` - the requests of a whole run

## Main statements

* `ScanRequests.asksOn`, `Course.asksOn` - the branches that a scan and a run ask for
* `analyze_course` - the requests of a run take this course

## Design notes

`Client.Calls` tells a run by what came of its calls; here it is told by requests and answers alone,
as somebody would who only sees what goes over the wire.  The branch is the one place where a call
depends on how another one failed.
-/

namespace NavGraph

open Run

namespace Repository

variable (repo : Repository)

/-- The branches that a run for a repository may ask for. -/
def branchesTried : List String :=
  if repo.branch = defaultBranch then [repo.branch, fallbackBranch] else [repo.branch]

theorem branch_mem_branchesTried : repo.branch ∈ repo.branchesTried := by
  unfold branchesTried
  split <;> exact List.mem_cons_self

theorem fallbackBranch_mem_branchesTried (h : repo.branch = defaultBranch) :
    fallbackBranch ∈ repo.branchesTried := by
  rw [branchesTried, if_pos h]
  exact List.mem_cons_of_mem _ (List.mem_singleton.2 rfl)

end Repository

namespace Client

variable (c : Client)

/-- The requests on the way to a root listing, and the repository whose root was listed: on the
second branch only where the address named the default one and its root is not there. -/
inductive RootRequests (repo : Repository) :
    List Request → Option Repository → List Request → Prop where
  | listed {before after : List Request} {answer : Answer}
      (root : c.Asks (c.listRequest repo "") before answer after)
      (hjson : answer.json?.isSome) : RootRequests repo before (some repo) after
  | unlisted {before after : List Request} {answer : Answer}
      (root : c.Asks (c.listRequest repo "") before answer after)
      (hbranch : ¬ (repo.branch = defaultBranch ∧ answer.IsMissing)) :
      RootRequests repo before none after
  | listedSecond {before between after : List Request} {answer second : Answer}
      (root : c.Asks (c.listRequest repo "") before answer between)
      (hbranch : repo.branch = defaultBranch) (hmissing : answer.IsMissing)
      (rootSecond : c.Asks (c.listRequest repo.onFallbackBranch "") between second after)
      (hjson : second.json?.isSome) :
      RootRequests repo before (some repo.onFallbackBranch) after
  | unlistedTwice {before between after : List Request} {answer second : Answer}
      (root : c.Asks (c.listRequest repo "") before answer between)
      (hbranch : repo.branch = defaultBranch) (hmissing : answer.IsMissing)
      (rootSecond : c.Asks (c.listRequest repo.onFallbackBranch "") between second after) :
      RootRequests repo before none after

/-- The requests of a scan of a repository: attempts at its directories, each on its branch, and at
files. -/
inductive ScanRequests (repo : Repository) : List Request → List Request → Prop where
  | done {before : List Request} : ScanRequests repo before before
  | list {before between after : List Request} {answer : Answer} (path : String)
      (asks : c.Asks (c.listRequest repo path) before answer between)
      (later : ScanRequests repo between after) : ScanRequests repo before after
  | read {before between after : List Request} {answer : Answer} (location : String)
      (asks : c.Asks (readRequest location) before answer between)
      (later : ScanRequests repo between after) : ScanRequests repo before after

/-- The requests of a run for a repository: it has to be known before its root is asked for, and a
root has to be listed before it is scanned, on the branch where it was listed. -/
inductive Course (repo : Repository) : List Request → List Request → Prop where
  | unknown {before after : List Request} {answer : Answer}
      (probe : c.Asks (c.probeRequest repo) before answer after)
      (hjson : answer.json? = none) : Course repo before after
  | unlisted {before between after : List Request} {answer : Answer}
      (probe : c.Asks (c.probeRequest repo) before answer between)
      (hjson : answer.json?.isSome)
      (root : c.RootRequests repo between none after) : Course repo before after
  | scanned {before between opened after : List Request} {answer : Answer} {repo' : Repository}
      (probe : c.Asks (c.probeRequest repo) before answer between)
      (hjson : answer.json?.isSome)
      (root : c.RootRequests repo between (some repo') opened)
      (scan : c.ScanRequests repo' opened after) : Course repo before after

variable {c} {repo : Repository}

/-! ### Branches -/

/-- Requests were made, all of them with a branch, if any, that is among those given. -/
def AsksOn (branches : List String) (before after : List Request) : Prop :=
  ∃ made, after = before ++ made ∧
    ∀ r ∈ made, r.branch = none ∨ ∃ branch ∈ branches, r.branch = some branch

section

variable {given more : List String} {before between after : List Request}

theorem asksOn_refl : AsksOn given before before :=
  ⟨[], (List.append_nil before).symm, nofun⟩

theorem AsksOn.trans (h : AsksOn given before between)
    (hafter : AsksOn given between after) : AsksOn given before after := by
  obtain ⟨made, rfl, hmade⟩ := h
  obtain ⟨later, rfl, hlater⟩ := hafter
  exact ⟨made ++ later, List.append_assoc .., List.forall_mem_append.2 ⟨hmade, hlater⟩⟩

theorem AsksOn.mono (h : AsksOn given before after) (hmore : given ⊆ more) :
    AsksOn more before after := by
  obtain ⟨made, hafter, hmade⟩ := h
  refine ⟨made, hafter, fun r hr => (hmade r hr).imp_right ?_⟩
  rintro ⟨branch, hbranch, hr⟩
  exact ⟨branch, hmore hbranch, hr⟩

theorem Asks.asksOn {r : Request} {answer : Answer} (h : c.Asks r before answer after)
    (hr : r.branch = none ∨ ∃ branch ∈ given, r.branch = some branch) :
    AsksOn given before after := by
  obtain ⟨retries, -, hafter, -⟩ := h.exists_replicate
  refine ⟨_, hafter, fun r' hr' => ?_⟩
  rwa [List.eq_of_mem_replicate hr']

theorem ScanRequests.asksOn (h : c.ScanRequests repo before after) :
    AsksOn [repo.branch] before after := by
  induction h with
  | done => exact asksOn_refl
  | list path asks _ ih => exact (asks.asksOn (.inr ⟨_, List.mem_singleton.2 rfl, rfl⟩)).trans ih
  | read location asks _ ih => exact (asks.asksOn (.inl rfl)).trans ih

/-- What is asked for on the way to a root, and the branch on which it is found. -/
theorem RootRequests.asksOn {found : Option Repository}
    (h : c.RootRequests repo before found after) : AsksOn repo.branchesTried before after ∧
      ∀ repo' ∈ found, repo'.branch ∈ repo.branchesTried := by
  -- The root is asked for on the branch of the address, and on the second one as that allows.
  have hfirst : ∀ {before answer after}, c.Asks (c.listRequest repo "") before answer after →
      AsksOn repo.branchesTried before after :=
    fun h => h.asksOn (.inr ⟨_, repo.branch_mem_branchesTried, rfl⟩)
  have hsecond : repo.branch = defaultBranch → ∀ {before answer after},
      c.Asks (c.listRequest repo.onFallbackBranch "") before answer after →
      AsksOn repo.branchesTried before after :=
    fun hbranch {_ _ _} h => h.asksOn (.inr ⟨_, repo.fallbackBranch_mem_branchesTried hbranch, rfl⟩)
  cases h with
  | listed root => exact ⟨hfirst root, by rintro _ ⟨⟩; exact repo.branch_mem_branchesTried⟩
  | unlisted root => exact ⟨hfirst root, nofun⟩
  | listedSecond root hbranch _ rootSecond =>
    refine ⟨(hfirst root).trans (hsecond hbranch rootSecond), ?_⟩
    rintro _ ⟨⟩
    exact repo.fallbackBranch_mem_branchesTried hbranch
  | unlistedTwice root hbranch _ rootSecond =>
    exact ⟨(hfirst root).trans (hsecond hbranch rootSecond), nofun⟩

/-- **A run asks for the branch of its address and, if that is the default one, perhaps for the
second one**, but for no other. -/
theorem Course.asksOn (h : c.Course repo before after) :
    AsksOn repo.branchesTried before after := by
  cases h with
  | unknown probe => exact probe.asksOn (.inl rfl)
  | unlisted probe _ root => exact (probe.asksOn (.inl rfl)).trans root.asksOn.1
  | scanned probe _ root scan =>
    obtain ⟨hroot, hbranch⟩ := root.asksOn
    refine (probe.asksOn (.inl rfl)).trans (hroot.trans (scan.asksOn.mono ?_))
    rintro _ hmem
    rw [List.mem_singleton.1 hmem]
    exact hbranch _ rfl

end

/-! ### From calls to requests -/

section

variable (hsignal : c.cancelled = .never) (hretries : 0 ≤ c.settings.maxRetries)

include hsignal hretries

variable {t u : Trace} {later : List Call}

theorem Calls.probe_attempts {answer : Except Failure (List (String × Json))}
    (h : c.Calls t (.probe repo answer :: later) u) : ∃ (last : Answer) (v : Trace),
      c.Asks (c.probeRequest repo) t.requests last v.requests ∧
      ((∃ fields, answer = .ok fields) ↔ last.json?.isSome) ∧ c.Calls v later u := by
  cases h with
  | made lines happens after =>
    obtain ⟨last, hasks, hjson⟩ := Client.probe_attempts hsignal hretries happens
    exact ⟨last, _, hasks, hjson, after⟩

theorem Calls.list_attempts {path : String} {answer : Except Failure (List Entry)}
    (h : c.Calls t (.list repo path answer :: later) u) : ∃ (last : Answer) (v : Trace),
      c.Asks (c.listRequest repo path) t.requests last v.requests ∧
      ((∃ entries, answer = .ok entries) → last.json?.isSome) ∧
      ((∃ message, answer = .error (.repositoryNotFound message)) ↔ last.IsMissing) ∧
      c.Calls v later u := by
  cases h with
  | made lines happens after =>
    obtain ⟨last, hasks, hjson, hmissing⟩ := Client.list_attempts hsignal hretries happens
    exact ⟨last, _, hasks, hjson, hmissing, after⟩

theorem Calls.read_attempts {location : String} {answer : Except Failure String}
    (h : c.Calls t (.read location answer :: later) u) : ∃ (last : Answer) (v : Trace),
      c.Asks (readRequest location) t.requests last v.requests ∧ c.Calls v later u := by
  cases h with
  | made lines happens after =>
    obtain ⟨last, hasks⟩ := Client.read_attempts hsignal hretries happens
    exact ⟨last, _, hasks, after⟩

/-- Calls that are asked for by entries of a repository make the requests of a scan.  By induction
on the calls; each of them is behind the others as attempts. -/
theorem scanRequests_of_allowedInTurn {seen : List Entry} {calls : List Call}
    (h : c.Calls t calls u) (hallowed : AllowedInTurn repo seen calls) :
    c.ScanRequests repo t.requests u.requests := by
  induction calls generalizing seen t with
  | nil =>
    cases h
    exact .done
  | cons call later ih =>
    obtain ⟨hcall, hlater⟩ := hallowed
    cases call with
    | probe repo' answer => exact hcall.elim
    | list repo' path answer =>
      obtain ⟨rfl, -⟩ := hcall
      obtain ⟨last, v, hasks, -, -, after⟩ := h.list_attempts hsignal hretries
      exact .list path hasks (ih after hlater)
    | read location answer =>
      obtain ⟨last, v, hasks, after⟩ := h.read_attempts hsignal hretries
      exact .read location hasks (ih after hlater)

/-- The calls on the way to a root listing make the requests on that way. -/
theorem rootRequests_of_findsRoot {calls : List Call} {found : Option (Repository × List Entry)}
    (h : c.Calls t (calls ++ later) u) (hroot : FindsRoot repo calls found) : ∃ v : Trace,
      c.RootRequests repo t.requests (found.map Prod.fst) v.requests ∧ c.Calls v later u := by
  cases hroot with
  | listed root =>
    obtain ⟨last, v, hasks, hjson, -, after⟩ := h.list_attempts hsignal hretries
    exact ⟨v, .listed hasks (hjson ⟨root, rfl⟩), after⟩
  | unlisted f hother =>
    -- The entries may have been at fault, so nothing is said of the value of the last answer.
    obtain ⟨last, v, hasks, -, hmissing, after⟩ := h.list_attempts hsignal hretries
    refine ⟨v, .unlisted hasks ?_, after⟩
    rintro ⟨hbranch, hlast⟩
    obtain ⟨message, hf⟩ := hmissing.2 hlast
    cases hf
    exact hother ⟨hbranch, message, rfl⟩
  | listedSecond hbranch message root =>
    obtain ⟨last, v, hasks, -, hmissing, hmore⟩ := h.list_attempts hsignal hretries
    obtain ⟨second, w, hsecond, hjson, -, after⟩ := Calls.list_attempts hsignal hretries hmore
    have hlast := hmissing.1 ⟨message, rfl⟩
    exact ⟨w, .listedSecond hasks hbranch hlast hsecond (hjson ⟨root, rfl⟩), after⟩
  | unlistedTwice hbranch message f =>
    obtain ⟨last, v, hasks, -, hmissing, hmore⟩ := h.list_attempts hsignal hretries
    obtain ⟨second, w, hsecond, -, -, after⟩ := Calls.list_attempts hsignal hretries hmore
    have hlast := hmissing.1 ⟨message, rfl⟩
    exact ⟨w, .unlistedTwice hasks hbranch hlast hsecond, after⟩

/-- Calls that account for a run make the requests of its course. -/
theorem course_of_account {calls : List Call} {outcome : Except Failure Analysis}
    (h : c.Calls t calls u) (haccount : Account repo calls outcome) :
    c.Course repo t.requests u.requests := by
  cases haccount with
  | lost f hopens =>
    cases hopens with
    | unknown g =>
      obtain ⟨last, v, hasks, hjson, after⟩ := h.probe_attempts hsignal hretries
      cases after
      -- With a value in the last answer the probe would have come to something.
      refine .unknown hasks (Option.not_isSome_iff_eq_none.1 fun hlast => ?_)
      obtain ⟨fields, hfields⟩ := hjson.2 hlast
      cases hfields
    | known fields hroot =>
      obtain ⟨last, v, hasks, hjson, after⟩ := h.probe_attempts hsignal hretries
      rename_i opening
      rw [← List.append_nil opening] at after
      obtain ⟨w, hrequests, hend⟩ := rootRequests_of_findsRoot hsignal hretries after hroot
      cases hend
      exact .unlisted hasks (hjson.1 ⟨fields, rfl⟩) hrequests
  | explored hopens scans =>
    cases hopens with
    | known fields hroot =>
      obtain ⟨last, v, hasks, hjson, after⟩ := h.probe_attempts hsignal hretries
      obtain ⟨w, hrequests, hscan⟩ := rootRequests_of_findsRoot hsignal hretries after hroot
      refine .scanned hasks (hjson.1 ⟨fields, rfl⟩) hrequests ?_
      exact scanRequests_of_allowedInTurn hsignal hretries hscan scans.allowed

end

end Client

namespace Analyzer

/-- **Runs take one course, and one branch.**  Where nothing asks a run to stop and the retries
leave an attempt, nothing is asked for without a repository; otherwise the requests are attempts at
it, at its root, at the root on the second branch where the address named the default one and its
root is not there, and then those of a scan on the branch whose root was listed.  No other branch is
asked for. -/
theorem analyze_course {a : Analyzer} (hsignal : a.client.cancelled = .never)
    (hretries : 0 ≤ a.client.settings.maxRetries) (url : String) (t : Trace) :
    match Repository.ofAddress (some url) with
    | .error _ => ((a.analyze url).outcome t).2.requests = t.requests
    | .ok repo => a.client.Course repo t.requests ((a.analyze url).outcome t).2.requests ∧
        Client.AsksOn repo.branchesTried t.requests
          ((a.analyze url).outcome t).2.requests := by
  cases hurl : Repository.ofAddress (some url) with
  | error f => rw [a.outcome_analyze_of_error hurl t]
  | ok repo =>
    obtain ⟨calls, hcalls, haccount⟩ := a.calls_analyze hurl t
    have hcourse := Client.course_of_account hsignal hretries hcalls haccount
    exact ⟨hcourse, hcourse.asksOn⟩

/-- A host that knows the repository, but has no root on either branch. -/
def rootlessHost : Host := fun _ r =>
  if r.branch = none then .response (answerWith "[]")
  else .response { status := 404, headers := [], body := [] }

def rootlessAnalyzer : Analyzer :=
  { smallAnalyzer with client := { smallAnalyzer.client with host := rootlessHost } }

/-- Without a root on the default branch the second one is asked for, and then no more. -/
theorem analyze_course_rootless :
    rootlessAnalyzer.client.Course smallRepository [] [⟨"/repos/o/n", none⟩,
      ⟨"/repos/o/n/contents/", some "main"⟩, ⟨"/repos/o/n/contents/", some "master"⟩] := by
  have hcourse := analyze_course (a := rootlessAnalyzer) rfl (by decide) "github.com/o/n" .empty
  have hrequests : ((rootlessAnalyzer.analyze "github.com/o/n").outcome .empty).2.requests =
      [⟨"/repos/o/n", none⟩, ⟨"/repos/o/n/contents/", some "main"⟩,
        ⟨"/repos/o/n/contents/", some "master"⟩] := by
    decide +kernel
  rw [hrequests, show Repository.ofAddress (some "github.com/o/n") = .ok smallRepository from rfl]
    at hcourse
  exact hcourse.1

end Analyzer

end NavGraph

import NavGraph.Proofs.Host.Serving
import NavGraph.Proofs.Run.Truncation

/-!
# Attempts at a request

The requests behind a call, where nothing asks the run to stop and the retries leave an attempt: one
request over and over, and the last answer to it decides what becomes of the call.

## Main definitions

* `Client.Attempts`, `Client.Asks` - attempts at a request, and the answer that they end in
* `Answer.json?` - the JSON body of a successful answer
* `Answer.IsMissing` - an answer that there is no such thing

## Main statements

* `Attempts.exists_replicate` - attempts are one request, made no oftener than the retries allow
* `request_attempts` - a request is made in attempts, and ends as the last answer says
* `probe_attempts`, `list_attempts`, `read_attempts` - the same for the calls on a client
-/

namespace NavGraph

open Run

/-- What becomes of a request whose last answer means so much. -/
def Verdict.outcome : Verdict → Except Failure Response
  | .success r => .ok r
  | .final f => .error f
  | .retry f => .error f

/-- An answer is worth another attempt. -/
def Verdict.IsRetry : Verdict → Prop
  | .retry _ => True
  | _ => False

namespace Answer

/-- The JSON body of an answer that reports success. -/
def json? : Answer → Option Json
  | response r => if r.isSuccess then bodyJson? r else none
  | _ => none

/-- An answer that there is no such thing. -/
def IsMissing : Answer → Prop
  | response r => r.status = 404
  | _ => False

/-- The failure of a question for JSON that ends in an answer without. -/
def failure (now : Time.Timestamp) (answer : Answer) : Failure :=
  match judge now answer with
  | .success r => Client.jsonFault r
  | .final f => f
  | .retry f => f

/-- A success that is worth a body is a success by its status. -/
theorem isSuccess_of_judge {now : Time.Timestamp} {answer : Answer} {r : Response}
    (h : judge now answer = .success r) : answer = .response r ∧ r.isSuccess = true := by
  cases answer with
  | response response =>
    simp only [judge] at h
    split at h
    · cases h
    · split at h
      · cases h
      · split at h
        · rename_i hsuccess
          cases h
          exact ⟨rfl, hsuccess⟩
        · cases h
  | unreachable reason => cases h
  | unusableAddress message => cases h

/-- Only a success has a value. -/
theorem json?_eq_none {now : Time.Timestamp} {answer : Answer}
    (h : ∀ r, judge now answer ≠ .success r) : answer.json? = none := by
  cases answer with
  | response r =>
    have hsuccess : r.isSuccess ≠ true := fun hr => h r (Client.judge_of_isSuccess hr)
    rw [json?, if_neg hsuccess]
  | unreachable reason => rfl
  | unusableAddress message => rfl

theorem IsMissing.json?_eq_none {answer : Answer} (h : answer.IsMissing) : answer.json? = none := by
  cases answer with
  | response r =>
    have hstatus : r.status = 404 := h
    have hsuccess : r.isSuccess ≠ true := by
      simp [Response.isSuccess, hstatus]
    rw [json?, if_neg hsuccess]
  | unreachable reason => rfl
  | unusableAddress message => rfl

/-- **Only an answer that there is no such thing counts as one.** -/
theorem failure_eq_repositoryNotFound_iff {now : Time.Timestamp} {answer : Answer} :
    (∃ message, answer.failure now = .repositoryNotFound message) ↔ answer.IsMissing := by
  cases answer with
  | response r =>
    have hlimited : r.status = 404 → r.isRateLimited = false := by
      intro h
      rw [Response.isRateLimited, h]
      rfl
    unfold failure IsMissing
    by_cases h404 : r.status = 404
    · simp [judge, hlimited h404, h404, Failure.notFound]
    · simp only [judge, if_neg h404]
      constructor
      · rintro ⟨message, h⟩
        split at h
        · exact absurd h (Client.jsonFault_ne_repositoryNotFound _ _)
        all_goals
          rename_i hjudge
          subst h
          split at hjudge
          · cases hjudge
          · split at hjudge <;> cases hjudge
      · exact fun h => absurd h h404
  | unreachable reason => simp [failure, judge, IsMissing]
  | unusableAddress message => simp [failure, judge, IsMissing]

end Answer

namespace Client

variable (c : Client)

/-! ### Requests behind calls -/

/-- The request for a repository. -/
def probeRequest (repo : Repository) : Request := ⟨c.repositoryUrl repo, none⟩

/-- The request for a directory of a repository, on its branch. -/
def listRequest (repo : Repository) (path : String) : Request :=
  ⟨c.directoryUrl repo path, some repo.branch⟩

/-- The request for a file. -/
def readRequest (location : String) : Request := ⟨location, none⟩

/-- What a client makes of the JSON value of a repository. -/
def fieldsOf : Json → List (String × Json)
  | .object fields => fields
  | _ => []

/-- What a client makes of the JSON value of a directory. -/
def listingOf (path : String) : Json → Run (List Entry)
  | .array items => do
      let entries ← Run.ofExcept (entriesOf items)
      Run.log .debug fetchLogger
        ("Listed " ++ String.ofList (Text.digitsOfNat entries.length) ++ " entries under /" ++ path)
      return entries
  | _ => return []

theorem probe_eq (repo : Repository) :
    c.probe repo = (c.request (c.probeRequest repo) >>= requireJson) >>= fun v =>
      pure (fieldsOf v) := by
  rw [bind_assoc]
  refine bind_congr fun response => bind_congr fun v => ?_
  cases v <;> rfl

theorem list_eq (repo : Repository) (path : String) :
    c.list repo path =
      (c.request (c.listRequest repo path) >>= requireJson) >>= listingOf path := by
  rw [bind_assoc]
  rfl

/-- A body is looked at without asking for anything. -/
theorem outcome_json (r : Request) (t : Trace) : (c.request r >>= requireJson).outcome t =
    match (c.request r).outcome t with
    | (.ok response, u) => (jsonOf response, u)
    | (.error f, u) => (.error f, u) := by
  rw [outcome_bind]
  rcases (c.request r).outcome t with ⟨f | response, u⟩
  · rfl
  · dsimp only
    rw [requireJson, outcome_ofExcept]

/-- What is made of a value asks for nothing more, and never fails as a host does. -/
theorem outcome_listingOf (path : String) (v : Json) (t : Trace) :
    ((listingOf path v).outcome t).2.requests = t.requests ∧
      ∀ message, ((listingOf path v).outcome t).1 ≠ .error (.repositoryNotFound message) := by
  unfold listingOf
  split
  · rename_i items
    rw [outcome_bind, outcome_ofExcept]
    cases hentries : entriesOf items with
    | error f =>
      refine ⟨rfl, ?_⟩
      rintro message ⟨⟩
      obtain h | ⟨problems, h⟩ := eq_of_entriesOf hentries <;> cases h
    | ok entries => exact ⟨rfl, nofun⟩
  · exact ⟨rfl, nofun⟩

/-- Reading a file asks for nothing but the file. -/
theorem requests_read (location : String) (t : Trace) :
    ((c.read location).outcome t).2.requests =
      ((c.request (readRequest location)).outcome t).2.requests := by
  unfold read readRequest
  rw [outcome_tryCatch, outcome_bind]
  rcases (c.request ⟨location, none⟩).outcome t with ⟨f | response, u⟩
  · dsimp only
    split <;> rfl
  · dsimp only
    rw [outcome_ofExcept]
    cases textOf response with
    | ok text => rfl
    | error f =>
      dsimp only
      split <;> rfl

/-! ### Attempts -/

variable (r : Request)

/-- **Attempts** at a request, with so many retries left: from the requests made before to those
made after, together with the answer to the last one.  Another attempt is made where an answer is
worth one and a retry is left, and only there. -/
inductive Attempts : Nat → List Request → Answer → List Request → Prop where
  | last {left : Nat} {before : List Request}
      (h : left = 0 ∨ ¬ (judge c.now (c.host before r)).IsRetry) :
      Attempts left before (c.host before r) (before ++ [r])
  | again {left : Nat} {before after : List Request} {answer : Answer}
      (h : (judge c.now (c.host before r)).IsRetry)
      (later : Attempts left (before ++ [r]) answer after) :
      Attempts (left + 1) before answer after

/-- Attempts are one request, made at least once and no oftener than the retries allow. -/
theorem Attempts.exists_replicate {c : Client} {r : Request} {left : Nat}
    {before after : List Request} {answer : Answer} (h : c.Attempts r left before answer after) :
    ∃ retries ≤ left, after = before ++ List.replicate (retries + 1) r ∧
      answer = c.host (before ++ List.replicate retries r) r := by
  induction h with
  | last => exact ⟨0, Nat.zero_le _, rfl, by rw [List.replicate_zero, List.append_nil]⟩
  | again _ _ ih =>
    obtain ⟨retries, hleft, hafter, hanswer⟩ := ih
    refine ⟨retries + 1, Nat.succ_le_succ hleft, ?_, ?_⟩
    · rw [hafter, List.append_assoc, List.singleton_append, ← List.replicate_succ]
    · rw [hanswer, List.append_assoc, List.singleton_append, ← List.replicate_succ]

/-- A client asks as often as its settings let it. -/
def Asks (before : List Request) (answer : Answer) (after : List Request) : Prop :=
  c.Attempts r c.settings.maxRetries.toNat before answer after

/-- A trace after a request, with the line for an answer that tells no time. -/
def asked (t : Trace) : Trace :=
  ((noteUnreadableTime (limitHeader? (c.host t.requests r))).outcome
    { t with requests := t.requests ++ [r] }).2

theorem outcome_noteUnreadableTime (header : Option String) (t : Trace) :
    (noteUnreadableTime header).outcome t =
      (.ok (), ((noteUnreadableTime header).outcome t).2) := by
  unfold noteUnreadableTime
  split
  · rfl
  · split <;> rfl

@[simp] theorem asked_requests (t : Trace) : (c.asked r t).requests = t.requests ++ [r] := by
  unfold asked noteUnreadableTime
  split
  · rfl
  · split <;> rfl

@[simp] theorem asked_sleeps (t : Trace) : (c.asked r t).sleeps = t.sleeps := by
  unfold asked noteUnreadableTime
  split
  · rfl
  · split <;> rfl

/-- An attempt begins with a look at the signal, which may be the end of it. -/
theorem outcome_attempt_stopped {c : Client} {r : Request} {t : Trace}
    (hstopped : c.cancelled t.requests.length = true) (retries n left : Nat) :
    (c.attempt r retries n left).outcome t = (.error .cancelled, t) := by
  unfold attempt
  rw [outcome_bind, outcome_requireActive, hstopped]
  rfl

section

variable {c r} {t : Trace} (hactive : c.cancelled t.requests.length = false)

include hactive

/-- What each attempt begins with, where nothing asks it to stop. -/
theorem outcome_ask_next {α : Type} (next : Answer → Run α) :
    (requireActive c.cancelled >>= fun _ => ask c.host r >>= fun answer =>
      noteUnreadableTime (limitHeader? answer) >>= fun _ => next answer).outcome t =
      (next (c.host t.requests r)).outcome (c.asked r t) := by
  rw [outcome_bind, outcome_requireActive, hactive]
  simp only [Bool.false_eq_true, if_false]
  rw [outcome_bind, outcome_ask]
  dsimp only
  rw [outcome_bind, outcome_noteUnreadableTime]
  rfl

/-- An attempt with none behind it ends as its answer says. -/
theorem outcome_attempt_last {left : Nat} (retries n : Nat)
    (h : left = 0 ∨ ¬ (judge c.now (c.host t.requests r)).IsRetry) :
    (c.attempt r retries n left).outcome t =
      ((judge c.now (c.host t.requests r)).outcome, c.asked r t) := by
  unfold attempt
  rw [outcome_ask_next hactive]
  cases hjudge : judge c.now (c.host t.requests r) with
  | success response => rfl
  | final f => rfl
  | retry f =>
    rw [hjudge] at h
    obtain rfl | h := h
    · rfl
    · exact absurd trivial h

/-- An attempt that is worth another one is followed by a wait for it, and then by it. -/
theorem outcome_attempt_wait {left : Nat} (retries n : Nat)
    (h : (judge c.now (c.host t.requests r)).IsRetry) :
    ∃ v : Trace, v.requests = t.requests ++ [r] ∧ v.sleeps = t.sleeps ∧
      (c.attempt r retries n (left + 1)).outcome t =
        (sleep (c.delay n) >>= fun _ => c.attempt r retries (n + 1) left).outcome v := by
  rw [attempt, outcome_ask_next hactive]
  cases hjudge : judge c.now (c.host t.requests r) with
  | success response => rw [hjudge] at h; exact h.elim
  | final f => rw [hjudge] at h; exact h.elim
  | retry f =>
    -- Only the line about the retry stands between the attempt and the wait.
    exact ⟨((c.noteRetry r.url n retries f).outcome (c.asked r t)).2, c.asked_requests r t,
      c.asked_sleeps r t, rfl⟩

/-- An attempt that is worth another one is followed by it. -/
theorem outcome_attempt_again {left : Nat} (retries n : Nat)
    (h : (judge c.now (c.host t.requests r)).IsRetry) :
    ∃ u : Trace, u.requests = t.requests ++ [r] ∧
      (c.attempt r retries n (left + 1)).outcome t =
        (c.attempt r retries (n + 1) left).outcome u := by
  obtain ⟨v, hv, -, houtcome⟩ := outcome_attempt_wait hactive retries n h
  exact ⟨((sleep (c.delay n)).outcome v).2, hv, houtcome⟩

end

section

variable {c r} (hsignal : c.cancelled = .never)

include hsignal

/-- Attempts end as the answer to the last of them says.  By induction on the retries left. -/
theorem attempt_attempts (retries n left : Nat) (t : Trace) :
    ∃ (answer : Answer) (u : Trace), c.Attempts r left t.requests answer u.requests ∧
      (c.attempt r retries n left).outcome t = ((judge c.now answer).outcome, u) := by
  have hactive : ∀ t : Trace, c.cancelled t.requests.length = false := by
    intro t
    rw [hsignal]
    rfl
  induction left generalizing n t with
  | zero =>
    refine ⟨_, _, ?_, outcome_attempt_last (hactive t) retries n (.inl rfl)⟩
    rw [asked_requests]
    exact .last (.inl rfl)
  | succ left ih =>
    by_cases h : (judge c.now (c.host t.requests r)).IsRetry
    · obtain ⟨u, hu, houtcome⟩ := outcome_attempt_again (hactive t) retries n h
      obtain ⟨answer, v, hattempts, hlater⟩ := ih (n + 1) u
      rw [hu] at hattempts
      exact ⟨answer, v, .again h hattempts, houtcome.trans hlater⟩
    · refine ⟨_, _, ?_, outcome_attempt_last (hactive t) retries n (.inr h)⟩
      rw [asked_requests]
      exact .last (.inr h)

variable (hretries : 0 ≤ c.settings.maxRetries)

include hretries

/-- **A request is made in attempts**, and ends as the answer to the last of them says. -/
theorem request_attempts (r : Request) (t : Trace) :
    ∃ (answer : Answer) (u : Trace), c.Asks r t.requests answer u.requests ∧
      (c.request r).outcome t = ((judge c.now answer).outcome, u) := by
  rw [request_eq_attempt hretries]
  exact attempt_attempts hsignal _ _ _ t

/-! ### Attempts behind calls -/

/-- A question for JSON ends in the value of the last answer, if that has one. -/
theorem json_attempts (r : Request) (t : Trace) :
    ∃ (answer : Answer) (u : Trace), c.Asks r t.requests answer u.requests ∧
      (c.request r >>= requireJson).outcome t =
        (answer.json?.elim (.error (answer.failure c.now)) .ok, u) := by
  obtain ⟨answer, u, hasks, houtcome⟩ := request_attempts hsignal hretries r t
  refine ⟨answer, u, hasks, ?_⟩
  rw [outcome_json, houtcome]
  cases hjudge : judge c.now answer with
  | success response =>
    obtain ⟨rfl, hsuccess⟩ := Answer.isSuccess_of_judge hjudge
    simp only [Verdict.outcome, Answer.json?, hsuccess, if_true, Answer.failure, hjudge]
    unfold jsonOf
    cases bodyJson? response <;> rfl
  | final f =>
    rw [Answer.json?_eq_none fun r => by rw [hjudge]; nofun]
    simp only [Verdict.outcome, Answer.failure, hjudge, Option.elim_none]
  | retry f =>
    rw [Answer.json?_eq_none fun r => by rw [hjudge]; nofun]
    simp only [Verdict.outcome, Answer.failure, hjudge, Option.elim_none]

variable {t u : Trace}

/-- A repository is known where the last attempt at its address is answered with JSON. -/
theorem probe_attempts {repo : Repository} {result : Except Failure (List (String × Json))}
    (h : (c.probe repo).outcome t = (result, u)) :
    ∃ answer, c.Asks (c.probeRequest repo) t.requests answer u.requests ∧
      ((∃ fields, result = .ok fields) ↔ answer.json?.isSome) := by
  obtain ⟨answer, u', hasks, houtcome⟩ := json_attempts hsignal hretries (c.probeRequest repo) t
  rw [probe_eq, outcome_bind, houtcome] at h
  cases hjson : answer.json? with
  | none =>
    rw [hjson] at h
    cases h
    exact ⟨answer, hasks, by simp [hjson]⟩
  | some v =>
    rw [hjson] at h
    cases h
    exact ⟨answer, hasks, by simp [hjson]⟩

/-- A directory is listed only where the last attempt at it is answered with JSON, and is missing
where that answer says that there is no such thing. -/
theorem list_attempts {repo : Repository} {path : String} {result : Except Failure (List Entry)}
    (h : (c.list repo path).outcome t = (result, u)) :
    ∃ answer, c.Asks (c.listRequest repo path) t.requests answer u.requests ∧
      ((∃ entries, result = .ok entries) → answer.json?.isSome) ∧
      ((∃ message, result = .error (.repositoryNotFound message)) ↔ answer.IsMissing) := by
  obtain ⟨answer, u', hasks, houtcome⟩ :=
    json_attempts hsignal hretries (c.listRequest repo path) t
  rw [list_eq, outcome_bind, houtcome] at h
  cases hjson : answer.json? with
  | none =>
    rw [hjson] at h
    cases h
    refine ⟨answer, hasks, by rintro ⟨_, ⟨⟩⟩, ?_⟩
    simp only [Except.error.injEq]
    exact Answer.failure_eq_repositoryNotFound_iff
  | some v =>
    have hmissing : ¬ answer.IsMissing := by
      intro hmissing
      rw [hmissing.json?_eq_none] at hjson
      cases hjson
    rw [hjson] at h
    dsimp only [Option.elim_some] at h
    obtain ⟨hrequests, hfailure⟩ := outcome_listingOf path v u'
    rw [h] at hrequests hfailure
    rw [← hrequests] at hasks
    refine ⟨answer, hasks, by simp [hjson], ?_⟩
    exact ⟨fun ⟨message, hresult⟩ => absurd hresult (hfailure message),
      fun hm => absurd hm hmissing⟩

/-- A file is read by attempts at its address. -/
theorem read_attempts {location : String} {result : Except Failure String}
    (h : (c.read location).outcome t = (result, u)) :
    ∃ answer, c.Asks (readRequest location) t.requests answer u.requests := by
  obtain ⟨answer, u', hasks, houtcome⟩ :=
    request_attempts hsignal hretries (readRequest location) t
  have hu := c.requests_read location t
  rw [h, houtcome] at hu
  rw [← hu] at hasks
  exact ⟨answer, hasks⟩

end

end Client

end NavGraph

import Mathlib.Tactic.SplitIfs
import NavGraph.Proofs.Host.Attempts

/-!
# The pace of a request

How often a request is made, how long the client waits before it asks again, and what becomes of
it, all told by the sequence of answers alone: the client asks until an answer is final or the
retries are used up, waits longer after each attempt, and goes by the last answer.

## Main definitions

* `Answer.IsFinal` - an answer after which the client does not ask again
* `Answer.outcome` - what a request ends in that has this answer for its last
* `attemptCount` - the number of attempts that a sequence of answers leads to
* `Client.Paces` - attempts with the waits between them

## Main statements

* `Response.header?_of_unique` - a header is found under its name in any case of the letters
* `isRetry_judge_iff`, `outcome_judge` - what the client makes of an answer is told by its status
* `attempt_paces` - attempts keep their pace, whichever attempt comes first
* `request_paced` - the requests, the waits and the outcome of a request
-/

namespace NavGraph

open Run

/-! ### Headers by their names -/

namespace Response

variable {r : Response} {name other key value : String}

theorem headerKey_eq (name : String) : headerKey name = name.toLower.toList :=
  String.toList_map.symm

theorem headerKey_eq_iff : headerKey name = headerKey other ↔ name.toLower = other.toLower := by
  rw [headerKey_eq, headerKey_eq, String.toList_inj]

/-- Names that differ in the case of their letters only are names of the same header. -/
theorem header?_congr (h : name.toLower = other.toLower) : r.header? name = r.header? other := by
  unfold header?
  rw [headerKey_eq_iff.2 h]

theorem filter_headers_eq_nil_iff {headers : List (String × String)} :
    (headers.filter fun h => headerKey h.1 == headerKey name) = [] ↔
      ∀ h ∈ headers, h.1.toLower ≠ name.toLower := by
  simp only [List.filter_eq_nil_iff, beq_iff_eq, headerKey_eq_iff]

/-- There is no value exactly if no header has that name in any case of its letters. -/
theorem header?_eq_none_iff :
    r.header? name = none ↔ ∀ h ∈ r.headers, h.1.toLower ≠ name.toLower := by
  rw [← filter_headers_eq_nil_iff]
  unfold header?
  split
  · rename_i hfound
    exact iff_of_true rfl hfound
  · rename_i hfound
    exact iff_of_false nofun hfound

/-- **A header has its value under its name in any case of the letters**, wherever it stands among
headers of other names. -/
theorem header?_of_unique {before after : List (String × String)}
    (hheaders : r.headers = before ++ (key, value) :: after) (hkey : key.toLower = name.toLower)
    (hbefore : ∀ h ∈ before, h.1.toLower ≠ name.toLower)
    (hafter : ∀ h ∈ after, h.1.toLower ≠ name.toLower) : r.header? name = some value := by
  have hhit : (headerKey key == headerKey name) = true := beq_iff_eq.2 (headerKey_eq_iff.2 hkey)
  have hfound : (r.headers.filter fun h => headerKey h.1 == headerKey name) = [(key, value)] := by
    rw [hheaders, List.filter_append, filter_headers_eq_nil_iff.2 hbefore, List.filter_cons,
      if_pos hhit, filter_headers_eq_nil_iff.2 hafter, List.nil_append]
  rw [header?, hfound]
  rfl

end Response

/-! ### Answers by their status -/

/-- A response that refuses an answer for having been asked too often. -/
def Response.IsRefusal (r : Response) : Prop :=
  r.status = 429 ∨ (r.status = 403 ∧ r.header? "X-RateLimit-Remaining" = some "0")

instance : DecidablePred Response.IsRefusal := fun _ => inferInstanceAs (Decidable (_ ∨ _))

theorem Response.isRateLimited_iff {r : Response} : r.isRateLimited = true ↔ r.IsRefusal := by
  simp [isRateLimited, IsRefusal]

/-- Forbidden requests of which none is left are refused, however the header is spelled that says
so. -/
theorem Response.isRefusal_of_header {r : Response} {key : String}
    {before after : List (String × String)} (hstatus : r.status = 403)
    (hheaders : r.headers = before ++ (key, "0") :: after)
    (hkey : key.toLower = "x-ratelimit-remaining")
    (hbefore : ∀ h ∈ before, h.1.toLower ≠ "x-ratelimit-remaining")
    (hafter : ∀ h ∈ after, h.1.toLower ≠ "x-ratelimit-remaining") : r.IsRefusal := by
  have hname : "X-RateLimit-Remaining".toLower = "x-ratelimit-remaining" := by decide +kernel
  refine .inr ⟨hstatus, header?_of_unique hheaders ?_ ?_ ?_⟩ <;> rwa [hname]

theorem Response.isSuccess_iff {r : Response} :
    r.isSuccess = true ↔ 200 ≤ r.status ∧ r.status < 300 := by
  simp [isSuccess]

namespace Answer

/-- An answer is **final** if it is a success, if it says that there is no such thing, or if it
refuses; and nothing is asked a second time at an address that makes no sense. -/
def IsFinal : Answer → Prop
  | response r => (200 ≤ r.status ∧ r.status < 300) ∨ r.status = 404 ∨ r.IsRefusal
  | unreachable _ => False
  | unusableAddress _ => True

instance : DecidablePred IsFinal
  | response _ => inferInstanceAs (Decidable (_ ∨ _))
  | unreachable _ => inferInstanceAs (Decidable False)
  | unusableAddress _ => inferInstanceAs (Decidable True)

/-- What a request ends in that has this answer for its last. -/
def outcome (now : Time.Timestamp) : Answer → Except Failure Response
  | response r =>
      if 200 ≤ r.status ∧ r.status < 300 then .ok r
      else if r.status = 404 then .error .notFound
      else if r.IsRefusal then .error (.rateLimited (resetTime now (r.header? "X-RateLimit-Reset")))
      else .error (.hostError (some (Int.ofNat r.status)) "")
  | unreachable reason => .error (.hostError none reason)
  | unusableAddress message => .error (.unusableAddress message)

end Answer

variable {now : Time.Timestamp} {answer : Answer}

/-- A refusal is no success and does not say that there is no such thing, so the order in which the
client looks at a status does not matter. -/
theorem Response.IsRefusal.status_ne {r : Response} (h : r.IsRefusal) :
    ¬ (200 ≤ r.status ∧ r.status < 300) ∧ r.status ≠ 404 := by
  obtain h | ⟨h, -⟩ := h <;> omega

theorem judge_response (now : Time.Timestamp) (r : Response) :
    judge now (.response r) =
      if 200 ≤ r.status ∧ r.status < 300 then .success r
      else if r.status = 404 then .final .notFound
      else if r.IsRefusal then .final (.rateLimited (resetTime now (r.header? "X-RateLimit-Reset")))
      else .retry (.hostError (some (Int.ofNat r.status)) "") := by
  simp only [judge, Response.isRateLimited_iff, Response.isSuccess_iff]
  by_cases hrefusal : r.IsRefusal
  · obtain ⟨hsuccess, hmissing⟩ := hrefusal.status_ne
    rw [if_pos hrefusal, if_neg hsuccess, if_neg hmissing, if_pos hrefusal]
  · rw [if_neg hrefusal, if_neg hrefusal]
    by_cases hmissing : r.status = 404
    · have hsuccess : ¬ (200 ≤ r.status ∧ r.status < 300) := by omega
      rw [if_pos hmissing, if_neg hsuccess, if_pos hmissing]
    · rw [if_neg hmissing, if_neg hmissing]

/-- **What a request ends in is told by the status of its last answer.** -/
theorem outcome_judge : (judge now answer).outcome = answer.outcome now := by
  cases answer with
  | response r =>
    rw [judge_response, Answer.outcome]
    split_ifs <;> rfl
  | unreachable reason => rfl
  | unusableAddress message => rfl

/-- **Exactly the answers that are not final are worth another attempt.** -/
theorem isRetry_judge_iff : (judge now answer).IsRetry ↔ ¬ answer.IsFinal := by
  cases answer with
  | response r =>
    rw [judge_response, Answer.IsFinal]
    split_ifs with hsuccess hmissing hrefusal
    · exact iff_of_false id fun h => h (.inl hsuccess)
    · exact iff_of_false id fun h => h (.inr (.inl hmissing))
    · exact iff_of_false id fun h => h (.inr (.inr hrefusal))
    · refine iff_of_true trivial ?_
      rintro (h | h | h)
      · exact hsuccess h
      · exact hmissing h
      · exact hrefusal h
  | unreachable reason => exact iff_of_true trivial id
  | unusableAddress message => exact iff_of_false id fun h => h trivial

/-! ### How many attempts -/

/-- How many attempts a sequence of answers leads to: so many that the last answer is the first
final one, or one more than the retries if none of these is. -/
def attemptCount (answers : Nat → Answer) (retries : Nat) : Nat :=
  ((List.range (retries + 1)).find? fun i => (answers i).IsFinal).elim (retries + 1) (· + 1)

variable {answers : Nat → Answer} {retries : Nat}

theorem attemptCount_of_isFinal (h : (answers 0).IsFinal) : attemptCount answers retries = 1 := by
  rw [attemptCount, List.range_succ_eq_map, List.find?_cons_of_pos (by simpa using h)]
  rfl

theorem attemptCount_zero : attemptCount answers 0 = 1 := by
  by_cases h : (answers 0).IsFinal
  · exact attemptCount_of_isFinal h
  · rw [attemptCount, List.range_one, List.find?_cons_of_neg (by simpa using h)]
    rfl

theorem attemptCount_succ (h : ¬ (answers 0).IsFinal) :
    attemptCount answers (retries + 1) = attemptCount (fun i => answers (i + 1)) retries + 1 := by
  rw [attemptCount, List.range_succ_eq_map, List.find?_cons_of_neg (by simpa using h),
    List.find?_map, Option.elim_map, attemptCount]
  unfold Function.comp
  cases (List.range (retries + 1)).find? fun i => (answers (i + 1)).IsFinal <;> rfl

theorem attemptCount_pos : 0 < attemptCount answers retries := by
  unfold attemptCount
  cases (List.range (retries + 1)).find? fun i => (answers i).IsFinal <;> exact Nat.succ_pos _

/-! ### Attempts with the waits between them -/

namespace Client

variable (c : Client) (r : Request)

/-- The answers to attempts at a request in order, after some requests. -/
def answersTo (before : List Request) (i : Nat) : Answer := c.host (before ++ List.replicate i r) r

/-- The waits behind so many attempts, from the `n`-th attempt on. -/
def waits (n count : Nat) : List Float := (List.range' n count).map c.delay

theorem waits_succ (n count : Nat) :
    c.waits n (count + 1) = c.delay n :: c.waits (n + 1) count := by
  rw [waits, List.range'_succ, List.map_cons, waits]

theorem answersTo_zero (before : List Request) : c.answersTo r before 0 = c.host before r := by
  rw [answersTo, List.replicate_zero, List.append_nil]

theorem answersTo_append (before : List Request) (i : Nat) :
    c.answersTo r (before ++ [r]) i = c.answersTo r before (i + 1) := by
  rw [answersTo, answersTo, List.append_assoc, List.singleton_append, ← List.replicate_succ]

/-- Attempts **keep their pace** if, from the `n`-th on, so many are made, with a wait behind each
but the last, and end as the last answer says.  Once `i + 1` of them are made and `i` waits are
over, the next thing to happen is one more wait, and only then comes the next attempt. -/
structure Paces (retries n left : Nat) (t : Trace) (count : Nat) (last : Answer) (u : Trace) :
    Prop where
  outcome_eq : (c.attempt r retries n left).outcome t = (last.outcome c.now, u)
  requests_eq : u.requests = t.requests ++ List.replicate count r
  sleeps_eq : u.sleeps = t.sleeps ++ c.waits n (count - 1)
  waiting : ∀ i, i + 1 < count → ∃ v : Trace,
    v.requests = t.requests ++ List.replicate (i + 1) r ∧ v.sleeps = t.sleeps ++ c.waits n i ∧
    (c.attempt r retries n left).outcome t =
      (sleep (c.delay (n + i)) >>= fun _ =>
        c.attempt r retries (n + i + 1) (left - (i + 1))).outcome v

variable {c r} {retries n left : Nat} {t : Trace} (hactive : c.cancelled t.requests.length = false)

include hactive

/-- One attempt, if there is no retry left or its answer is final. -/
theorem paces_last (h : left = 0 ∨ (c.host t.requests r).IsFinal) :
    c.Paces r retries n left t 1 (c.host t.requests r) (c.asked r t) where
  outcome_eq := by
    have hlast : left = 0 ∨ ¬ (judge c.now (c.host t.requests r)).IsRetry :=
      h.imp_right fun hfinal hretry => isRetry_judge_iff.1 hretry hfinal
    rw [outcome_attempt_last hactive retries n hlast, outcome_judge]
  requests_eq := c.asked_requests r t
  sleeps_eq := by rw [asked_sleeps, waits, List.range'_zero, List.map_nil, List.append_nil]
  waiting i hi := by omega

/-- One attempt more, with the wait behind it. -/
theorem paces_again {count : Nat} {last : Answer} (h : ¬ (c.host t.requests r).IsFinal)
    (hlater : ∀ w : Trace, w.requests = t.requests ++ [r] →
      w.sleeps = t.sleeps ++ [c.delay n] → ∃ u, c.Paces r retries (n + 1) left w count last u)
    (hcount : 0 < count) : ∃ u, c.Paces r retries n (left + 1) t (count + 1) last u := by
  obtain ⟨v, hrequests, hsleeps, houtcome⟩ :=
    outcome_attempt_wait hactive retries n (isRetry_judge_iff.2 h)
  obtain ⟨u, hpaces⟩ := hlater { v with sleeps := v.sleeps ++ [c.delay n] } hrequests
    (congrArg (· ++ [c.delay n]) hsleeps)
  have hwaited : (sleep (c.delay n) >>= fun _ => c.attempt r retries (n + 1) left).outcome v =
      (c.attempt r retries (n + 1) left).outcome
        { v with sleeps := v.sleeps ++ [c.delay n] } := rfl
  refine ⟨u, ⟨?_, ?_, ?_, ?_⟩⟩
  · rw [houtcome, hwaited, hpaces.outcome_eq]
  · rw [hpaces.requests_eq, hrequests, List.append_assoc, List.singleton_append,
      ← List.replicate_succ]
  · obtain ⟨k, rfl⟩ : ∃ k, count = k + 1 := ⟨count - 1, by omega⟩
    rw [hpaces.sleeps_eq, hsleeps, Nat.add_sub_cancel, Nat.add_sub_cancel, waits_succ,
      List.append_assoc, List.singleton_append]
  · intro i hi
    cases i with
    | zero => exact ⟨v, hrequests, by simp [hsleeps, waits], houtcome⟩
    | succ i =>
      obtain ⟨w, hw, hwaits, hnext⟩ := hpaces.waiting i (by omega)
      refine ⟨w, ?_, ?_, ?_⟩
      · rw [hw, hrequests, List.append_assoc, List.singleton_append, ← List.replicate_succ]
      · rw [hwaits, hsleeps, waits_succ, List.append_assoc, List.singleton_append]
      · rw [houtcome, hwaited, hnext, Nat.add_sub_add_right, Nat.add_right_comm n 1 i,
          Nat.add_assoc n i 1]

omit hactive

/-- **Attempts keep their pace**, by induction on the retries left: an answer that is not final puts
one attempt and one wait in front of the others. -/
theorem attempt_paces (hsignal : c.cancelled = .never) (retries n left : Nat) (t : Trace) :
    ∃ u, c.Paces r retries n left t (attemptCount (c.answersTo r t.requests) left)
      (c.answersTo r t.requests (attemptCount (c.answersTo r t.requests) left - 1)) u := by
  have hactive : ∀ t : Trace, c.cancelled t.requests.length = false := by
    intro t
    rw [hsignal]
    rfl
  induction left generalizing n t with
  | zero =>
    rw [attemptCount_zero, Nat.sub_self, answersTo_zero]
    exact ⟨_, paces_last (hactive t) (.inl rfl)⟩
  | succ left ih =>
    by_cases hfinal : (c.answersTo r t.requests 0).IsFinal
    · rw [attemptCount_of_isFinal hfinal, Nat.sub_self]
      rw [answersTo_zero] at hfinal ⊢
      exact ⟨_, paces_last (hactive t) (.inr hfinal)⟩
    · rw [attemptCount_succ hfinal, Nat.add_sub_cancel]
      rw [answersTo_zero] at hfinal
      refine paces_again (hactive t) hfinal (fun w hw _ => ?_) attemptCount_pos
      have hanswers : c.answersTo r w.requests = fun i => c.answersTo r t.requests (i + 1) := by
        funext i
        rw [hw, answersTo_append]
      obtain ⟨u, hpaces⟩ := ih (n + 1) w
      rw [hanswers] at hpaces
      dsimp only at hpaces
      rw [Nat.sub_add_cancel attemptCount_pos] at hpaces
      exact ⟨u, hpaces⟩

/-- **The pace of a request.**  Let nothing ask the client to stop, and let its settings leave an
attempt.  Whatever the host answers, the request is made until the first final answer, or once more
than there are retries if none of so many answers is final; behind each attempt but the last there
is one wait, as many times the base delay as attempts have been made; and the last answer alone
decides what the request ends in. -/
theorem request_paced (hsignal : c.cancelled = .never) (hretries : 0 ≤ c.settings.maxRetries)
    (r : Request) (t : Trace) :
    let retries := c.settings.maxRetries.toNat
    let answers := c.answersTo r t.requests
    let count := attemptCount answers retries
    ∃ u, (c.request r).outcome t = ((answers (count - 1)).outcome c.now, u) ∧
      u.requests = t.requests ++ List.replicate count r ∧
      u.sleeps = t.sleeps ++
        (List.range' 1 (count - 1)).map (fun i => c.settings.retryBaseDelay * Float.ofNat i) ∧
      ∀ i, i + 1 < count → ∃ v : Trace,
        v.requests = t.requests ++ List.replicate (i + 1) r ∧
        v.sleeps = t.sleeps ++
          (List.range' 1 i).map (fun i => c.settings.retryBaseDelay * Float.ofNat i) ∧
        (c.request r).outcome t =
          (sleep (c.settings.retryBaseDelay * Float.ofNat (i + 1)) >>= fun _ =>
            c.attempt r retries (i + 2) (retries - (i + 1))).outcome v := by
  intro retries answers count
  obtain ⟨u, hpaces⟩ := attempt_paces (r := r) hsignal retries 1 retries t
  rw [request_eq_attempt hretries]
  refine ⟨u, hpaces.outcome_eq, hpaces.requests_eq, hpaces.sleeps_eq, fun i hi => ?_⟩
  obtain ⟨v, hrequests, hsleeps, hnext⟩ := hpaces.waiting i hi
  rw [Nat.add_comm 1 i] at hnext
  exact ⟨v, hrequests, hsleeps, hnext⟩

/-- A host that is out of order when it is asked for the first two times. -/
def flakyHost : Host := fun before _ =>
  .response { status := if before.length < 2 then 500 else 200, headers := [], body := [] }

def flakyClient : Client where
  host := flakyHost
  settings := { Settings.default with retryBaseDelay := 0.5 }
  cancelled := .never
  now := ⟨0, none, by decide, nofun⟩

/-- The client waits for half a second and for twice as long, and then gets what it asked for. -/
theorem request_paced_flaky :
    flakyClient.cancelled = .never ∧ 0 ≤ flakyClient.settings.maxRetries ∧
      ∃ u, (flakyClient.request ⟨"a", none⟩).outcome .empty =
          (.ok { status := 200, headers := [], body := [] }, u) ∧
        u.requests = [⟨"a", none⟩, ⟨"a", none⟩, ⟨"a", none⟩] ∧
        u.sleeps = [0.5 * Float.ofNat 1, 0.5 * Float.ofNat 2] := by
  have hretries : 0 ≤ flakyClient.settings.maxRetries := by decide
  have hcount : attemptCount (flakyClient.answersTo ⟨"a", none⟩ []) 2 = 3 := by decide
  obtain ⟨u, houtcome, hrequests, hsleeps, -⟩ :=
    request_paced (c := flakyClient) rfl hretries ⟨"a", none⟩ .empty
  have hmax : flakyClient.settings.maxRetries.toNat = 2 := rfl
  have hempty : Trace.empty.requests = [] := rfl
  rw [hmax, hempty, hcount] at houtcome hrequests hsleeps
  exact ⟨rfl, hretries, u, houtcome, hrequests, hsleeps⟩

end Client

end NavGraph

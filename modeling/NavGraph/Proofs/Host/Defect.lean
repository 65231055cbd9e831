import NavGraph.Proofs.Host.Attempts
import NavGraph.Proofs.Host.Call
import NavGraph.Proofs.Host.Listing
import NavGraph.Proofs.Json.Nesting

/-!
# Defective answers

Some answers are neither what was asked for nor a failure of the host that a client is prepared for:
an address that makes no sense, a body that the machine cannot read, and a listing with an item that
makes no entry.  What is wrong depends on the question: a repository and a directory are asked for
as JSON, a file as a text.  A call fails with what is wrong about an answer that it received,
always, and never fails with anything else that a run is not expected to end in.

## Main definitions

* `Client.Answered` - an answer that a host gave on the way from one list of requests to a longer
  one
* `Question`, `Call.question` - what a call asks for
* `Question.Rejects`, `Answer.IsDefective` - what is wrong about a success, and about any answer,
  that no client is prepared for
* `Client.Settles` - what attempts at a request come to, whenever they are asked to stop
* `Client.Received` - a call received an answer, on the way that calls tell

## Main statements

* `Answer.exists_isDefective_iff` - which answers are defective
* `Answer.isDefective_of_brackets` - opening brackets that the machine cannot follow are
* `request_settles` - a request ends as the last answer to it says, or without one
* `happens_fails_iff` - a call fails with the defects of the answers to it
* `Calls.exists_received`, `Calls.fails_iff` - every answer is received by a call, and calls fail
  with the defects of what they receive

## Design notes

Unlike what is said of attempts where nothing asks a run to stop, nothing is assumed here of signals
and retries, so a request may end without an answer.  The same address may be asked for as a
repository and later as a file, so a defect is told by the call that received the answer and not by
the request.
-/

namespace NavGraph

open Run

/-! ### Answers on the way -/

namespace Client

variable (c : Client)

/-- On the way from some requests to more of them the host gave an answer to a request. -/
def Answered (start stop : List Request) (r : Request) (answer : Answer) : Prop :=
  ∃ before, start <+: before ∧ before ++ [r] <+: stop ∧ c.host before r = answer

variable {c} {start middle stop : List Request} {r r' : Request} {answer : Answer}

theorem not_answered_self : ¬ c.Answered start start r answer := by
  rintro ⟨before, hstart, hstop, -⟩
  have hlength := (hstart.trans (List.prefix_append before [r])).length_le
  have hlength' := hstop.length_le
  have hlength'' := hstart.length_le
  rw [List.length_append, List.length_singleton] at hlength'
  omega

theorem answered_concat_iff :
    c.Answered start (start ++ [r]) r' answer ↔ r' = r ∧ c.host start r = answer := by
  constructor
  · rintro ⟨before, hstart, hstop, hanswer⟩
    have hlength := hstart.length_le
    have hlength' := hstop.length_le
    simp only [List.length_append, List.length_singleton] at hlength'
    have hbefore : before = start := (hstart.eq_of_length (by omega)).symm
    subst hbefore
    have hlast : before ++ [r'] = before ++ [r] := hstop.eq_of_length (by simp)
    obtain rfl : r' = r := by simpa using hlast
    exact ⟨rfl, hanswer⟩
  · rintro ⟨rfl, hanswer⟩
    exact ⟨start, List.prefix_rfl, List.prefix_rfl, hanswer⟩

/-- Answers on the way are those of its first part and those of its second. -/
theorem answered_iff_or (hstart : start <+: middle) (hstop : middle <+: stop) :
    c.Answered start stop r answer ↔
      c.Answered start middle r answer ∨ c.Answered middle stop r answer := by
  constructor
  · rintro ⟨before, hbefore, hafter, hanswer⟩
    obtain h | h := List.prefix_or_prefix_of_prefix hafter hstop
    · exact .inl ⟨before, hbefore, h, hanswer⟩
    · obtain h | h := List.prefix_concat_iff.1 h
      · exact .inl ⟨before, hbefore, h ▸ List.prefix_rfl, hanswer⟩
      · exact .inr ⟨before, h, hafter, hanswer⟩
  · rintro (⟨before, hbefore, hafter, hanswer⟩ | ⟨before, hbefore, hafter, hanswer⟩)
    · exact ⟨before, hbefore, hafter.trans hstop, hanswer⟩
    · exact ⟨before, hstart.trans hbefore, hafter, hanswer⟩

end Client

theorem Verdict.outcome_eq_ok_iff {verdict : Verdict} {response : Response} :
    verdict.outcome = .ok response ↔ verdict = .success response := by
  cases verdict <;> simp [outcome]

theorem Verdict.outcome_eq_error_iff {verdict : Verdict} {f : Failure} :
    verdict.outcome = .error f ↔ verdict = .final f ∨ verdict = .retry f := by
  cases verdict <;> simp [outcome]

namespace Answer

/-- The response of an answer that reports success. -/
def success? : Answer → Option Response
  | .response r => if r.isSuccess then some r else none
  | _ => none

theorem success?_eq_some_iff (now : Time.Timestamp) {answer : Answer} {response : Response} :
    answer.success? = some response ↔ judge now answer = .success response := by
  constructor
  · intro h
    cases answer with
    | response r =>
      simp only [success?, Option.ite_none_right_eq_some, Option.some.injEq] at h
      obtain ⟨hsuccess, rfl⟩ := h
      exact Client.judge_of_isSuccess hsuccess
    | unreachable reason => cases h
    | unusableAddress message => cases h
  · intro h
    obtain ⟨rfl, hsuccess⟩ := isSuccess_of_judge h
    rw [success?, if_pos hsuccess]

/-- Of all answers only an address that makes no sense is judged a failure that a run is not
expected to end in. -/
theorem unusable_of_judge {now : Time.Timestamp} {answer : Answer} {f : Failure}
    (hf : f.isReported = false) (h : (judge now answer).outcome = .error f) :
    ∃ message, answer = .unusableAddress message ∧ f = .unusableAddress message := by
  have hjudge := Verdict.outcome_eq_error_iff.1 h
  have hfailed : ¬ answer.IsFailed := by
    intro hfailed
    obtain ⟨g, hg, hverdict⟩ := Client.judge_of_isFailed now hfailed
    have hfg : f = g := by
      obtain h | h := hjudge <;> obtain h' | h' := hverdict <;> rw [h] at h' <;> cases h' <;> rfl
    rw [hfg, Failure.isReported_of_isHostFailure hg] at hf
    cases hf
  cases answer with
  | response r =>
    have hsuccess : r.isSuccess = true := by
      cases hr : r.isSuccess with
      | true => rfl
      | false => exact absurd hr hfailed
    rw [Client.judge_of_isSuccess hsuccess] at h
    cases h
  | unreachable reason => exact absurd trivial hfailed
  | unusableAddress message =>
    obtain h | h := hjudge <;> cases h
    exact ⟨message, rfl, rfl⟩

end Answer

/-! ### Questions -/

/-- What a call asks for. -/
inductive Question where
  | repository
  | listing
  | content
  deriving DecidableEq

/-- What a call asks for. -/
def Call.question : Call → Question
  | probe _ _ => .repository
  | list _ _ _ => .listing
  | read _ _ => .content

/-- What is wrong with a response that reports success as an answer to a question: it is JSON that
is nested more deeply than the machine follows it, a listing that is not understood, or a text that
is not written in its charset. -/
inductive Question.Rejects : Question → Response → Failure → Prop where
  | nested {q : Question} {response : Response} (hq : q ≠ .content)
      (h : isNestedTooDeeply response = true) : Rejects q response .nestedTooDeeply
  | entry {response : Response} {items : List Json} {f : Failure}
      (hjson : bodyJson? response = some (.array items))
      (h : Client.entriesOf items = .error f) : Rejects .listing response f
  | charset {response : Response} {message : String} (h : response.text = .error message) :
      Rejects .content response (.unreadableBody message)

/-- What is wrong about an answer to a question that no client is prepared for: its address makes no
sense, or it reports success with a response to be rejected. -/
inductive Answer.IsDefective (q : Question) : Answer → Failure → Prop where
  | address (message : String) :
      IsDefective q (.unusableAddress message) (.unusableAddress message)
  | rejected {answer : Answer} {response : Response} {f : Failure}
      (hsuccess : answer.success? = some response) (h : q.Rejects response f) :
      IsDefective q answer f

theorem Question.Rejects.isReported_eq_false {q : Question} {response : Response} {f : Failure}
    (h : q.Rejects response f) : f.isReported = false := by
  cases h with
  | nested hq h => rfl
  | entry hjson h => obtain rfl | ⟨problems, rfl⟩ := Client.eq_of_entriesOf h <;> rfl
  | charset h => rfl

theorem Answer.IsDefective.isReported_eq_false {q : Question} {answer : Answer} {f : Failure}
    (h : answer.IsDefective q f) : f.isReported = false := by
  cases h with
  | address message => rfl
  | rejected hsuccess h => exact h.isReported_eq_false

/-- A listing is not understood exactly if one of its items is not orderly. -/
theorem Client.exists_entriesOf_error_iff {items : List Json} :
    (∃ f, entriesOf items = .error f) ↔ ∃ item ∈ items, ¬ item.IsOrderly := by
  have hok : (∃ entries, entriesOf items = .ok entries) ↔ ¬ ∃ item ∈ items, ¬ item.IsOrderly := by
    simp only [entriesOf_ok_iff, not_exists, not_and, Classical.not_not]
  cases h : entriesOf items with
  | error f =>
    refine iff_of_true ⟨f, rfl⟩ (Classical.not_not.1 fun hall => ?_)
    obtain ⟨entries, hentries⟩ := hok.2 hall
    rw [h] at hentries
    cases hentries
  | ok entries => exact iff_of_false nofun (hok.1 ⟨entries, h⟩)

/-- **Which answers are defective**: addresses that make no sense, JSON that is nested too deeply
where JSON is asked for, listings with an item that is not orderly, and files that are not written
in their charset. -/
theorem Answer.exists_isDefective_iff {q : Question} {answer : Answer} :
    (∃ f, answer.IsDefective q f) ↔ (∃ message, answer = .unusableAddress message) ∨
      ∃ response, answer.success? = some response ∧
        (q ≠ .content ∧ isNestedTooDeeply response = true ∨
          q = .listing ∧ (∃ items, bodyJson? response = some (.array items) ∧
            ∃ item ∈ items, ¬ item.IsOrderly) ∨
          q = .content ∧ ∃ message, response.text = .error message) := by
  constructor
  · rintro ⟨f, h⟩
    cases h with
    | address message => exact .inl ⟨message, rfl⟩
    | rejected hsuccess h =>
      refine .inr ⟨_, hsuccess, ?_⟩
      cases h with
      | nested hq h => exact .inl ⟨hq, h⟩
      | entry hjson h =>
        exact .inr (.inl ⟨rfl, _, hjson, Client.exists_entriesOf_error_iff.1 ⟨f, h⟩⟩)
      | charset h => exact .inr (.inr ⟨rfl, _, h⟩)
  · rintro (⟨message, rfl⟩ | ⟨response, hsuccess, h⟩)
    · exact ⟨_, .address message⟩
    · obtain ⟨hq, h⟩ | ⟨rfl, items, hjson, hitem⟩ | ⟨rfl, message, h⟩ := h
      · exact ⟨_, .rejected hsuccess (.nested hq h)⟩
      · obtain ⟨f, h⟩ := Client.exists_entriesOf_error_iff.2 hitem
        exact ⟨f, .rejected hsuccess (.entry hjson h)⟩
      · exact ⟨_, .rejected hsuccess (.charset h)⟩

/-! ### Bodies of opening brackets -/

theorem detectEncoding_brackets (n : Nat) :
    detectEncoding (List.replicate n 91) = (.utf8, List.replicate n 91) := by
  match n with
  | 0 => rfl
  | 1 => rfl
  | 2 => rfl
  | 3 => rfl
  | n + 4 => rfl

theorem utf8Chars_brackets (n : Nat) :
    Text.utf8Chars true (List.replicate n 91) = List.replicate n (some '[') := by
  induction n with
  | zero => rfl
  | succ n ih =>
    rw [List.replicate_succ, List.replicate_succ, ← ih]
    rfl

theorem jsonChars?_brackets {r : Response} {n : Nat} (hbody : r.body = List.replicate n 91) :
    jsonChars? r = some (List.replicate n '[') := by
  rw [jsonChars?, hbody, detectEncoding_brackets]
  dsimp only
  rw [decode?, utf8Chars_brackets, ← List.map_replicate, List.mapM_map, Function.id_comp]
  exact (List.mapM_pure (m := Option) (f := id)).trans (congrArg some (List.map_id _))

/-- **More opening brackets than the machine follows are a defect** of any answer that is to be
JSON, even though nothing is closed and no value is ever read. -/
theorem Answer.isDefective_of_brackets {q : Question} {r : Response} {n : Nat}
    (hq : q ≠ .content) (hsuccess : r.isSuccess = true) (hbody : r.body = List.replicate n 91)
    (hn : r.nesting < n) : (Answer.response r).IsDefective q .nestedTooDeeply := by
  have hnested : isNestedTooDeeply r = true := by
    have hbrackets := Json.nestsBeyond_brackets hn []
    rw [List.append_nil] at hbrackets
    rw [isNestedTooDeeply, jsonChars?_brackets hbody, Option.any_some, hbrackets]
  exact .rejected (if_pos hsuccess) (.nested hq hnested)

namespace Client

variable {response : Response} {f : Failure}

/-- Of what is wrong with a JSON body only its nesting is not expected. -/
theorem jsonOf_eq_error_iff (hf : f.isReported = false) :
    jsonOf response = .error f ↔ isNestedTooDeeply response = true ∧ f = .nestedTooDeeply := by
  unfold jsonOf jsonFault
  cases hnested : isNestedTooDeeply response with
  | true =>
    rw [bodyJson?, hnested, if_pos rfl, if_pos rfl, Except.error.injEq]
    simp [eq_comm]
  | false =>
    refine iff_of_false ?_ nofun
    cases bodyJson? response with
    | some v => nofun
    | none =>
      rintro ⟨⟩
      cases hf

/-- A response that is rejected as a listing has no value, or one that is not understood. -/
theorem rejects_listing_iff (hf : f.isReported = false) : Question.listing.Rejects response f ↔
    jsonOf response = .error f ∨
      ∃ items, jsonOf response = .ok (.array items) ∧ entriesOf items = .error f := by
  rw [jsonOf_eq_error_iff hf]
  simp only [jsonOf_eq_ok_iff]
  constructor
  · intro h
    cases h with
    | nested hq h => exact .inl ⟨h, rfl⟩
    | entry hjson h => exact .inr ⟨_, hjson, h⟩
  · rintro (⟨h, rfl⟩ | ⟨items, hjson, h⟩)
    · exact .nested nofun h
    · exact .entry hjson h

theorem rejects_repository_iff (hf : f.isReported = false) :
    Question.repository.Rejects response f ↔ jsonOf response = .error f := by
  rw [jsonOf_eq_error_iff hf]
  constructor
  · rintro ⟨hq, h⟩
    exact ⟨h, rfl⟩
  · rintro ⟨h, rfl⟩
    exact .nested nofun h

theorem rejects_content_iff :
    Question.content.Rejects response f ↔ textOf response = .error f := by
  rw [textOf_eq_error_iff]
  constructor
  · intro h
    cases h with
    | nested hq h => exact absurd rfl hq
    | charset h => exact ⟨_, h, rfl⟩
  · rintro ⟨message, h, rfl⟩
    exact .charset h

end Client

/-! ### Requests -/

namespace Client

/-- What attempts at a request come to, on the way from some requests to more: only that request is
made, and it ends as an answer to it says or without one. -/
structure Settles (c : Client) (r : Request) (start stop : List Request)
    (outcome : Except Failure Response) : Prop where
  grows : start <+: stop
  answered : ∀ r' answer, c.Answered start stop r' answer → r' = r ∧
    ((judge c.now answer).IsRetry ∨ outcome = (judge c.now answer).outcome)
  source : outcome = .error .cancelled ∨ outcome = .error (.hostError none "no request attempted") ∨
    ∃ answer, c.Answered start stop r answer ∧ outcome = (judge c.now answer).outcome

variable {c : Client} {r : Request} {start middle stop : List Request}
  {outcome : Except Failure Response}

theorem settles_of_unasked (h : outcome = .error .cancelled ∨
    outcome = .error (.hostError none "no request attempted")) :
    c.Settles r start start outcome where
  grows := List.prefix_rfl
  answered _ _ h := absurd h not_answered_self
  source := or_assoc.1 (.inl h)

theorem settles_of_asked :
    c.Settles r start (start ++ [r]) (judge c.now (c.host start r)).outcome where
  grows := List.prefix_append start [r]
  answered r' answer h := by
    obtain ⟨rfl, rfl⟩ := answered_concat_iff.1 h
    exact ⟨rfl, .inr rfl⟩
  source := .inr (.inr ⟨_, answered_concat_iff.2 ⟨rfl, rfl⟩, rfl⟩)

/-- Where an answer is worth another attempt, that attempt settles the request. -/
theorem Settles.after (h : c.Settles r (start ++ [r]) stop outcome)
    (hretry : (judge c.now (c.host start r)).IsRetry) : c.Settles r start stop outcome where
  grows := (List.prefix_append start [r]).trans h.grows
  answered r' answer hanswer := by
    obtain hfirst | hlater :=
      (answered_iff_or (List.prefix_append start [r]) h.grows).1 hanswer
    · obtain ⟨rfl, rfl⟩ := answered_concat_iff.1 hfirst
      exact ⟨rfl, .inl hretry⟩
    · exact h.answered r' answer hlater
  source := by
    refine h.source.imp_right (Or.imp_right fun ⟨answer, hanswer, houtcome⟩ => ?_)
    have hafter := (answered_iff_or (List.prefix_append start [r]) h.grows).2 (.inr hanswer)
    exact ⟨answer, hafter, houtcome⟩

/-- Attempts settle a request, by induction on the retries left. -/
theorem attempt_settles (retries n left : Nat) (t : Trace) :
    c.Settles r t.requests ((c.attempt r retries n left).outcome t).2.requests
      ((c.attempt r retries n left).outcome t).1 := by
  induction left generalizing n t with
  | zero =>
    cases hsignal : c.cancelled t.requests.length with
    | true =>
      rw [outcome_attempt_stopped hsignal]
      exact settles_of_unasked (.inl rfl)
    | false =>
      rw [outcome_attempt_last hsignal retries n (.inl rfl), asked_requests]
      exact settles_of_asked
  | succ left ih =>
    cases hsignal : c.cancelled t.requests.length with
    | true =>
      rw [outcome_attempt_stopped hsignal]
      exact settles_of_unasked (.inl rfl)
    | false =>
      -- An answer that is worth another attempt decides nothing; any other one is the last.
      by_cases hretry : (judge c.now (c.host t.requests r)).IsRetry
      · obtain ⟨u, hu, houtcome⟩ := outcome_attempt_again hsignal retries n hretry
        have hlater := ih (n + 1) u
        rw [hu] at hlater
        rw [houtcome]
        exact hlater.after hretry
      · rw [outcome_attempt_last hsignal retries n (.inr hretry), asked_requests]
        exact settles_of_asked

/-- **A request is settled**, by the answer to one of the attempts at it or without one. -/
theorem request_settles (r : Request) (t : Trace) :
    c.Settles r t.requests ((c.request r).outcome t).2.requests ((c.request r).outcome t).1 := by
  unfold request
  split
  · exact attempt_settles _ _ _ t
  · exact settles_of_unasked (.inr rfl)

/-! ### Calls -/

/-- A request **yields** the response of an answer that reports success, and of all failures that a
run is not expected to end in only those of addresses that make no sense. -/
structure Yields (c : Client) (r : Request) (start stop : List Request)
    (outcome : Except Failure Response) : Prop where
  grows : start <+: stop
  only : ∀ r' answer, c.Answered start stop r' answer → r' = r
  ok_iff : ∀ response, outcome = .ok response ↔
    ∃ answer, c.Answered start stop r answer ∧ answer.success? = some response
  fails_iff : ∀ f, f.isReported = false → (outcome = .error f ↔
    ∃ message, f = .unusableAddress message ∧ c.Answered start stop r (.unusableAddress message))

theorem request_yields (c : Client) (r : Request) (t : Trace) :
    c.Yields r t.requests ((c.request r).outcome t).2.requests ((c.request r).outcome t).1 := by
  have h := request_settles (c := c) r t
  generalize ((c.request r).outcome t).2.requests = stop at h ⊢
  generalize ((c.request r).outcome t).1 = outcome at h ⊢
  constructor
  case grows => exact h.grows
  case only => exact fun r' answer hanswer => (h.answered r' answer hanswer).1
  case ok_iff =>
    intro response
    constructor
    · rintro rfl
      obtain hstopped | hnone | ⟨answer, hanswer, houtcome⟩ := h.source
      · cases hstopped
      · cases hnone
      · refine ⟨answer, hanswer, (Answer.success?_eq_some_iff c.now).2 ?_⟩
        exact Verdict.outcome_eq_ok_iff.1 houtcome.symm
    · rintro ⟨answer, hanswer, hsuccess⟩
      have hjudge := (Answer.success?_eq_some_iff c.now).1 hsuccess
      obtain hretry | houtcome := (h.answered r answer hanswer).2
      · rw [hjudge] at hretry
        exact hretry.elim
      · rw [houtcome, hjudge]
        rfl
  case fails_iff =>
    intro f hf
    constructor
    · rintro rfl
      obtain hstopped | hnone | ⟨answer, hanswer, houtcome⟩ := h.source
      · cases hstopped
        cases hf
      · cases hnone
        cases hf
      · obtain ⟨message, rfl, rfl⟩ := Answer.unusable_of_judge hf houtcome.symm
        exact ⟨message, rfl, hanswer⟩
    · rintro ⟨message, rfl, hanswer⟩
      obtain hretry | houtcome := (h.answered r _ hanswer).2
      · exact hretry.elim
      · exact houtcome

/-- An outcome owes each failure that a run is not expected to end in to a defect of an answer to a
question, given on the way from some requests to more, and passes no defect over. -/
structure FailsByDefects {α : Type} (c : Client) (q : Question) (start stop : List Request)
    (outcome : Except Failure α) : Prop where
  grows : start <+: stop
  error_iff : ∀ f, f.isReported = false → (outcome = .error f ↔
    ∃ r answer, c.Answered start stop r answer ∧ answer.IsDefective q f)

/-- What fails with its request, or rejects the response, fails by defects of answers. -/
theorem Yields.failsByDefects {α : Type} {q : Question} {outcome : Except Failure Response}
    {result : Except Failure α} (h : c.Yields r start stop outcome)
    (hresult : ∀ f, f.isReported = false → (result = .error f ↔ outcome = .error f ∨
      ∃ response, outcome = .ok response ∧ q.Rejects response f)) :
    c.FailsByDefects q start stop result where
  grows := h.grows
  error_iff f hf := by
    rw [hresult f hf, h.fails_iff f hf]
    constructor
    · rintro (⟨message, rfl, hanswer⟩ | ⟨response, houtcome, hrejects⟩)
      · exact ⟨r, _, hanswer, .address message⟩
      · obtain ⟨answer, hanswer, hsuccess⟩ := (h.ok_iff response).1 houtcome
        exact ⟨r, answer, hanswer, .rejected hsuccess hrejects⟩
    · rintro ⟨r', answer, hanswer, hdefective⟩
      obtain rfl := h.only r' answer hanswer
      cases hdefective with
      | address message => exact .inl ⟨message, rfl, hanswer⟩
      | rejected hsuccess hrejects =>
        exact .inr ⟨_, (h.ok_iff _).2 ⟨answer, hanswer, hsuccess⟩, hrejects⟩

end Client

/-- A call ended in a failure. -/
def Call.Fails (f : Failure) : Call → Prop
  | probe _ answer => answer = .error f
  | list _ _ answer => answer = .error f
  | read _ answer => answer = .error f

namespace Client

variable {c : Client} {t u : Trace} {call : Call} {calls : List Call} {f : Failure}

theorem outcome_listingOf_error_iff {path : String} {v : Json} :
    ((listingOf path v).outcome t).1 = .error f ↔
      ∃ items, v = .array items ∧ entriesOf items = .error f := by
  unfold listingOf
  split
  · rename_i items
    rw [outcome_bind, outcome_ofExcept]
    cases hentries : entriesOf items with
    | error g => simp [hentries]
    | ok entries =>
      refine iff_of_false nofun ?_
      rintro ⟨items', hitems, hfailed⟩
      cases hitems
      rw [hentries] at hfailed
      cases hfailed
  · rename_i hother
    refine iff_of_false nofun ?_
    rintro ⟨items, rfl, -⟩
    exact hother items rfl

/-- Reading a file hands on what a run is not expected to end in, be it of the request or of the
text. -/
theorem outcome_read_error_iff (location : String) (t : Trace) (hf : f.isReported = false) :
    ((c.read location).outcome t).1 = .error f ↔
      ((c.request (readRequest location)).outcome t).1 = .error f ∨
        ∃ response, ((c.request (readRequest location)).outcome t).1 = .ok response ∧
          textOf response = .error f := by
  have hhandler : ∀ (g : Failure) (u : Trace),
      ((if g = .cancelled ∨ g.isReported = false then throw g
        else do
          Run.log .warning fetchLogger ("Could not read " ++ location ++ ": " ++ g.message)
          return "" : Run String).outcome u).1 = .error f ↔ g = f := by
    intro g u
    by_cases hg : g = .cancelled ∨ g.isReported = false
    · rw [if_pos hg, outcome_throw, Except.error.injEq]
    · rw [if_neg hg]
      refine iff_of_false nofun ?_
      rintro rfl
      exact hg (.inr hf)
  unfold Client.read readRequest
  rw [outcome_tryCatch, outcome_bind]
  rcases (c.request ⟨location, none⟩).outcome t with ⟨g | response, u⟩
  · dsimp only
    rw [hhandler]
    simp
  · dsimp only
    rw [outcome_ofExcept]
    cases htext : textOf response with
    | ok text => simp [htext]
    | error g =>
      dsimp only
      rw [hhandler]
      simp [htext]

theorem probe_failsByDefects (c : Client) (repo : Repository) (t : Trace) :
    c.FailsByDefects .repository t.requests ((c.probe repo).outcome t).2.requests
      ((c.probe repo).outcome t).1 := by
  have hyields := c.request_yields (c.probeRequest repo) t
  rw [probe_eq, outcome_bind, outcome_json]
  generalize (c.request (c.probeRequest repo)).outcome t = asked at hyields ⊢
  obtain ⟨g | response, u⟩ := asked <;> dsimp only at hyields ⊢
  · exact hyields.failsByDefects fun f _ => by simp
  · cases hjson : jsonOf response with
    | error g => exact hyields.failsByDefects fun f hf => by simp [rejects_repository_iff hf, hjson]
    | ok v => exact hyields.failsByDefects fun f hf => by simp [rejects_repository_iff hf, hjson]

theorem list_failsByDefects (c : Client) (repo : Repository) (path : String) (t : Trace) :
    c.FailsByDefects .listing t.requests ((c.list repo path).outcome t).2.requests
      ((c.list repo path).outcome t).1 := by
  have hyields := c.request_yields (c.listRequest repo path) t
  rw [list_eq, outcome_bind, outcome_json]
  generalize (c.request (c.listRequest repo path)).outcome t = asked at hyields ⊢
  obtain ⟨g | response, u⟩ := asked <;> dsimp only at hyields ⊢
  · exact hyields.failsByDefects fun f _ => by simp
  · cases hjson : jsonOf response with
    | error g => exact hyields.failsByDefects fun f hf => by simp [rejects_listing_iff hf, hjson]
    | ok v =>
      dsimp only
      rw [(outcome_listingOf path v u).1]
      refine hyields.failsByDefects fun f hf => ?_
      simp [outcome_listingOf_error_iff, rejects_listing_iff hf, hjson]

theorem read_failsByDefects (c : Client) (location : String) (t : Trace) :
    c.FailsByDefects .content t.requests ((c.read location).outcome t).2.requests
      ((c.read location).outcome t).1 := by
  rw [c.requests_read location t]
  refine (c.request_yields (readRequest location) t).failsByDefects fun f hf => ?_
  rw [outcome_read_error_iff location t hf]
  simp only [rejects_content_iff]

/-- **A call fails with the defects of the answers to it**, and with nothing else that a run is not
expected to end in. -/
theorem happens_fails_iff (h : c.Happens call t u) :
    t.requests <+: u.requests ∧ ∀ f, f.isReported = false → (call.Fails f ↔
      ∃ r answer, c.Answered t.requests u.requests r answer ∧
        answer.IsDefective call.question f) := by
  cases call with
  | probe repo answer =>
    have hfails := c.probe_failsByDefects repo t
    rw [show (c.probe repo).outcome t = (answer, u) from h] at hfails
    exact ⟨hfails.grows, hfails.error_iff⟩
  | list repo path answer =>
    have hfails := c.list_failsByDefects repo path t
    rw [show (c.list repo path).outcome t = (answer, u) from h] at hfails
    exact ⟨hfails.grows, hfails.error_iff⟩
  | read location answer =>
    have hfails := c.read_failsByDefects location t
    rw [show (c.read location).outcome t = (answer, u) from h] at hfails
    exact ⟨hfails.grows, hfails.error_iff⟩

/-! ### Calls one after the other -/

/-- On the way that calls tell, one of them **received** an answer to a request: the host gave it
while the call was made. -/
def Received (c : Client) (t : Trace) (calls : List Call) (u : Trace) (call : Call) (r : Request)
    (answer : Answer) : Prop :=
  ∃ earlier later v w, calls = earlier ++ call :: later ∧ c.Calls t earlier v ∧
    c.Happens call v w ∧ c.Calls w later u ∧ c.Answered v.requests w.requests r answer

theorem Calls.grows (h : c.Calls t calls u) : t.requests <+: u.requests := by
  induction h with
  | none lines => exact List.prefix_rfl
  | made lines happens _ ih => exact (happens_fails_iff happens).1.trans ih

/-- Each of the calls was made after those before it and before those after it. -/
theorem Calls.split {earlier later : List Call} (h : c.Calls t (earlier ++ call :: later) u) :
    ∃ v w, c.Calls t earlier v ∧ c.Happens call v w ∧ c.Calls w later u := by
  induction earlier generalizing t with
  | nil =>
    cases h with
    | made lines happens after => exact ⟨_, _, .none lines, happens, after⟩
  | cons first earlier ih =>
    cases h with
    | made lines happens after =>
      obtain ⟨v, w, hearlier, hcall, hlater⟩ := ih after
      exact ⟨v, w, .made lines happens hearlier, hcall, hlater⟩

/-- **Every answer is received by a call**, by induction on the calls. -/
theorem Calls.exists_received {r : Request} {answer : Answer} (h : c.Calls t calls u)
    (hanswer : c.Answered t.requests u.requests r answer) :
    ∃ call, c.Received t calls u call r answer := by
  induction h with
  | none lines => exact absurd hanswer not_answered_self
  | @made t _ _ call _ lines happens after ih =>
    have hgrows := (happens_fails_iff happens).1
    obtain hanswer | hanswer := (answered_iff_or hgrows after.grows).1 hanswer
    · exact ⟨call, [], _, _, _, rfl, .none lines, happens, after, hanswer⟩
    · obtain ⟨call', earlier, later, v, w, rfl, hearlier, hrest⟩ := ih hanswer
      exact ⟨call', call :: earlier, later, v, w, rfl, .made lines happens hearlier, hrest⟩

/-- **Calls fail with the defects of what they receive.** -/
theorem Calls.fails_iff (h : c.Calls t calls u) (hf : f.isReported = false) :
    (∃ call ∈ calls, call.Fails f) ↔
      ∃ call r answer, c.Received t calls u call r answer ∧
        answer.IsDefective call.question f := by
  constructor
  · rintro ⟨call, hcall, hfails⟩
    obtain ⟨earlier, later, rfl⟩ := List.append_of_mem hcall
    obtain ⟨v, w, hearlier, happens, hlater⟩ := h.split
    obtain ⟨r, answer, hanswer, hdefective⟩ := ((happens_fails_iff happens).2 f hf).1 hfails
    exact ⟨call, r, answer, ⟨earlier, later, v, w, rfl, hearlier, happens, hlater, hanswer⟩,
      hdefective⟩
  · rintro ⟨call, r, answer, ⟨earlier, later, v, w, rfl, -, happens, -, hanswer⟩, hdefective⟩
    refine ⟨call, List.mem_append_right earlier (List.mem_cons_self ..), ?_⟩
    exact ((happens_fails_iff happens).2 f hf).2 ⟨r, answer, hanswer, hdefective⟩

end Client

end NavGraph

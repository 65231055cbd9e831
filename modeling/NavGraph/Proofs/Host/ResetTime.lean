import NavGraph.Proofs.Host.Defect
import NavGraph.Proofs.Host.Pacing
import NavGraph.Proofs.Number.Integer
import NavGraph.Proofs.Time.Moment

/-!
# When a host answers again

A response that refuses an answer tells in a header when the host answers again.  A header that
writes an integer with a moment tells this moment; any other tells nothing, and the present time
stands in.  A refusal ends the request with the time of its own header, and the web services report
this time.

## Main definitions

* `HeaderTells` - a header that writes an integer with a moment

## Main statements

* `resetTime_of_headerTells`, `resetTime_of_not_headerTells` - the time of a header
* `Client.request_refused_iff` - requests that end in a refusal, with the time of its header
* `resetTime_exact` - the time of a header, in a request and in an answer of a web service

## Design notes

Nothing can go wrong on the way: a text is an integer or none, an integer has a moment or none, and
in each case there is a time.  Blanks, signs, underscores and digits of other scripts are part of
what `IsInteger` says, and leap years and the ends of the calendar part of what `IsMoment` says.
-/

namespace NavGraph

open Number Run Time

/-! ### The time of a header -/

/-- A header **tells** the moment that an integer in it has. -/
def HeaderTells (header : String) (n : Int) (d : Date) (second : Nat) : Prop :=
  IsInteger header n ∧ IsMoment n d second

variable {now : Timestamp} {header : String} {n : Int} {d : Date} {second : Nat}

theorem headerTime?_eq_some_iff {t : Timestamp} : headerTime? header = some t ↔
    ∃ n, IsInteger header n ∧ Timestamp.ofEpochSeconds? n = some t := by
  unfold headerTime?
  simp only [Option.bind_eq_some_iff, headerInt?_eq_some_iff]

/-- **A header that tells a moment has this moment for its time.** -/
theorem resetTime_of_headerTells (now : Timestamp) (h : HeaderTells header n d second) :
    ∃ t, resetTime now (some header) = t ∧ Timestamp.ofEpochSeconds? n = some t ∧
      t.offset = some 0 ∧ t.date = d ∧ t.microsOfDay = second * 1000000 := by
  obtain ⟨hinteger, hmoment⟩ := h
  obtain ⟨t, ht, hfields⟩ := Timestamp.exists_of_isMoment hmoment
  refine ⟨t, ?_, ht, hfields⟩
  rw [resetTime, headerTime?_eq_some_iff.2 ⟨n, hinteger, ht⟩, Option.getD_some]

/-- **A header that tells no moment has the present time.** -/
theorem resetTime_of_not_headerTells {header : Option String}
    (h : ∀ text ∈ header, ∀ n d second, ¬ HeaderTells text n d second) :
    resetTime now header = now := by
  cases header with
  | none => rfl
  | some text =>
    cases htime : headerTime? text with
    | none => rw [resetTime, htime, Option.getD_none]
    | some t =>
      obtain ⟨n, hinteger, ht⟩ := headerTime?_eq_some_iff.1 htime
      exact absurd ⟨hinteger, Timestamp.isMoment_of_ofEpochSeconds? ht⟩ (h text rfl n _ _)

theorem not_isInteger_empty : ¬ IsInteger "" n := by
  rw [← headerInt?_eq_some_iff]
  nofun

/-- Of two headers the one with the larger integer tells the later time. -/
theorem isBefore_resetTime {later : String} {m : Int} {d' : Date} {second' : Nat}
    (h : HeaderTells header n d second) (h' : HeaderTells later m d' second') (hlt : n < m) :
    (resetTime now (some header)).IsBefore (resetTime now (some later)) := by
  obtain ⟨t, rfl, ht, -⟩ := resetTime_of_headerTells now h
  obtain ⟨u, rfl, hu, -⟩ := resetTime_of_headerTells now h'
  exact Timestamp.isBefore_of_ofEpochSeconds? ht hu hlt

/-! ### Refused requests -/

/-- **An answer ends a request in a refusal exactly if it is one.** -/
theorem Answer.outcome_eq_rateLimited_iff {answer : Answer} {reset : Timestamp} :
    answer.outcome now = .error (.rateLimited reset) ↔ ∃ response, answer = .response response ∧
      response.IsRefusal ∧ reset = resetTime now (response.header? "X-RateLimit-Reset") := by
  cases answer with
  | response r =>
    have hresponse : (∃ response, Answer.response r = .response response ∧ response.IsRefusal ∧
        reset = resetTime now (response.header? "X-RateLimit-Reset")) ↔
        r.IsRefusal ∧ reset = resetTime now (r.header? "X-RateLimit-Reset") := by
      simp
    rw [hresponse, outcome]
    by_cases hrefusal : r.IsRefusal
    · obtain ⟨hsuccess, hmissing⟩ := hrefusal.status_ne
      rw [if_neg hsuccess, if_neg hmissing, if_pos hrefusal, and_iff_right hrefusal,
        Except.error.injEq, Failure.rateLimited.injEq]
      exact eq_comm
    · rw [if_neg hrefusal]
      refine iff_of_false ?_ fun h => hrefusal h.1
      split_ifs <;> simp [Failure.notFound]
  | unreachable reason => simp [outcome]
  | unusableAddress message => simp [outcome]

namespace Client

/-- **A request ends in a refusal exactly if one of the answers to it is a refusal**, and the time
is that of the header of this answer. -/
theorem request_refused_iff (c : Client) (r : Request) (t : Trace) (reset : Timestamp) :
    ((c.request r).outcome t).1 = .error (.rateLimited reset) ↔ ∃ response : Response,
      c.Answered t.requests ((c.request r).outcome t).2.requests r (.response response) ∧
        response.IsRefusal ∧ reset = resetTime c.now (response.header? "X-RateLimit-Reset") := by
  have hsettles := request_settles (c := c) r t
  constructor
  · intro hended
    obtain hstopped | hnone | ⟨answer, hanswered, houtcome⟩ := hsettles.source
    · rw [hended] at hstopped
      cases hstopped
    · rw [hended] at hnone
      cases hnone
    · rw [hended, outcome_judge] at houtcome
      obtain ⟨response, rfl, hrefusal, hreset⟩ := Answer.outcome_eq_rateLimited_iff.1 houtcome.symm
      exact ⟨response, hanswered, hrefusal, hreset⟩
  · rintro ⟨response, hanswered, hrefusal, rfl⟩
    obtain ⟨-, hretry | hended⟩ := hsettles.answered r _ hanswered
    · exact absurd (.inr (.inr hrefusal)) (isRetry_judge_iff.1 hretry)
    · rw [hended, outcome_judge]
      exact Answer.outcome_eq_rateLimited_iff.2 ⟨response, rfl, hrefusal, rfl⟩

end Client

/-- **The time at which a host answers again is exact.**  A header that writes an integer with a
moment has this moment in UTC for its time; its long form reads back to as many seconds; and larger
integers have later times.  Any other header, and none at all, has the present time.  A request with
a refusal among the answers to it ends in the time of the header of that answer, and only such a
request ends in a time; and what a web service says of it reads back to the same time. -/
theorem resetTime_exact (now : Timestamp) :
    (∀ header n d second, HeaderTells header n d second →
      let t := resetTime now (some header)
      t.offset = some 0 ∧ t.date = d ∧ t.microsOfDay = second * 1000000 ∧
        (Timestamp.ofText? t.isoText).map Timestamp.toEpochMicros = some (n * 1000000)) ∧
    (∀ header later n m d d' second second', HeaderTells header n d second →
      HeaderTells later m d' second' → n < m →
        (resetTime now (some header)).IsBefore (resetTime now (some later))) ∧
    (∀ header : Option String, header = none ∨ header = some "" ∨
        (∀ text ∈ header, ∀ n d second, ¬ HeaderTells text n d second) →
      resetTime now header = now) ∧
    (∀ (c : Client) (r : Request) (t : Trace) (reset : Timestamp), c.now = now →
      (((c.request r).outcome t).1 = .error (.rateLimited reset) ↔ ∃ response : Response,
        c.Answered t.requests ((c.request r).outcome t).2.requests r (.response response) ∧
          response.IsRefusal ∧ reset = resetTime now (response.header? "X-RateLimit-Reset"))) ∧
    ∀ reset, (Failure.rateLimited reset).httpStatus = 429 ∧ ∃ fields text,
      (Failure.rateLimited reset).httpDetail = .object fields ∧
        fields.lookup "reset_time" = some (.string text) ∧
        Timestamp.ofText? text = some reset := by
  refine ⟨?_, ?_, ?_, ?_, ?_⟩
  · intro header n d second h
    obtain ⟨t, rfl, ht, hoffset, hdate, hclock⟩ := resetTime_of_headerTells now h
    refine ⟨hoffset, hdate, hclock, ?_⟩
    rw [Timestamp.ofText?_isoText, Option.map_some, Timestamp.toEpochMicros_of_ofEpochSeconds? ht]
  · exact fun _ _ _ _ _ _ _ _ h h' hlt => isBefore_resetTime h h' hlt
  · rintro header (rfl | rfl | h)
    · rfl
    · refine resetTime_of_not_headerTells ?_
      rintro text ⟨⟩ n d second ⟨hinteger, -⟩
      exact not_isInteger_empty hinteger
    · exact resetTime_of_not_headerTells h
  · rintro c r t reset rfl
    exact c.request_refused_iff r t reset
  · exact fun reset => ⟨rfl, _, reset.isoText, rfl, rfl, reset.ofText?_isoText⟩

/-- Ten seconds before 1970, with blanks around the integer and an underscore in it. -/
example : (resetTime .epoch (some " -1_0 ")).isoText = "1969-12-31T23:59:50+00:00" := by
  decide +kernel

end NavGraph

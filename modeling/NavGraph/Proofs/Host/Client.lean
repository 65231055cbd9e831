import NavGraph.Host.Client
import NavGraph.Proofs.Run.Outcome

/-!
# What a client's questions end in

The failures that a question to a host can end in, each kind of question with its own.

## Main definitions

* `Failure.OfRequest`, `Failure.OfJson` - the failures of a request and of a question for JSON
* `Failure.OfListing`, `Failure.OfReading` - the failures of a listing and of reading a file

## Main statements

* `attempt_ensures_verdict` - attempts at a request end in the verdict on one of the answers
* `request_ensures`, `probe_ensures`, `list_ensures`, `read_ensures` - what the questions end in
-/

namespace NavGraph

/-! ### Failures by question -/

/-- Failures that a request can end in. -/
inductive Failure.OfRequest : Failure → Prop where
  | cancelled : OfRequest .cancelled
  | host {f : Failure} (h : f.isHostFailure = true) : OfRequest f
  | unusable (message : String) : OfRequest (.unusableAddress message)

/-- Failures that a question for JSON can end in: those of its request, and a body that is nested
too deeply. -/
inductive Failure.OfJson : Failure → Prop where
  | request {f : Failure} (h : f.OfRequest) : OfJson f
  | nested : OfJson .nestedTooDeeply

/-- Failures that a listing can end in: those of any question for JSON, and entries that are
none. -/
inductive Failure.OfListing : Failure → Prop where
  | json {f : Failure} (h : f.OfJson) : OfListing f
  | malformed (problems : List Schema.Problem) : OfListing (.malformedEntry problems)
  | nameless : OfListing .namelessEntry

/-- Failures that reading a file can end in; none of them is a failure of the host. -/
inductive Failure.OfReading : Failure → Prop where
  | cancelled : OfReading .cancelled
  | address (message : String) : OfReading (.unusableAddress message)
  | body (message : String) : OfReading (.unreadableBody message)

/-- A failure of an answer is one that a request can end in. -/
theorem ofRequest_of_judge {now : Time.Timestamp} {answer : Answer} {f : Failure}
    (h : judge now answer = .final f ∨ judge now answer = .retry f) : f.OfRequest := by
  cases answer with
  | response r =>
      simp only [judge] at h
      split at h
      · rcases h with h | h <;> cases h
        exact .host rfl
      · split at h
        · rcases h with h | h <;> cases h
          exact .host rfl
        · split at h
          · rcases h with h | h <;> cases h
          · rcases h with h | h <;> cases h
            exact .host rfl
  | unreachable reason =>
      rcases h with h | h <;> cases h
      exact .host rfl
  | unusableAddress message =>
      rcases h with h | h <;> cases h
      exact .unusable message

namespace Client

open Run

variable (c : Client)

/-! ### The questions -/

theorem noteUnreadableTime_ensures (header : Option String) {failure : Failure → Prop} :
    (noteUnreadableTime header).Ensures (fun _ => True) failure := by
  unfold noteUnreadableTime
  split
  · exact ensures_pure trivial
  · split
    · exact ensures_pure trivial
    · exact ensures_log _ _ _

/-- **Attempts end in a verdict**: what holds of all verdicts on answers to a request holds of what
attempts at it end in.  By induction on the attempts left. -/
theorem attempt_ensures_verdict {r : Request} {value : Response → Prop} {failure : Failure → Prop}
    (hsignal : (requireActive c.cancelled).Ensures (fun _ => True) failure)
    (hsuccess : ∀ before response, judge c.now (c.host before r) = .success response →
      value response)
    (hfailure : ∀ before f, judge c.now (c.host before r) = .final f ∨
      judge c.now (c.host before r) = .retry f → failure f) (retries n left : Nat) :
    (c.attempt r retries n left).Ensures value failure := by
  have hask : (ask c.host r).Ensures (fun answer => ∃ before, answer = c.host before r) failure :=
    ensures_ask fun before => ⟨before, rfl⟩
  induction left generalizing n with
  | zero =>
    unfold attempt
    refine hsignal.bind fun _ _ => hask.bind ?_
    rintro _ ⟨before, rfl⟩
    refine (noteUnreadableTime_ensures _).bind fun _ _ => ?_
    cases hjudge : judge c.now (c.host before r) with
    | success response => exact ensures_pure (hsuccess before response hjudge)
    | final f => exact ensures_throw (hfailure before f (.inl hjudge))
    | retry f => exact ensures_throw (hfailure before f (.inr hjudge))
  | succ left ih =>
    unfold attempt
    refine hsignal.bind fun _ _ => hask.bind ?_
    rintro _ ⟨before, rfl⟩
    refine (noteUnreadableTime_ensures _).bind fun _ _ => ?_
    cases hjudge : judge c.now (c.host before r) with
    | success response => exact ensures_pure (hsuccess before response hjudge)
    | final f => exact ensures_throw (hfailure before f (.inl hjudge))
    | retry f =>
      refine (ensures_log _ _ _).bind fun _ _ => ?_
      exact (ensures_sleep _).bind fun _ _ => ih (n + 1)

/-- Attempts end in a failure that a request can end in. -/
theorem attempt_ensures (r : Request) (retries n left : Nat) :
    (c.attempt r retries n left).Ensures (fun _ => True) Failure.OfRequest := by
  refine c.attempt_ensures_verdict (ensures_requireActive .cancelled) ?_ ?_ retries n left
  · intro _ _ _
    trivial
  · intro _ _ h
    exact ofRequest_of_judge h

theorem request_ensures (r : Request) :
    (c.request r).Ensures (fun _ => True) Failure.OfRequest := by
  unfold request
  split
  · exact c.attempt_ensures r _ _ _
  · exact ensures_throw (.host rfl)

theorem jsonOf_eq_ok_iff {r : Response} {v : Json} : jsonOf r = .ok v ↔ bodyJson? r = some v := by
  unfold jsonOf
  cases bodyJson? r <;> simp

theorem requireJson_of_bodyJson? {r : Response} {v : Json} (h : bodyJson? r = some v) :
    requireJson r = pure v := by
  rw [requireJson, jsonOf_eq_ok_iff.2 h]
  rfl

theorem ofJson_of_jsonOf {r : Response} {f : Failure} (h : jsonOf r = .error f) : f.OfJson := by
  unfold jsonOf jsonFault at h
  split at h
  · cases h
  · cases h
    split
    · exact .nested
    · exact .request (.host rfl)

theorem jsonFault_ne_repositoryNotFound (r : Response) (message : String) :
    jsonFault r ≠ .repositoryNotFound message := by
  unfold jsonFault
  split <;> nofun

theorem textOf_eq_error_iff {r : Response} {f : Failure} :
    textOf r = .error f ↔ ∃ message, r.text = .error message ∧ f = .unreadableBody message := by
  unfold textOf
  cases r.text <;> simp [eq_comm]

theorem requireJson_ensures (r : Response) :
    (requireJson r).Ensures (fun _ => True) Failure.OfJson :=
  ensures_ofExcept (fun _ _ => trivial) fun _ => ofJson_of_jsonOf

theorem probe_ensures (repo : Repository) :
    (c.probe repo).Ensures (fun _ => True) Failure.OfJson := by
  unfold probe
  refine ((c.request_ensures _).mono_failure fun _ => .request).bind fun r _ => ?_
  refine (requireJson_ensures r).bind fun v _ => ?_
  split <;> exact ensures_pure trivial

theorem eq_of_entryOfFields {path : Json} {fields : List (String × Json)} {f : Failure}
    (h : entryOfFields path fields = .error f) :
    f = .namelessEntry ∨ ∃ problems, f = .malformedEntry problems := by
  unfold entryOfFields at h
  dsimp only at h
  split at h
  · cases h
    exact .inl rfl
  · split at h
    · cases h
    · cases h
      exact .inr ⟨_, rfl⟩

/-- Entries fail by what they are, never by how the host answered. -/
theorem eq_of_entriesOf {items : List Json} {f : Failure} (h : entriesOf items = .error f) :
    f = .namelessEntry ∨ ∃ problems, f = .malformedEntry problems := by
  fun_induction entriesOf items with
  | case1 => cases h
  | case2 fields rest hpath ih => exact ih h
  | case3 fields rest path hpath ih =>
      cases he : entryOfFields path fields with
      | error g =>
          rw [he] at h
          cases h
          exact eq_of_entryOfFields he
      | ok e =>
          rw [he] at h
          cases hrest : entriesOf rest with
          | error g =>
              rw [hrest] at h
              cases h
              exact ih hrest
          | ok es =>
              rw [hrest] at h
              cases h
  | case4 v rest hv ih => exact ih h

theorem ofListing_of_entriesOf {items : List Json} {f : Failure}
    (h : entriesOf items = .error f) : f.OfListing := by
  obtain rfl | ⟨problems, rfl⟩ := eq_of_entriesOf h
  · exact .nameless
  · exact .malformed problems

theorem list_ensures (repo : Repository) (path : String) :
    (c.list repo path).Ensures (fun _ => True) Failure.OfListing := by
  unfold list
  refine ((c.request_ensures _).mono_failure fun _ h => .json (.request h)).bind fun r _ => ?_
  refine ((requireJson_ensures r).mono_failure fun _ => .json).bind fun v _ => ?_
  split
  · refine (ensures_ofExcept (fun _ _ => trivial) fun f hf => ofListing_of_entriesOf hf).bind ?_
    intro entries _
    refine (ensures_log _ _ _).bind fun _ _ => ?_
    exact ensures_pure trivial
  · exact ensures_pure trivial

/-- Reading a file swallows the failures of the host. -/
theorem read_ensures (location : String) :
    (c.read location).Ensures (fun _ => True) Failure.OfReading := by
  have hask : Ensures (do Run.ofExcept (textOf (← c.request ⟨location, none⟩))) (fun _ => True)
      fun f => f.OfRequest ∨ ∃ message, f = .unreadableBody message := by
    refine ((c.request_ensures _).mono_failure fun _ => .inl).bind fun r _ => ?_
    refine ensures_ofExcept (fun _ _ => trivial) fun f hf => ?_
    obtain ⟨message, -, rfl⟩ := textOf_eq_error_iff.1 hf
    exact .inr ⟨message, rfl⟩
  refine hask.tryCatch fun f hf => ?_
  split
  · rename_i hkept
    refine ensures_throw ?_
    obtain h | ⟨message, rfl⟩ := hf
    · cases h with
      | cancelled => exact .cancelled
      | host hhost =>
        -- A failure of the host is one that a run is expected to be able to end in.
        obtain rfl | h := hkept
        · cases hhost
        · rw [Failure.isReported_of_isHostFailure hhost] at h
          cases h
      | unusable message => exact .address message
    · exact .body message
  · refine (ensures_log _ _ _).bind fun _ _ => ?_
    exact ensures_pure trivial

end Client

end NavGraph

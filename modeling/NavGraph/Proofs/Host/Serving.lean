import NavGraph.Proofs.Host.Client
import NavGraph.Proofs.Host.Folder

/-!
# Hosts that serve a repository

A host that answers questions about a repository by a tree, except that some of its files cannot be
read, and what the questions of a client to such a host end in.

## Main definitions

* `Answer.IsFailed` - an answer that another attempt cannot turn into a content by itself
* `Client.Serves` - a host serves a tree, except for the contents at some addresses

## Main statements

* `list_of_lists` - listing a directory ends with its entries
* `read_of_delivers` - reading a file ends with its text, or with nothing where it cannot be read

## Design notes

What a host **serves** is a matter of all its answers to a request, whatever was asked before.  A
file that cannot be read may fail in another way at each attempt.
-/

namespace NavGraph

open Run

/-- A response without success, or none at all. -/
def Answer.IsFailed : Answer → Prop
  | .response r => r.isSuccess = false
  | .unreachable _ => True
  | .unusableAddress _ => False

namespace Client

variable (c : Client)

/-- The host always answers a request with success and a response that has a property. -/
def Answers (r : Request) (property : Response → Prop) : Prop :=
  ∀ before, ∃ response, c.host before r = .response response ∧ response.status = 200 ∧
    property response

/-- The host lists a directory. -/
def Lists (repo : Repository) (trail : List String) (folder : Folder) : Prop :=
  c.Answers ⟨c.directoryUrl repo (pathOf trail), some repo.branch⟩ fun response =>
    ∃ items, bodyJson? response = some (.array items) ∧ folder.IsListing trail items

/-- The host has a text at an address, or fails there whenever it is asked. -/
def Delivers (failing : String → Bool) (location text : String) : Prop :=
  if failing location then ∀ before, (c.host before ⟨location, none⟩).IsFailed
  else c.Answers ⟨location, none⟩ fun response => response.text = .ok text

/-- The host has all that is below a place in a tree. -/
def ServesBelow (repo : Repository) (failing : String → Bool) : List String → Folder → Prop
  | _, .empty => True
  | trail, .file _ text location rest =>
      (∀ address, location = some address → address ≠ "" → c.Delivers failing address text) ∧
        ServesBelow repo failing trail rest
  | trail, .directory name below rest =>
      c.Lists repo (trail ++ [name]) below ∧ ServesBelow repo failing (trail ++ [name]) below ∧
        ServesBelow repo failing trail rest

/-- A host **serves** a tree, except for the contents at some addresses. -/
structure Serves (repo : Repository) (root : Folder) (failing : String → Bool) : Prop where
  known : c.Answers ⟨c.repositoryUrl repo, none⟩ fun response => (bodyJson? response).isSome
  listed : c.Lists repo [] root
  below : c.ServesBelow repo failing [] root

/-! ### Requests -/

/-- A status of success is none of those that are refused. -/
theorem judge_of_isSuccess {now : Time.Timestamp} {r : Response} (h : r.isSuccess = true) :
    judge now (.response r) = .success r := by
  have hstatus : 200 ≤ r.status ∧ r.status < 300 := by
    simpa [Response.isSuccess, Bool.and_eq_true] using h
  have hlimited : r.isRateLimited = false := by
    have h429 : (r.status == 429) = false := beq_false_of_ne (by omega)
    have h403 : (r.status == 403) = false := beq_false_of_ne (by omega)
    rw [Response.isRateLimited, h429, h403]
    rfl
  have h404 : r.status ≠ 404 := by omega
  simp only [judge, hlimited, h, if_neg h404, Bool.false_eq_true, if_false, if_true]

theorem judge_of_status {now : Time.Timestamp} {response : Response}
    (h : response.status = 200) : judge now (.response response) = .success response := by
  apply judge_of_isSuccess
  rw [Response.isSuccess, h]
  rfl

/-- An answer without success is a failure of the host. -/
theorem judge_of_isFailed (now : Time.Timestamp) {answer : Answer} (h : answer.IsFailed) :
    ∃ f, f.isHostFailure = true ∧ (judge now answer = .final f ∨ judge now answer = .retry f) := by
  cases answer with
  | response response =>
    have hsuccess : response.isSuccess = false := h
    unfold judge
    dsimp only
    split
    · exact ⟨_, rfl, .inl rfl⟩
    · split
      · exact ⟨_, rfl, .inl rfl⟩
      · rw [hsuccess]
        exact ⟨_, rfl, .inr rfl⟩
  | unreachable reason => exact ⟨_, rfl, .inr rfl⟩
  | unusableAddress message => exact h.elim

variable {c}

/-- Where every answer is good, the attempts end in one of them. -/
theorem attempt_of_answers (hsignal : c.cancelled = .never) {r : Request}
    {property : Response → Prop} (h : c.Answers r property) (retries n left : Nat) :
    (c.attempt r retries n left).Ensures property fun _ => False := by
  apply c.attempt_ensures_verdict
  · rw [hsignal]
    exact ensures_requireActive_never
  · intro before response hjudge
    obtain ⟨answered, hanswer, hstatus, hproperty⟩ := h before
    rw [hanswer, judge_of_status hstatus] at hjudge
    cases hjudge
    exact hproperty
  · intro before f hjudge
    obtain ⟨answered, hanswer, hstatus, -⟩ := h before
    rw [hanswer, judge_of_status hstatus] at hjudge
    rcases hjudge with hjudge | hjudge <;> cases hjudge

/-- Where every answer is a failure, the attempts end in one of them. -/
theorem attempt_of_isFailed (hsignal : c.cancelled = .never) {r : Request}
    (h : ∀ before, (c.host before r).IsFailed) (retries n left : Nat) :
    (c.attempt r retries n left).Ensures (fun _ => False) fun f => f.isHostFailure = true := by
  apply c.attempt_ensures_verdict
  · rw [hsignal]
    exact ensures_requireActive_never
  · intro before response hjudge
    obtain ⟨f, -, hf | hf⟩ := judge_of_isFailed c.now (h before) <;> rw [hf] at hjudge <;>
      cases hjudge
  · intro before f hjudge
    obtain ⟨g, hg, hfinal | hretry⟩ := judge_of_isFailed c.now (h before)
    · rw [hfinal] at hjudge
      rcases hjudge with hjudge | hjudge <;> cases hjudge
      exact hg
    · rw [hretry] at hjudge
      rcases hjudge with hjudge | hjudge <;> cases hjudge
      exact hg

/-- A number of retries that is not negative leaves an attempt. -/
theorem request_eq_attempt (hretries : 0 ≤ c.settings.maxRetries) (r : Request) :
    c.request r = c.attempt r c.settings.maxRetries.toNat 1 c.settings.maxRetries.toNat := by
  unfold request
  cases hmax : c.settings.maxRetries with
  | ofNat retries => rfl
  | negSucc k =>
    rw [hmax] at hretries
    exact absurd hretries (Int.not_le.2 (Int.negSucc_lt_zero k))

theorem request_of_answers (hsignal : c.cancelled = .never) (hretries : 0 ≤ c.settings.maxRetries)
    {r : Request} {property : Response → Prop} (h : c.Answers r property) :
    (c.request r).Ensures property fun _ => False := by
  rw [request_eq_attempt hretries]
  exact attempt_of_answers hsignal h _ _ _

/-! ### Questions -/

section

variable (hsignal : c.cancelled = .never) (hretries : 0 ≤ c.settings.maxRetries)

include hsignal hretries

theorem probe_of_serves {repo : Repository} {root : Folder} {failing : String → Bool}
    (h : c.Serves repo root failing) :
    (c.probe repo).Ensures (fun _ => True) fun _ => False := by
  unfold probe
  refine (request_of_answers hsignal hretries h.known).bind fun response hjson => ?_
  obtain ⟨v, hv⟩ := Option.isSome_iff_exists.1 hjson
  rw [requireJson_of_bodyJson? hv, pure_bind]
  split <;> exact ensures_pure trivial

/-- **Listing a directory ends with its entries.** -/
theorem list_of_lists {repo : Repository} {trail : List String} {folder : Folder}
    (h : c.Lists repo trail folder) :
    (c.list repo (pathOf trail)).Ensures (· = folder.entries trail) fun _ => False := by
  unfold list
  refine (request_of_answers hsignal hretries h).bind ?_
  rintro response ⟨items, hjson, hlisting⟩
  rw [requireJson_of_bodyJson? hjson, pure_bind]
  dsimp only
  rw [entriesOf_of_isListing hlisting]
  show ((pure (folder.entries trail) : Run (List Entry)) >>= _).Ensures _ _
  rw [pure_bind]
  exact (ensures_log _ _ _).bind fun _ _ => ensures_pure rfl

/-- **Reading a file ends with its text**, or with nothing where it cannot be read. -/
theorem read_of_delivers {failing : String → Bool} {location text : String}
    (h : c.Delivers failing location text) :
    (c.read location).Ensures (· = if failing location then "" else text) fun _ => False := by
  unfold read
  unfold Delivers at h
  cases hfailing : failing location with
  | true =>
    rw [hfailing, if_pos rfl] at h
    rw [if_pos rfl, request_eq_attempt hretries]
    have hattempt := attempt_of_isFailed hsignal h c.settings.maxRetries.toNat 1
      c.settings.maxRetries.toNat
    refine Ensures.tryCatch (hattempt.bind fun _ h => h.elim) fun f hf => ?_
    -- A failure of the host is swallowed, as it is neither a cancellation nor a defect.
    have hreported := Failure.isReported_of_isHostFailure hf
    have hactive : f ≠ .cancelled := by
      rintro rfl
      cases hf
    rw [if_neg (by simp [hreported, hactive])]
    exact (ensures_log _ _ _).bind fun _ _ => ensures_pure rfl
  | false =>
    rw [hfailing, if_neg Bool.false_ne_true] at h
    rw [if_neg Bool.false_ne_true]
    have hrequest := request_of_answers hsignal hretries h
    refine Ensures.tryCatch (hrequest.bind ?_) fun f hf => hf.elim
    intro response hresponse
    unfold textOf
    rw [hresponse]
    exact ensures_pure rfl

end

end Client

end NavGraph

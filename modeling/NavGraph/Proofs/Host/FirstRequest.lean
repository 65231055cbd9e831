import Mathlib.Data.List.Infix
import NavGraph.Proofs.Host.Defect

/-!
# The first request

A client whose retries do not count below zero asks at least once, whatever it is to find out and
whatever becomes of it: unless it is stopped before, its first request is made.

## Main definitions

* `Client.AsksUnlessStopped` - a call that begins with a request

## Main statements

* `request_asksUnlessStopped` - a client asks where retries do not count below zero
* `probe_asksUnlessStopped`, `list_asksUnlessStopped`, `read_asksUnlessStopped` - so do its calls
-/

namespace NavGraph

open Run

namespace Client

/-- A call **asks unless it is stopped**: it is cancelled before it does anything, or begins with a
request. -/
def AsksUnlessStopped {α : Type} (c : Client) (r : Request) (run : Run α) : Prop :=
  ∀ t : Trace,
    (c.cancelled t.requests.length = true ∧ (run.outcome t).1 = .error .cancelled) ∨
      t.requests ++ [r] <+: (run.outcome t).2.requests

variable {c : Client} {r : Request}

/-- What comes behind a call that asks does not take the request back. -/
theorem AsksUnlessStopped.bind {α β : Type} {run : Run α} {next : α → Run β}
    (h : c.AsksUnlessStopped r run)
    (hnext : ∀ a t, t.requests <+: ((next a).outcome t).2.requests) :
    c.AsksUnlessStopped r (run >>= next) := by
  intro t
  obtain ⟨hsignal, hstopped⟩ | hasked := h t
  · refine .inl ⟨hsignal, ?_⟩
    rw [outcome_bind]
    rcases hrun : run.outcome t with ⟨f | a, u⟩ <;> rw [hrun] at hstopped <;> cases hstopped
    rfl
  · exact .inr (hasked.trans (requests_prefix_bind run hnext t))

theorem attempt_asksUnlessStopped (retries n left : Nat) :
    c.AsksUnlessStopped r (c.attempt r retries n left) := by
  intro t
  cases hsignal : c.cancelled t.requests.length with
  | true => exact .inl ⟨rfl, by rw [outcome_attempt_stopped hsignal]⟩
  | false =>
    right
    cases left with
    | zero => rw [outcome_attempt_last hsignal retries n (.inl rfl), asked_requests]
    | succ left =>
      by_cases hretry : (judge c.now (c.host t.requests r)).IsRetry
      · obtain ⟨u, hu, houtcome⟩ := outcome_attempt_again hsignal retries n hretry
        rw [houtcome, ← hu]
        exact (attempt_settles retries (n + 1) left u).grows
      · rw [outcome_attempt_last hsignal retries n (.inr hretry), asked_requests]

variable (hretries : 0 ≤ c.settings.maxRetries)

include hretries

/-- **A client asks where retries do not count below zero**, whatever it asks for. -/
theorem request_asksUnlessStopped (r : Request) : c.AsksUnlessStopped r (c.request r) := by
  rw [request_eq_attempt hretries]
  exact attempt_asksUnlessStopped _ _ _

theorem json_asksUnlessStopped (r : Request) :
    c.AsksUnlessStopped r (c.request r >>= requireJson) := by
  refine (request_asksUnlessStopped hretries r).bind fun response t => ?_
  rw [requireJson, outcome_ofExcept]

theorem probe_asksUnlessStopped (repo : Repository) :
    c.AsksUnlessStopped (c.probeRequest repo) (c.probe repo) := by
  rw [probe_eq]
  exact (json_asksUnlessStopped hretries _).bind fun _ _ => List.prefix_rfl

theorem list_asksUnlessStopped (repo : Repository) (path : String) :
    c.AsksUnlessStopped (c.listRequest repo path) (c.list repo path) := by
  rw [list_eq]
  refine (json_asksUnlessStopped hretries _).bind fun v t => ?_
  rw [(outcome_listingOf path v t).1]

theorem read_asksUnlessStopped (location : String) :
    c.AsksUnlessStopped (readRequest location) (c.read location) := by
  intro t
  refine (request_asksUnlessStopped hretries (readRequest location) t).imp ?_ ?_
  · rintro ⟨hsignal, hstopped⟩
    refine ⟨hsignal, ?_⟩
    unfold read
    rw [outcome_tryCatch, outcome_bind]
    unfold readRequest at hstopped
    rcases hrequest : (c.request ⟨location, none⟩).outcome t with ⟨f | response, u⟩ <;>
      rw [hrequest] at hstopped <;> cases hstopped
    rfl
  · rw [c.requests_read location t]
    exact id

end Client

end NavGraph

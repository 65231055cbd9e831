import NavGraph.Host.Run

/-!
# Outcomes of runs

What the steps of a run do to a trace, one equation per step, and what can be said of an outcome
without looking at the trace.

## Main definitions

* `Run.Ensures` - every value that a run ends with has one property, every failure another

## Main statements

* `outcome_bind`, `outcome_tryCatch` - one run after another, and one run instead of a failed one
* `Ensures.bind`, `Ensures.tryCatch` - the same for what is ensured

## Design notes

A run is a function from a trace to an outcome and a longer trace.  The equations below are all
that later proofs use of it, so that none of them opens the monad.
-/

namespace NavGraph.Run

variable {α β : Type}

/-! ### One equation per step -/

@[simp] theorem outcome_pure (a : α) (t : Trace) : (pure a : Run α).outcome t = (.ok a, t) := rfl

@[simp] theorem outcome_throw (f : Failure) (t : Trace) :
    (throw f : Run α).outcome t = (.error f, t) := rfl

/-- One run after another: a failure of the first is the failure of both. -/
theorem outcome_bind (run : Run α) (next : α → Run β) (t : Trace) :
    (run >>= next).outcome t =
      match run.outcome t with
      | (.ok a, u) => (next a).outcome u
      | (.error f, u) => (.error f, u) := by
  change (fun p : Except Failure α × Trace => (ExceptT.bindCont next p.1).run p.2)
    (run.outcome t) = _
  rcases run.outcome t with ⟨f | a, u⟩ <;> rfl

/-- One run instead of a failed one: what the failed run did stays done. -/
theorem outcome_tryCatch (run : Run α) (handler : Failure → Run α) (t : Trace) :
    (tryCatch run handler : Run α).outcome t =
      match run.outcome t with
      | (.ok a, u) => (.ok a, u)
      | (.error f, u) => (handler f).outcome u := by
  have key : ∀ p, StateT.run run t = p → (tryCatch run handler : Run α).outcome t =
      match p with
      | (.ok a, u) => (.ok a, u)
      | (.error f, u) => (handler f).outcome u := by
    rintro ⟨f | a, u⟩ h <;>
      simp only [outcome, tryCatch, tryCatchThe, MonadExceptOf.tryCatch, ExceptT.tryCatch,
        ExceptT.run_mk, StateT.run_bind, h] <;>
      rfl
  exact key _ rfl

@[simp] theorem outcome_ask (host : Host) (r : Request) (t : Trace) :
    (ask host r).outcome t =
      (.ok (host t.requests r), { t with requests := t.requests ++ [r] }) := rfl

@[simp] theorem outcome_sleep (seconds : Float) (t : Trace) :
    (sleep seconds).outcome t = (.ok (), { t with sleeps := t.sleeps ++ [seconds] }) := rfl

@[simp] theorem outcome_log (level : Level) (logger message : String) (t : Trace) :
    (log level logger message).outcome t =
      (.ok (), { t with lines := t.lines ++ [⟨level, logger, message⟩] }) := rfl

theorem outcome_requireActive (signal : Signal) (t : Trace) :
    (requireActive signal).outcome t =
      (if signal t.requests.length then .error .cancelled else .ok (), t) := by
  change (if signal t.requests.length then (throw .cancelled : Run Unit) else pure ()).outcome t = _
  split <;> rfl

@[simp] theorem outcome_ofExcept (e : Except Failure α) (t : Trace) :
    (ofExcept e).outcome t = (e, t) := by
  cases e <;> rfl

/-! ### What a run ensures -/

/-- A run **ensures** two properties if, from whatever trace on, a value that it ends with has the
first and a failure the second. -/
structure Ensures (run : Run α) (value : α → Prop) (failure : Failure → Prop) : Prop where
  value_of_ok : ∀ {t a}, (run.outcome t).1 = .ok a → value a
  failure_of_error : ∀ {t f}, (run.outcome t).1 = .error f → failure f

section

variable {run : Run α} {value value' : α → Prop} {failure failure' : Failure → Prop}

theorem Ensures.mono (h : run.Ensures value failure) (hv : ∀ a, value a → value' a)
    (hf : ∀ f, failure f → failure' f) : run.Ensures value' failure' where
  value_of_ok ho := hv _ (h.value_of_ok ho)
  failure_of_error ho := hf _ (h.failure_of_error ho)

theorem Ensures.mono_failure (h : run.Ensures value failure) (hf : ∀ f, failure f → failure' f) :
    run.Ensures value failure' :=
  h.mono (fun _ ha => ha) hf

/-- Of the failures of a run without failures everything can be said. -/
theorem Ensures.of_infallible (h : run.Ensures value fun _ => False) :
    run.Ensures value failure :=
  h.mono_failure fun _ hf => hf.elim

theorem ensures_ofExcept {e : Except Failure α} (hv : ∀ a, e = .ok a → value a)
    (hf : ∀ f, e = .error f → failure f) : (ofExcept e).Ensures value failure where
  value_of_ok {t a} ho := by
    rw [outcome_ofExcept] at ho
    exact hv a ho
  failure_of_error {t f} ho := by
    rw [outcome_ofExcept] at ho
    exact hf f ho

theorem ensures_pure {a : α} (h : value a) : (pure a : Run α).Ensures value failure := by
  refine ensures_ofExcept (e := .ok a) ?_ ?_ <;> rintro _ ⟨⟩
  exact h

theorem ensures_throw {f : Failure} (h : failure f) : (throw f : Run α).Ensures value failure := by
  refine ensures_ofExcept (e := .error f) ?_ ?_ <;> rintro _ ⟨⟩
  exact h

/-- The second run starts from a value that the first one ensures. -/
theorem Ensures.bind {next : α → Run β} {after : β → Prop} (h : run.Ensures value failure)
    (hn : ∀ a, value a → (next a).Ensures after failure) :
    (run >>= next).Ensures after failure := by
  constructor <;> intro t b ho <;> rw [outcome_bind] at ho
  · rcases hrun : run.outcome t with ⟨f | a, u⟩ <;> rw [hrun] at ho
    · cases ho
    · exact (hn a (h.value_of_ok (congrArg Prod.fst hrun))).value_of_ok ho
  · rcases hrun : run.outcome t with ⟨f | a, u⟩ <;> rw [hrun] at ho
    · cases ho
      exact h.failure_of_error (congrArg Prod.fst hrun)
    · exact (hn a (h.value_of_ok (congrArg Prod.fst hrun))).failure_of_error ho

/-- A handler turns failures that the run ensures into what the handler ensures. -/
theorem Ensures.tryCatch {handler : Failure → Run α} (h : run.Ensures value failure)
    (hh : ∀ f, failure f → (handler f).Ensures value failure') :
    (tryCatch run handler : Run α).Ensures value failure' := by
  constructor <;> intro t b ho <;> rw [outcome_tryCatch] at ho
  · rcases hrun : run.outcome t with ⟨f | a, u⟩ <;> rw [hrun] at ho
    · exact (hh f (h.failure_of_error (congrArg Prod.fst hrun))).value_of_ok ho
    · cases ho
      exact h.value_of_ok (congrArg Prod.fst hrun)
  · rcases hrun : run.outcome t with ⟨f | a, u⟩ <;> rw [hrun] at ho
    · exact (hh f (h.failure_of_error (congrArg Prod.fst hrun))).failure_of_error ho
    · cases ho

/-- A host may answer by everything that was asked before. -/
theorem ensures_ask {host : Host} {r : Request} {value : Answer → Prop}
    (h : ∀ before, value (host before r)) : (ask host r).Ensures value failure where
  value_of_ok {t answer} ho := by
    cases ho
    exact h t.requests
  failure_of_error ho := by cases ho

theorem ensures_sleep (seconds : Float) : (sleep seconds).Ensures (fun _ => True) failure where
  value_of_ok _ := trivial
  failure_of_error ho := by cases ho

theorem ensures_log (level : Level) (logger message : String) :
    (log level logger message).Ensures (fun _ => True) failure where
  value_of_ok _ := trivial
  failure_of_error ho := by cases ho

theorem ensures_requireActive_never : (requireActive .never).Ensures (fun _ => True) failure where
  value_of_ok _ := trivial
  failure_of_error ho := by cases ho

theorem ensures_requireActive {signal : Signal} (h : failure .cancelled) :
    (requireActive signal).Ensures (fun _ => True) failure where
  value_of_ok _ := trivial
  failure_of_error {t f} ho := by
    rw [outcome_requireActive] at ho
    dsimp only at ho
    split at ho <;> cases ho
    exact h

/-- A run whose values and failures are all one outcome has that outcome. -/
theorem Ensures.outcome_eq {expected : Except Failure α}
    (h : run.Ensures (fun a => expected = .ok a) fun f => expected = .error f) (t : Trace) :
    (run.outcome t).1 = expected := by
  cases ho : (run.outcome t).1 with
  | ok a => exact (h.value_of_ok ho).symm
  | error f => exact (h.failure_of_error ho).symm

end

end NavGraph.Run

import NavGraph.Host.Client
import NavGraph.Proofs.Run.Outcome

/-!
# Calls on a client

A run's requests come from calls on its client: to know a repository, to list a directory, or to
read a file.  What a run does can then be told call by call, with what came of each.

## Main definitions

* `Call` - a call and what came of it
* `Client.Calls` - calls one after the other, as the way from one trace to another
* `Client.Makes` - a run makes calls that have a property together with its outcome

## Main statements

* `Makes.bind`, `Makes.tryCatch` - one run after another, and one run instead of a failed one

## Design notes

A trace holds requests, and one call may stand behind several of them.  Which call a request belongs
to is not written down while a program runs; `Client.Calls` says that a trace **can be told** as a
list of calls, each starting from the trace that the one before left.  Between calls nothing happens
but that lines are noted down.
-/

namespace NavGraph

open Run

/-- A call on a client, and what came of it. -/
inductive Call where
  | probe (repo : Repository) (answer : Except Failure (List (String × Json)))
  | list (repo : Repository) (path : String) (answer : Except Failure (List Entry))
  | read (location : String) (answer : Except Failure String)

namespace Client

variable (c : Client)

/-- A call leads from one trace to another. -/
def Happens : Call → Trace → Trace → Prop
  | .probe repo answer, t, u => (c.probe repo).outcome t = (answer, u)
  | .list repo path answer, t, u => (c.list repo path).outcome t = (answer, u)
  | .read location answer, t, u => (c.read location).outcome t = (answer, u)

/-- Calls one after the other lead from one trace to another; lines may be noted down before each of
them and in the end. -/
inductive Calls : Trace → List Call → Trace → Prop where
  | none {t : Trace} (lines : List LogLine) : Calls t [] { t with lines := lines }
  | made {t u v : Trace} {call : Call} {later : List Call} (lines : List LogLine)
      (happens : c.Happens call { t with lines := lines } u) (after : Calls u later v) :
      Calls t (call :: later) v

variable {c}

theorem Calls.one {t u : Trace} {call : Call} (h : c.Happens call t u) : c.Calls t [call] u :=
  .made t.lines h (.none u.lines)

/-- Lines noted down before the calls do not count. -/
theorem Calls.of_noted {t u : Trace} {calls : List Call} {lines : List LogLine}
    (h : c.Calls { t with lines := lines } calls u) : c.Calls t calls u := by
  cases h with
  | none lines => exact .none lines
  | made lines happens after => exact .made lines happens after

theorem Calls.append {t u v : Trace} {calls more : List Call} (h : c.Calls t calls u)
    (hmore : c.Calls u more v) : c.Calls t (calls ++ more) v := by
  induction h with
  | none => exact hmore.of_noted
  | made lines happens _ ih => exact .made lines happens (ih hmore)

/-- Nor do lines noted down after them. -/
theorem Calls.noted {t u : Trace} {calls : List Call} (h : c.Calls t calls u)
    (lines : List LogLine) : c.Calls t calls { u with lines := lines } := by
  have happend := h.append (.none lines)
  rwa [List.append_nil] at happend

variable (c) in
/-- A run **makes calls** that have a property together with its outcome, from whatever trace on. -/
def Makes {α : Type} (run : Run α) (property : List Call → Except Failure α → Prop) : Prop :=
  ∀ t, ∃ calls, c.Calls t calls (run.outcome t).2 ∧ property calls (run.outcome t).1

section

variable {α β : Type} {run : Run α} {property : List Call → Except Failure α → Prop}

theorem Makes.mono {property' : List Call → Except Failure α → Prop} (h : c.Makes run property)
    (himp : ∀ calls outcome, property calls outcome → property' calls outcome) :
    c.Makes run property' := by
  intro t
  obtain ⟨calls, hcalls, hproperty⟩ := h t
  exact ⟨calls, hcalls, himp _ _ hproperty⟩

/-! ### Runs without calls -/

/-- A run that only notes down lines makes no calls. -/
theorem makes_of_silent (hlines : ∀ t, ∃ lines, (run.outcome t).2 = { t with lines := lines })
    (h : ∀ t, property [] (run.outcome t).1) : c.Makes run property := by
  intro t
  obtain ⟨lines, hlines⟩ := hlines t
  refine ⟨[], ?_, h t⟩
  rw [hlines]
  exact .none lines

theorem makes_pure {a : α} (h : property [] (.ok a)) : c.Makes (pure a) property :=
  makes_of_silent (fun t => ⟨t.lines, rfl⟩) fun _ => h

theorem makes_throw {f : Failure} (h : property [] (.error f)) : c.Makes (throw f) property :=
  makes_of_silent (fun t => ⟨t.lines, rfl⟩) fun _ => h

theorem makes_ofExcept (e : Except Failure α) :
    c.Makes (Run.ofExcept e) fun calls outcome => calls = [] ∧ outcome = e := by
  refine makes_of_silent (fun t => ⟨t.lines, ?_⟩) fun t => ?_ <;> rw [outcome_ofExcept]
  exact ⟨rfl, rfl⟩

/-! ### Runs of one call -/

theorem makes_probe (repo : Repository) :
    c.Makes (c.probe repo) fun calls answer => calls = [.probe repo answer] :=
  fun _ => ⟨[.probe repo _], .one rfl, rfl⟩

theorem makes_list (repo : Repository) (path : String) :
    c.Makes (c.list repo path) fun calls answer => calls = [.list repo path answer] :=
  fun _ => ⟨[.list repo path _], .one rfl, rfl⟩

theorem makes_read (location : String) :
    c.Makes (c.read location) fun calls answer => calls = [.read location answer] :=
  fun _ => ⟨[.read location _], .one rfl, rfl⟩

/-! ### Runs one after the other -/

/-- The calls of the second run follow those of the first, unless the first one fails. -/
theorem Makes.bind {next : α → Run β} {after : List Call → Except Failure β → Prop}
    (h : c.Makes run property)
    (hnext : ∀ a calls, property calls (.ok a) →
      c.Makes (next a) fun more outcome => after (calls ++ more) outcome)
    (hfailed : ∀ f calls, property calls (.error f) → after calls (.error f)) :
    c.Makes (run >>= next) after := by
  intro t
  rw [outcome_bind]
  obtain ⟨calls, hcalls, hproperty⟩ := h t
  rcases hrun : run.outcome t with ⟨f | a, u⟩ <;> rw [hrun] at hcalls hproperty
  · exact ⟨calls, hcalls, hfailed f calls hproperty⟩
  · obtain ⟨more, hmore, hafter⟩ := hnext a calls hproperty u
    exact ⟨calls ++ more, hcalls.append hmore, hafter⟩

/-- A line in front of a run is no call. -/
theorem Makes.after_log {next : Unit → Run α} (h : c.Makes (next ()) property) (level : Level)
    (logger message : String) : c.Makes (log level logger message >>= next) property := by
  intro t
  rw [outcome_bind, outcome_log]
  obtain ⟨calls, hcalls, hproperty⟩ := h _
  exact ⟨calls, hcalls.of_noted, hproperty⟩

/-- A look at the signal in front of a run is no call either, but it may be the end. -/
theorem Makes.after_requireActive {next : Unit → Run α} (h : c.Makes (next ()) property)
    (signal : Signal) (hstopped : property [] (.error .cancelled)) :
    c.Makes (requireActive signal >>= next) property := by
  intro t
  rw [outcome_bind, outcome_requireActive]
  by_cases hsignal : signal t.requests.length
  · rw [if_pos hsignal]
    exact ⟨[], .none t.lines, hstopped⟩
  · rw [if_neg hsignal]
    exact h t

/-- The calls of a handler follow those of the run that failed. -/
theorem Makes.tryCatch {handler : Failure → Run α} {after : List Call → Except Failure α → Prop}
    (h : c.Makes run property) (hdone : ∀ a calls, property calls (.ok a) → after calls (.ok a))
    (hhandler : ∀ f calls, property calls (.error f) →
      c.Makes (handler f) fun more outcome => after (calls ++ more) outcome) :
    c.Makes (tryCatch run handler : Run α) after := by
  intro t
  rw [outcome_tryCatch]
  obtain ⟨calls, hcalls, hproperty⟩ := h t
  rcases hrun : run.outcome t with ⟨f | a, u⟩ <;> rw [hrun] at hcalls hproperty
  · obtain ⟨more, hmore, hafter⟩ := hhandler f calls hproperty u
    exact ⟨calls ++ more, hcalls.append hmore, hafter⟩
  · exact ⟨calls, hcalls, hdone a calls hproperty⟩

end

end Client

end NavGraph

import NavGraph.Proofs.Run.Outcome

/-!
# Runs that are stopped

Two runs side by side: one is asked to stop once so many requests have been made, the other never.
The first one is a **truncation** of the second if, up to that number of requests, the two cannot
be told apart, and beyond it the first one has failed because it was cancelled.

## Main definitions

* `Run.CutOff` - what a run leaves behind that was stopped on its way
* `Run.Truncates` - one run is another one that may be stopped

## Main statements

* `Truncates.bind`, `Truncates.tryCatch` - truncation passes through sequences, and through handlers
  that hand a cancellation on
* `truncates_ask` - looking at the signal before a request is what truncation rests on
* `Truncates.from_start` - what truncation says of whole runs

## Design notes

A request alone does not truncate itself: from a trace that has used up its requests it would go
one too far.  It only does so together with the look at the signal before it, so the two have one
rule between them.

That the whole run only ever adds requests is a field of the relation rather than a fact of its
own.  A run that was stopped in its first half is compared with a whole run that went on, and then
the requests of the second half must not disturb those that were already compared.
-/

namespace NavGraph.Run

variable {α β : Type} {n : Nat}

/-! ### Cut off -/

/-- What a run leaves behind that was stopped after so many requests, beside what the whole run
does. -/
structure CutOff (n : Nat) (cut : Except Failure α × Trace) (whole : Except Failure β × Trace) :
    Prop where
  cancelled : cut.1 = .error .cancelled
  requests_eq : cut.2.requests = whole.2.requests.take n
  reached : n ≤ whole.2.requests.length

/-- Going on with the whole run changes nothing about what was cut off before. -/
theorem CutOff.extend {γ δ : Type} {cut : Except Failure α × Trace}
    {whole : Except Failure β × Trace} {cut' : Except Failure γ × Trace}
    {whole' : Except Failure δ × Trace} (h : CutOff n cut whole)
    (hcut : cut' = (.error .cancelled, cut.2))
    (hwhole : whole.2.requests <+: whole'.2.requests) : CutOff n cut' whole' := by
  obtain ⟨more, hmore⟩ := hwhole
  subst hcut
  refine ⟨rfl, ?_, ?_⟩
  · show cut.2.requests = whole'.2.requests.take n
    rw [h.requests_eq, ← hmore, List.take_append_of_le_length h.reached]
  · rw [← hmore, List.length_append]
    exact Nat.le_add_right_of_le h.reached

/-! ### Truncation -/

/-- One run **truncates** another at a number of requests: from a trace within that number on, the
two end in the same way and stay within it, or the first is cut off. -/
structure Truncates (n : Nat) (cut whole : Run α) : Prop where
  grows : ∀ t, t.requests <+: (whole.outcome t).2.requests
  same_or_cut : ∀ t, t.requests.length ≤ n →
    (cut.outcome t = whole.outcome t ∧ (whole.outcome t).2.requests.length ≤ n) ∨
      CutOff n (cut.outcome t) (whole.outcome t)

/-- A run that makes no requests truncates itself. -/
theorem truncates_of_silent {run : Run α}
    (h : ∀ t, (run.outcome t).2.requests = t.requests) : Truncates n run run where
  grows t := ⟨[], by rw [List.append_nil, h t]⟩
  same_or_cut t ht := by
    left
    rw [h t]
    exact ⟨rfl, ht⟩

theorem truncates_pure (a : α) : Truncates n (pure a) (pure a) := by
  apply truncates_of_silent
  intro t
  rw [outcome_pure]

theorem truncates_throw (f : Failure) : Truncates n (throw f : Run α) (throw f) := by
  apply truncates_of_silent
  intro t
  rw [outcome_throw]

theorem truncates_log (level : Level) (logger message : String) :
    Truncates n (log level logger message) (log level logger message) := by
  apply truncates_of_silent
  intro t
  rw [outcome_log]

theorem truncates_sleep (seconds : Float) : Truncates n (sleep seconds) (sleep seconds) := by
  apply truncates_of_silent
  intro t
  rw [outcome_sleep]

theorem truncates_ofExcept (e : Except Failure α) : Truncates n (ofExcept e) (ofExcept e) := by
  apply truncates_of_silent
  intro t
  rw [outcome_ofExcept]

section

variable {cut whole : Run α}

/-- What comes second does not disturb the requests of what came first. -/
theorem requests_prefix_bind (run : Run α) {next : α → Run β}
    (hnext : ∀ a t, t.requests <+: ((next a).outcome t).2.requests) (t : Trace) :
    (run.outcome t).2.requests <+: ((run >>= next).outcome t).2.requests := by
  rw [outcome_bind]
  rcases run.outcome t with ⟨f | a, u⟩
  · exact List.prefix_rfl
  · exact hnext a u

theorem requests_prefix_tryCatch (run : Run α) {handler : Failure → Run α}
    (hhandler : ∀ f t, t.requests <+: ((handler f).outcome t).2.requests) (t : Trace) :
    (run.outcome t).2.requests <+: ((tryCatch run handler : Run α).outcome t).2.requests := by
  rw [outcome_tryCatch]
  rcases run.outcome t with ⟨f | a, u⟩
  · exact hhandler f u
  · exact List.prefix_rfl

/-- Sequences of truncations truncate. -/
theorem Truncates.bind {next next' : α → Run β} (h : Truncates n cut whole)
    (hnext : ∀ a, Truncates n (next a) (next' a)) :
    Truncates n (cut >>= next) (whole >>= next') := by
  have hgoes := requests_prefix_bind whole fun a => (hnext a).grows
  constructor
  · intro t
    exact (h.grows t).trans (hgoes t)
  · intro t ht
    obtain ⟨hsame, hbound⟩ | hcut := h.same_or_cut t ht
    · -- Nobody has noticed a signal yet, so the second halves start from one trace.
      rw [outcome_bind, outcome_bind, hsame]
      generalize whole.outcome t = o at hbound ⊢
      obtain ⟨f | a, u⟩ := o
      · exact .inl ⟨rfl, hbound⟩
      · exact (hnext a).same_or_cut u hbound
    · right
      refine hcut.extend ?_ (hgoes t)
      rw [outcome_bind, ← Prod.eta (cut.outcome t), hcut.cancelled]

/-- Handlers that hand a cancellation on keep truncations. -/
theorem Truncates.tryCatch {handler handler' : Failure → Run α} (h : Truncates n cut whole)
    (hhandler : ∀ f, Truncates n (handler f) (handler' f))
    (hcancelled : handler .cancelled = throw .cancelled) :
    Truncates n (tryCatch cut handler : Run α) (tryCatch whole handler') := by
  have hgoes := requests_prefix_tryCatch whole fun f => (hhandler f).grows
  constructor
  · intro t
    exact (h.grows t).trans (hgoes t)
  · intro t ht
    obtain ⟨hsame, hbound⟩ | hcut := h.same_or_cut t ht
    · rw [outcome_tryCatch, outcome_tryCatch, hsame]
      generalize whole.outcome t = o at hbound ⊢
      obtain ⟨f | a, u⟩ := o
      · exact (hhandler f).same_or_cut u hbound
      · exact .inl ⟨rfl, hbound⟩
    · -- The whole run may have failed for a reason of its own and been caught; the cut one was not.
      right
      refine hcut.extend ?_ (hgoes t)
      rw [outcome_tryCatch, ← Prod.eta (cut.outcome t), hcut.cancelled]
      show (handler .cancelled).outcome _ = _
      rw [hcancelled, outcome_throw]

end

/-! ### The signal -/

theorem outcome_requireActive_never (t : Trace) :
    (requireActive .never).outcome t = (.ok (), t) := by
  rw [outcome_requireActive]
  rfl

theorem outcome_requireActive_after (n : Nat) (t : Trace) :
    (requireActive (.after n)).outcome t =
      (if n ≤ t.requests.length then .error .cancelled else .ok (), t) := by
  rw [outcome_requireActive]
  simp only [Signal.after, decide_eq_true_eq]

/-- A run that is stopped before it has done anything is cut off. -/
theorem cutOff_of_requireActive {t : Trace} (ht : t.requests.length = n) {next : Unit → Run α}
    {whole : Run α} (hgrows : t.requests <+: (whole.outcome t).2.requests) :
    CutOff n ((requireActive (.after n) >>= next).outcome t) (whole.outcome t) := by
  have hstart : CutOff n ((.error .cancelled, t) : Except Failure α × Trace)
      ((.ok (), t) : Except Failure Unit × Trace) := by
    refine ⟨rfl, ?_, ?_⟩
    · exact (List.take_of_length_le (Nat.le_of_eq ht)).symm
    · exact Nat.le_of_eq ht.symm
  refine hstart.extend ?_ hgrows
  rw [outcome_bind, outcome_requireActive_after, if_pos (Nat.le_of_eq ht.symm)]

/-- Looking at the signal truncates not looking at it. -/
theorem truncates_requireActive {next next' : Unit → Run α}
    (hnext : Truncates n (next ()) (next' ())) :
    Truncates n (requireActive (.after n) >>= next) (requireActive .never >>= next') := by
  have hwhole : ∀ t, (requireActive .never >>= next').outcome t = (next' ()).outcome t := by
    intro t
    rw [outcome_bind, outcome_requireActive_never]
  constructor
  · intro t
    rw [hwhole]
    exact hnext.grows t
  · intro t ht
    obtain hlt | heq := Nat.lt_or_eq_of_le ht
    · rw [hwhole, outcome_bind, outcome_requireActive_after, if_neg (Nat.not_le_of_lt hlt)]
      exact hnext.same_or_cut t ht
    · right
      refine cutOff_of_requireActive heq ?_
      rw [hwhole]
      exact hnext.grows t

/-- **A request behind a look at the signal truncates the bare request**: whoever goes on to ask
has room for one more. -/
theorem truncates_ask (host : Host) (r : Request) {next next' : Answer → Run α}
    (hnext : ∀ answer, Truncates n (next answer) (next' answer)) :
    Truncates n (requireActive (.after n) >>= fun _ => ask host r >>= next)
      (requireActive .never >>= fun _ => ask host r >>= next') := by
  have hwhole : ∀ t, (requireActive .never >>= fun _ => ask host r >>= next').outcome t =
      (next' (host t.requests r)).outcome { t with requests := t.requests ++ [r] } := by
    intro t
    rw [outcome_bind, outcome_requireActive_never]
    show (ask host r >>= next').outcome t = _
    rw [outcome_bind, outcome_ask]
  have hgrows : ∀ t, t.requests <+:
      ((requireActive .never >>= fun _ => ask host r >>= next').outcome t).2.requests := by
    intro t
    rw [hwhole]
    exact (List.prefix_append t.requests [r]).trans
      ((hnext _).grows { t with requests := t.requests ++ [r] })
  refine ⟨hgrows, ?_⟩
  intro t ht
  obtain hlt | heq := Nat.lt_or_eq_of_le ht
  · rw [hwhole, outcome_bind, outcome_requireActive_after, if_neg (Nat.not_le_of_lt hlt)]
    show _ ∨ CutOff n ((ask host r >>= next).outcome t) _
    rw [outcome_bind, outcome_ask]
    apply (hnext _).same_or_cut
    show (t.requests ++ [r]).length ≤ n
    rw [List.length_append, List.length_singleton]
    exact hlt
  · exact .inr (cutOff_of_requireActive heq (hgrows t))

/-- What truncation says of two runs that start from nothing. -/
theorem Truncates.from_start {cut whole : Run α} (h : Truncates n cut whole) :
    (cut.outcome .empty).2.requests = (whole.outcome .empty).2.requests.take n ∧
      (n < (whole.outcome .empty).2.requests.length →
        (cut.outcome .empty).1 = .error .cancelled) ∧
      ((cut.outcome .empty).1 = .error .cancelled ∨
        (cut.outcome .empty).1 = (whole.outcome .empty).1) := by
  obtain ⟨hsame, hbound⟩ | hcut := h.same_or_cut .empty (Nat.zero_le n)
  · rw [hsame]
    refine ⟨(List.take_of_length_le hbound).symm, ?_, .inr rfl⟩
    intro hlt
    exact absurd hlt (Nat.not_lt_of_le hbound)
  · exact ⟨hcut.requests_eq, fun _ => hcut.cancelled, .inl hcut.cancelled⟩

end NavGraph.Run

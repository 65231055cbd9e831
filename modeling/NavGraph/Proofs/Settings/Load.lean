import NavGraph.Proofs.Assoc
import NavGraph.Proofs.Host.FirstRequest
import NavGraph.Proofs.Settings.Field

/-!
# Loading settings

Which values settings are loaded from, and what becomes of them.  Each field has at most one value
that counts: an explicit one, unless it is null, or else the text of its variable in the
environment, unless that is empty.  Settings are there exactly if every field takes its value; and a
client that goes by them asks at least once, unless it is stopped before.

## Main definitions

* `Field.environmentKey?` - the variable that sets a field
* `Field.override?`, `Field.ofEnvironment?`, `chosen?` - the value of a field that counts

## Main statements

* `lookup_chosenFields` - the fields that settings are read from are the values that count
* `load_eq_ok_iff`, `exists_refused_of_load` - settings are loaded field by field
* `load_eq_of_overridden`, `content_eq_of_chosen?` - values that do not matter
* `load_exact` - which settings are loaded, and what a client can rely on

## Design notes

A value that does not count has no effect at all, so a variable that makes no sense does no harm
under an explicit value.  That a field does not depend on the values of others is part of the
statements: they speak of each field by its own value.
-/

namespace NavGraph

open Schema

namespace Settings

/-! ### The value that counts -/

namespace Field

/-- The variable of an environment that sets a field. -/
def environmentKey? : Field → Option String
  | apiBaseUrl => some "FLOWSCOPE_API_BASE_URL"
  | acceptHeader => none
  | userAgent => some "FLOWSCOPE_USER_AGENT"
  | token => some "GITHUB_TOKEN"
  | timeout => some "FLOWSCOPE_TIMEOUT"
  | maxRetries => some "FLOWSCOPE_MAX_RETRIES"
  | retryBaseDelay => some "FLOWSCOPE_RETRY_BASE_DELAY"
  | fallbackEnabled => some "FLOWSCOPE_FALLBACK"

/-- The text that an environment has for a field, if it is not empty. -/
def ofEnvironment? (environment : List (String × String)) (field : Field) : Option String :=
  (field.environmentKey?.bind fun key => environment.lookup key).filter (!·.isEmpty)

/-- The explicit value of a field, if it is not null. -/
def override? (overrides : Fields) (field : Field) : Option Json :=
  (overrides.lookup field.name).filter (!isNull ·)

end Field

/-- The value of a field that **counts**: the explicit one, or else that of the environment. -/
def chosen? (environment : List (String × String)) (overrides : Fields) (field : Field) :
    Option Json :=
  (field.override? overrides).or ((field.ofEnvironment? environment).map .string)

variable {environment : List (String × String)} {overrides : Fields} {s : Settings}

theorem ofEnvironment_eq (environment : List (String × String)) :
    ofEnvironment environment = environmentFields.filterMap fun entry =>
      (((environment.lookup entry.1).filter (!·.isEmpty)).map Json.string).map (entry.2, ·) := by
  refine List.filterMap_congr fun entry _ => ?_
  obtain ⟨key, field⟩ := entry
  dsimp only
  cases environment.lookup key with
  | none => rfl
  | some value =>
    cases hempty : value.isEmpty <;> simp [Option.filter, hempty]

/-- The table of variables has the variable of each field. -/
theorem find?_environmentFields (field : Field) :
    (environmentFields.find? (·.2 = field.name)).map Prod.fst = field.environmentKey? := by
  cases field <;> rfl

/-- **The environment has a field by its own variable.** -/
theorem lookup_ofEnvironment (environment : List (String × String)) (field : Field) :
    (ofEnvironment environment).lookup field.name =
      (field.ofEnvironment? environment).map .string := by
  have hnodup : (environmentFields.map Prod.snd).Nodup := by decide
  rw [ofEnvironment_eq, Assoc.lookup_filterMap
    (fun key => ((environment.lookup key).filter (!·.isEmpty)).map Json.string) hnodup,
    Field.ofEnvironment?, ← find?_environmentFields]
  cases environmentFields.find? (·.2 = field.name) <;> rfl

/-- **The fields that settings are read from are the values that count.** -/
theorem lookup_chosenFields (hnodup : (overrides.map Prod.fst).Nodup) (field : Field) :
    (chosenFields environment overrides).lookup field.name =
      chosen? environment overrides field := by
  have hkept : ((overrides.filter (!isNull ·.2)).map Prod.fst).Nodup :=
    hnodup.sublist (List.filter_sublist.map _)
  rw [chosenFields, Assoc.lookup_foldl_put_or hkept, lookup_ofEnvironment,
    Assoc.lookup_filter hnodup (!isNull ·)]
  rfl

/-! ### Loading -/

theorem load_eq_ok_iff_ofJson :
    load environment overrides = .ok s ↔
      ofJson (.object (chosenFields environment overrides)) = .ok s := by
  unfold load
  cases ofJson (.object (chosenFields environment overrides)) with
  | ok s => simp only [Except.ok.injEq]
  | error problems => exact iff_of_false nofun nofun

/-- **Settings are loaded field by field.** -/
theorem load_eq_ok_iff (hnodup : (overrides.map Prod.fst).Nodup) :
    load environment overrides = .ok s ↔
      ∀ field : Field, field.Takes (chosen? environment overrides field) (s.content field) := by
  rw [load_eq_ok_iff_ofJson, ofJson_eq_ok_iff]
  simp only [lookup_chosenFields hnodup]

/-- **Settings that are not loaded fail by the fields that refuse the values that count.** -/
theorem exists_refused_of_load (hnodup : (overrides.map Prod.fst).Nodup) {f : Failure}
    (h : load environment overrides = .error f) :
    ∃ (problems : List Problem) (refused : List Field),
      f = .invalidSettings problems ∧ refused.Sublist Field.all ∧
      (∀ field, field ∈ refused ↔ field.Refuses (chosen? environment overrides field)) ∧
      problems.map (·.place) = refused.map fun field => [.field field.name] := by
  unfold load at h
  split at h
  · cases h
  · rename_i problems hread
    cases h
    obtain ⟨refused, hsublist, hmem, hplaces⟩ := exists_refused_of_ofJson hread
    simp only [lookup_chosenFields hnodup] at hmem
    exact ⟨problems, refused, rfl, hsublist, hmem, hplaces⟩

/-- Settings with given contents. -/
def ofContent (content : (field : Field) → field.Content) : Settings :=
  ⟨content .apiBaseUrl, content .acceptHeader, content .userAgent, content .token,
    content .timeout, content .maxRetries, content .retryBaseDelay, content .fallbackEnabled⟩

theorem content_ofContent (content : (field : Field) → field.Content) (field : Field) :
    (ofContent content).content field = content field := by
  cases field <;> rfl

/-- **Settings are loaded exactly if no field refuses the value that counts.** -/
theorem exists_load_iff (hnodup : (overrides.map Prod.fst).Nodup) :
    (∃ s, load environment overrides = .ok s) ↔
      ∀ field : Field, ¬ field.Refuses (chosen? environment overrides field) := by
  simp only [load_eq_ok_iff hnodup]
  constructor
  · rintro ⟨s, htakes⟩ field hrefuses
    exact hrefuses _ (htakes field)
  · intro h
    have htakes := fun field => Classical.not_forall_not.1 (h field)
    refine ⟨ofContent fun field => (htakes field).choose, fun field => ?_⟩
    rw [content_ofContent]
    exact (htakes field).choose_spec

/-- Values that count alike are loaded alike. -/
theorem load_congr {environment' : List (String × String)} {overrides' : Fields}
    (hnodup : (overrides.map Prod.fst).Nodup) (hnodup' : (overrides'.map Prod.fst).Nodup)
    (h : ∀ field, chosen? environment' overrides' field = chosen? environment overrides field) :
    load environment' overrides' = load environment overrides := by
  have hfields : ∀ field : Field, (chosenFields environment' overrides').lookup field.name =
      (chosenFields environment overrides).lookup field.name := by
    intro field
    rw [lookup_chosenFields hnodup', lookup_chosenFields hnodup, h]
  rw [load, load, ofJson_congr hfields]

/-- **What the environment says of a field with an explicit value does not matter.** -/
theorem load_eq_of_overridden (hnodup : (overrides.map Prod.fst).Nodup)
    {environment' : List (String × String)} (h : ∀ field : Field, field.override? overrides = none →
      field.ofEnvironment? environment' = field.ofEnvironment? environment) :
    load environment' overrides = load environment overrides := by
  refine load_congr hnodup hnodup fun field => ?_
  unfold chosen?
  cases hoverride : field.override? overrides with
  | none => rw [h field hoverride]
  | some v => rfl

/-- **A field does not depend on the values of others.** -/
theorem content_eq_of_chosen? {environment' : List (String × String)} {overrides' : Fields}
    {s' : Settings} {field : Field} (hnodup : (overrides.map Prod.fst).Nodup)
    (hnodup' : (overrides'.map Prod.fst).Nodup)
    (hchosen : chosen? environment' overrides' field = chosen? environment overrides field)
    (hload : load environment overrides = .ok s) (hload' : load environment' overrides' = .ok s') :
    s'.content field = s.content field := by
  have htakes := (load_eq_ok_iff hnodup).1 hload field
  rw [← hchosen] at htakes
  exact ((load_eq_ok_iff hnodup').1 hload' field).unique htakes

/-! ### What can be relied on -/

/-- **How settings are loaded.**  Settings are loaded exactly if no field refuses the value that
counts for it, and then hold in each field what it makes of that value, or its default; otherwise
the failure names exactly the fields that refuse theirs, in the order of the fields.  So what the
environment says of a field with an explicit value does not matter, and no field depends on the
values of others.  Loaded settings keep their bounds, and a client that goes by them asks at least
once, whatever it is to find out, unless it is stopped before. -/
theorem load_exact (environment : List (String × String)) (overrides : Fields)
    (hnodup : (overrides.map Prod.fst).Nodup) :
    (∀ s, load environment overrides = .ok s ↔
      ∀ field : Field, field.Takes (chosen? environment overrides field) (s.content field)) ∧
    ((∃ s, load environment overrides = .ok s) ↔
      ∀ field : Field, ¬ field.Refuses (chosen? environment overrides field)) ∧
    (∀ f, load environment overrides = .error f →
      ∃ (problems : List Problem) (refused : List Field), f = .invalidSettings problems ∧
        refused.Sublist Field.all ∧
        (∀ field, field ∈ refused ↔ field.Refuses (chosen? environment overrides field)) ∧
        problems.map (·.place) = refused.map fun field => [.field field.name]) ∧
    (∀ environment', (∀ field : Field, field.override? overrides = none →
        field.ofEnvironment? environment' = field.ofEnvironment? environment) →
      load environment' overrides = load environment overrides) ∧
    (∀ environment' overrides' s s', ∀ field : Field, (overrides'.map Prod.fst).Nodup →
      chosen? environment' overrides' field = chosen? environment overrides field →
      load environment overrides = .ok s → load environment' overrides' = .ok s' →
        s'.content field = s.content field) ∧
    ∀ s, load environment overrides = .ok s →
      ((0.0 < s.timeout ∧ s.timeout.isNaN = false) ∧
        (0.0 ≤ s.retryBaseDelay ∧ s.retryBaseDelay.isNaN = false) ∧ 0 ≤ s.maxRetries) ∧
      ∀ c : Client, c.settings = s →
        (∀ r, c.AsksUnlessStopped r (c.request r)) ∧
        (∀ repo, c.AsksUnlessStopped (c.probeRequest repo) (c.probe repo)) ∧
        (∀ repo path, c.AsksUnlessStopped (c.listRequest repo path) (c.list repo path)) ∧
        ∀ location, c.AsksUnlessStopped (Client.readRequest location) (c.read location) := by
  refine ⟨fun s => load_eq_ok_iff hnodup, exists_load_iff hnodup,
    fun f => exists_refused_of_load hnodup, ?_, ?_, ?_⟩
  · exact fun environment' h => load_eq_of_overridden hnodup h
  · intro environment' overrides' s s' field hnodup' hchosen hload hload'
    exact content_eq_of_chosen? hnodup hnodup' hchosen hload hload'
  · intro s hload
    have hbounds := keeps_bounds (load_eq_ok_iff_ofJson.1 hload)
    refine ⟨hbounds, ?_⟩
    rintro c rfl
    have hretries := hbounds.2.2
    exact ⟨c.request_asksUnlessStopped hretries, c.probe_asksUnlessStopped hretries,
      c.list_asksUnlessStopped hretries, c.read_asksUnlessStopped hretries⟩

/-- A variable that is no number does no harm under an explicit value. -/
theorem load_exact_overridden : ([("timeout", Json.int 5)].map Prod.fst).Nodup ∧
    ∃ s, load [("FLOWSCOPE_TIMEOUT", "soon")] [("timeout", .int 5)] = .ok s ∧
      s.timeout = Number.floatOfInt 5 ∧ s.maxRetries = 2 := by
  have hnodup : ([("timeout", Json.int 5)].map Prod.fst).Nodup := by decide
  obtain ⟨hok, hexists, -⟩ :=
    load_exact [("FLOWSCOPE_TIMEOUT", "soon")] [("timeout", .int 5)] hnodup
  have hpositive : 0.0 < Number.floatOfInt 5 := by decide +kernel
  obtain ⟨s, hload⟩ := hexists.2 fun field hrefuses => by
    cases field with
    | timeout => exact hrefuses (Number.floatOfInt 5) ⟨rfl, hpositive⟩
    | _ => exact hrefuses (default.content _) rfl
  have htakes := (hok s).1 hload
  have htimeout : number (.int 5) = .ok s.timeout ∧ 0.0 < s.timeout := htakes .timeout
  exact ⟨hnodup, s, hload, (Except.ok.inj htimeout.1).symm, htakes .maxRetries⟩

end Settings

end NavGraph

import NavGraph.Settings

/-!
# Fields of settings

The eight fields of settings, each with its name, what it holds, its default and what it takes for a
value.  Settings are read field by field: they are there exactly if each field has a value, and
otherwise there is one problem for each field that has none, in the order of the fields.

## Main definitions

* `Field`, `Field.all`, `Field.Content` - the fields in order, and what each of them holds
* `Field.Converts` - what a field makes of a value that is given for it
* `Field.Takes` - what a field holds, by the value that is given for it if there is one

## Main statements

* `Field.read_eq_ok_iff` - the readers of fields convert values
* `Field.hasOneProblem_read` - and name one problem with a value that they refuse
* `ofJson_eq_ok_iff`, `exists_refused_of_ofJson` - settings are read field by field
* `keeps_bounds` - settings keep their bounds

## Design notes

The bounds of the two durations are comparisons of floats, which hold of no value that is not a
number; so a bound from below also keeps such values out.
-/

namespace NavGraph

open Schema

namespace Settings

/-- The fields of settings. -/
inductive Field where
  | apiBaseUrl
  | acceptHeader
  | userAgent
  | token
  | timeout
  | maxRetries
  | retryBaseDelay
  | fallbackEnabled
  deriving DecidableEq

namespace Field

/-- The fields in the order of settings. -/
def all : List Field :=
  [apiBaseUrl, acceptHeader, userAgent, token, timeout, maxRetries, retryBaseDelay,
    fallbackEnabled]

theorem mem_all (field : Field) : field ∈ all := by
  cases field <;> decide

/-- The name of a field. -/
def name : Field → String
  | apiBaseUrl => "api_base_url"
  | acceptHeader => "accept_header"
  | userAgent => "user_agent"
  | token => "token"
  | timeout => "timeout"
  | maxRetries => "max_retries"
  | retryBaseDelay => "retry_base_delay"
  | fallbackEnabled => "fallback_enabled"

/-- What a field holds. -/
abbrev Content : Field → Type
  | apiBaseUrl | acceptHeader | userAgent => String
  | token => Option String
  | timeout | retryBaseDelay => Float
  | maxRetries => Int
  | fallbackEnabled => Bool

/-- What a field **makes of a value** that is given for it: texts are taken as they are, durations
and counts are converted and have to keep their bounds. -/
def Converts : (field : Field) → Json → field.Content → Prop
  | apiBaseUrl, v, a | acceptHeader, v, a | userAgent, v, a => v = .string a
  | token, v, a => v = .ofOption a
  | timeout, v, x => number v = .ok x ∧ 0.0 < x
  | maxRetries, v, n => integer v = .ok n ∧ 0 ≤ n
  | retryBaseDelay, v, x => number v = .ok x ∧ 0.0 ≤ x
  | fallbackEnabled, v, b => boolean v = .ok b

/-- The reader of a field. -/
def read : (field : Field) → Json → Reading field.Content
  | apiBaseUrl | acceptHeader | userAgent => text
  | token => orNull text
  | timeout => positive
  | maxRetries => count
  | retryBaseDelay => nonNegative
  | fallbackEnabled => boolean

end Field

/-- What settings hold in a field. -/
def content (s : Settings) : (field : Field) → field.Content
  | .apiBaseUrl => s.apiBaseUrl
  | .acceptHeader => s.acceptHeader
  | .userAgent => s.userAgent
  | .token => s.token
  | .timeout => s.timeout
  | .maxRetries => s.maxRetries
  | .retryBaseDelay => s.retryBaseDelay
  | .fallbackEnabled => s.fallbackEnabled

/-! ### Readers -/

/-- A reading whose value has to pass a test. -/
def checked {α : Type} (p : α → Prop) [DecidablePred p] (kind : Problem.Kind)
    (reading : Reading α) : Reading α :=
  match reading with
  | .ok a => if p a then .ok a else .refuse kind
  | .error problems => .error problems

/-- A reading has at most one problem, which is with the value as a whole. -/
def HasOneProblem {α : Type} (reading : Reading α) : Prop :=
  ∀ problems, reading = .error problems → ∃ kind, problems = [⟨[], kind⟩]

section

variable {α : Type} {v : Json} {reading : Reading α} {p : α → Prop} [DecidablePred p]
  {kind : Problem.Kind}

theorem checked_eq_ok_iff {a : α} : checked p kind reading = .ok a ↔ reading = .ok a ∧ p a := by
  unfold checked
  cases reading with
  | error problems => simp
  | ok b =>
    dsimp only
    split
    · rename_i hb
      rw [Except.ok.injEq]
      exact ⟨fun h => ⟨h, h ▸ hb⟩, And.left⟩
    · rename_i hb
      refine iff_of_false nofun ?_
      rintro ⟨⟨⟩, h⟩
      exact hb h

theorem positive_eq (v : Json) : positive v = checked (0.0 < ·) .notAbove (number v) := by
  unfold positive checked
  cases number v <;> rfl

theorem nonNegative_eq (v : Json) : nonNegative v = checked (0.0 ≤ ·) .below (number v) := by
  unfold nonNegative checked
  cases number v <;> rfl

theorem count_eq (v : Json) : count v = checked (0 ≤ ·) .below (integer v) := by
  unfold count checked
  cases integer v <;> rfl

/-- **The readers of fields convert values.** -/
theorem Field.read_eq_ok_iff {field : Field} {a : field.Content} :
    field.read v = .ok a ↔ field.Converts v a := by
  cases field with
  | apiBaseUrl | acceptHeader | userAgent => exact text_eq_ok_iff
  | token => exact orNull_text_eq_ok_iff
  | timeout => rw [read, positive_eq]; exact checked_eq_ok_iff
  | maxRetries => rw [read, count_eq]; exact checked_eq_ok_iff
  | retryBaseDelay => rw [read, nonNegative_eq]; exact checked_eq_ok_iff
  | fallbackEnabled => exact Iff.rfl

theorem hasOneProblem_refuse : HasOneProblem (.refuse kind : Reading α) := by
  rintro problems ⟨⟩
  exact ⟨kind, rfl⟩

theorem hasOneProblem_ok {a : α} : HasOneProblem (.ok a : Reading α) := nofun

theorem HasOneProblem.ite {other : Reading α} {c : Prop} [Decidable c] (h : HasOneProblem reading)
    (h' : HasOneProblem other) : HasOneProblem (if c then reading else other) := by
  split
  · exact h
  · exact h'

theorem HasOneProblem.checked (h : HasOneProblem reading) :
    HasOneProblem (checked p kind reading) := by
  cases reading with
  | error problems => exact h
  | ok a => exact hasOneProblem_ok.ite hasOneProblem_refuse

theorem hasOneProblem_text : HasOneProblem (text v) := by
  cases v with
  | string s => exact hasOneProblem_ok
  | _ => exact hasOneProblem_refuse

theorem hasOneProblem_orNull_text : HasOneProblem (orNull text v) := by
  cases v with
  | null | string s => exact hasOneProblem_ok
  | _ => exact hasOneProblem_refuse

theorem hasOneProblem_boolean : HasOneProblem (boolean v) := by
  cases v with
  | bool b => exact hasOneProblem_ok
  | int n => exact hasOneProblem_ok.ite (hasOneProblem_ok.ite hasOneProblem_refuse)
  | float x => exact hasOneProblem_ok.ite (hasOneProblem_ok.ite hasOneProblem_refuse)
  | string s =>
    unfold boolean
    dsimp only
    split
    · exact hasOneProblem_ok
    · exact hasOneProblem_refuse
  | null | array items | object fields => exact hasOneProblem_refuse

theorem hasOneProblem_wholeFloat {x : Float} : HasOneProblem (wholeFloat x) := by
  unfold wholeFloat
  split
  · exact hasOneProblem_ok.ite hasOneProblem_refuse
  · exact hasOneProblem_refuse

theorem hasOneProblem_integer : HasOneProblem (integer v) := by
  cases v with
  | int n | bool b => exact hasOneProblem_ok
  | float x => exact hasOneProblem_wholeFloat
  | string s =>
    unfold integer
    dsimp only
    split
    · exact hasOneProblem_ok
    · exact hasOneProblem_refuse
  | null | array items | object fields => exact hasOneProblem_refuse

theorem hasOneProblem_number : HasOneProblem (number v) := by
  cases v with
  | int n | bool b | float x => exact hasOneProblem_ok
  | string s =>
    unfold number
    dsimp only
    split
    · exact hasOneProblem_ok
    · exact hasOneProblem_refuse
  | null | array items | object fields => exact hasOneProblem_refuse

/-- **The reader of a field names one problem** with a value that it refuses. -/
theorem Field.hasOneProblem_read (field : Field) (v : Json) : HasOneProblem (field.read v) := by
  cases field with
  | apiBaseUrl | acceptHeader | userAgent => exact hasOneProblem_text
  | token => exact hasOneProblem_orNull_text
  | timeout => rw [read, positive_eq]; exact hasOneProblem_number.checked
  | maxRetries => rw [read, count_eq]; exact hasOneProblem_integer.checked
  | retryBaseDelay => rw [read, nonNegative_eq]; exact hasOneProblem_number.checked
  | fallbackEnabled => exact hasOneProblem_boolean

end

/-! ### Field by field -/

/-- What a field **takes** by the value that is given for it: what it makes of the value, or its
default if none is given. -/
def Field.Takes (field : Field) (given : Option Json) (a : field.Content) : Prop :=
  match given with
  | some v => field.Converts v a
  | none => a = default.content field

/-- A field takes one thing only. -/
theorem Field.Takes.unique {field : Field} {given : Option Json} {a b : field.Content}
    (ha : field.Takes given a) (hb : field.Takes given b) : a = b := by
  cases given with
  | none =>
    have hb' : b = default.content field := hb
    exact hb' ▸ ha
  | some v =>
    have hread := Field.read_eq_ok_iff.2 ha
    rw [Field.read_eq_ok_iff.2 hb] at hread
    exact (Except.ok.inj hread).symm

/-- A field **refuses** what is given for it if it makes nothing of it. -/
def Field.Refuses (field : Field) (given : Option Json) : Prop :=
  ∀ a, ¬ field.Takes given a

/-- The reading of one field. -/
def readingOf (fields : Fields) (field : Field) : Reading field.Content :=
  withDefault field.name (default.content field) field.read fields

/-- The problems of a reading. -/
def problemsOf {α : Type} : Reading α → List Problem
  | .ok _ => []
  | .error problems => problems

section

variable {fields : Fields} {field : Field}

theorem readingOf_eq_ok_iff {a : field.Content} :
    readingOf fields field = .ok a ↔ field.Takes (fields.lookup field.name) a := by
  unfold readingOf withDefault Field.Takes
  cases fields.lookup field.name with
  | none => exact ⟨fun h => (Except.ok.inj h).symm, congrArg Except.ok ∘ Eq.symm⟩
  | some v => exact Reading.within_eq_ok_iff.trans Field.read_eq_ok_iff

/-- A field that refuses what is given for it has one problem, and the others have none. -/
theorem place_problemsOf (h : field.Refuses (fields.lookup field.name)) :
    (problemsOf (readingOf fields field)).map (·.place) = [[.field field.name]] := by
  cases hreading : readingOf fields field with
  | ok a => exact absurd (readingOf_eq_ok_iff.1 hreading) (h a)
  | error problems =>
    unfold readingOf withDefault at hreading
    split at hreading
    · rename_i v _
      cases hread : field.read v with
      | ok a =>
        rw [hread] at hreading
        cases hreading
      | error problems =>
        obtain ⟨kind, rfl⟩ := field.hasOneProblem_read v problems hread
        rw [hread] at hreading
        cases hreading
        rfl
    · cases hreading

theorem problemsOf_eq_nil (h : ¬ field.Refuses (fields.lookup field.name)) :
    problemsOf (readingOf fields field) = [] := by
  obtain ⟨a, ha⟩ := Classical.not_forall_not.1 h
  rw [readingOf_eq_ok_iff.2 ha]
  rfl

end

theorem problemsOf_map {α β : Type} (f : α → β) (x : Reading α) :
    problemsOf (x.map f) = problemsOf x := by
  cases x <;> rfl

theorem problemsOf_and {α β : Type} (f : Reading (α → β)) (x : Reading α) :
    problemsOf (f.and x) = problemsOf f ++ problemsOf x := by
  cases f <;> cases x <;> simp [problemsOf, Reading.and]

theorem ofJson_object (fields : Fields) : ofJson (.object fields) =
    (((readingOf fields .apiBaseUrl).map mk)
      |>.and (readingOf fields .acceptHeader)
      |>.and (readingOf fields .userAgent)
      |>.and (readingOf fields .token)
      |>.and (readingOf fields .timeout)
      |>.and (readingOf fields .maxRetries)
      |>.and (readingOf fields .retryBaseDelay)
      |>.and (readingOf fields .fallbackEnabled)) := rfl

variable {fields : Fields} {s : Settings}

/-- **Settings are read field by field.** -/
theorem ofJson_eq_ok_iff : ofJson (.object fields) = .ok s ↔
    ∀ field : Field, field.Takes (fields.lookup field.name) (s.content field) := by
  simp only [ofJson_object, Reading.and_eq_ok_iff, Reading.map_eq_ok_iff, ← readingOf_eq_ok_iff]
  constructor
  · rintro ⟨_, _, ⟨_, _, ⟨_, _, ⟨_, _, ⟨_, _, ⟨_, _, ⟨_, _, ⟨_, h₁, rfl⟩, h₂, rfl⟩, h₃, rfl⟩, h₄,
      rfl⟩, h₅, rfl⟩, h₆, rfl⟩, h₇, rfl⟩, h₈, rfl⟩ field
    cases field with
    | apiBaseUrl => exact h₁
    | acceptHeader => exact h₂
    | userAgent => exact h₃
    | token => exact h₄
    | timeout => exact h₅
    | maxRetries => exact h₆
    | retryBaseDelay => exact h₇
    | fallbackEnabled => exact h₈
  · intro h
    exact ⟨_, _, ⟨_, _, ⟨_, _, ⟨_, _, ⟨_, _, ⟨_, _, ⟨_, _, ⟨_, h .apiBaseUrl, rfl⟩,
      h .acceptHeader, rfl⟩, h .userAgent, rfl⟩, h .token, rfl⟩, h .timeout, rfl⟩,
      h .maxRetries, rfl⟩, h .retryBaseDelay, rfl⟩, h .fallbackEnabled, rfl⟩

/-- Settings depend on the values of their fields alone. -/
theorem ofJson_congr {fields fields' : Fields}
    (h : ∀ field : Field, fields.lookup field.name = fields'.lookup field.name) :
    ofJson (.object fields) = ofJson (.object fields') := by
  simp only [ofJson_object, readingOf, withDefault, h]

theorem problemsOf_ofJson (fields : Fields) : problemsOf (ofJson (.object fields)) =
    Field.all.flatMap fun field => problemsOf (readingOf fields field) := by
  simp only [ofJson_object, problemsOf_and, problemsOf_map, Field.all, List.flatMap_cons,
    List.flatMap_nil, List.append_nil, List.append_assoc]

/-- The problems of some fields in order are one for each field that refuses what is given for
it, by induction on the fields. -/
theorem exists_refused (fields : Fields) (asked : List Field) : ∃ refused : List Field,
    refused.Sublist asked ∧
      (∀ field, field ∈ refused ↔ field ∈ asked ∧ field.Refuses (fields.lookup field.name)) ∧
      ((asked.flatMap fun field => problemsOf (readingOf fields field)).map (·.place)) =
        refused.map fun field => [.field field.name] := by
  induction asked with
  | nil => exact ⟨[], List.Sublist.refl _, by simp, rfl⟩
  | cons first rest ih =>
    obtain ⟨refused, hsublist, hmem, hplaces⟩ := ih
    rw [List.flatMap_cons, List.map_append, hplaces]
    by_cases hfirst : first.Refuses (fields.lookup first.name)
    · refine ⟨first :: refused, hsublist.cons_cons first, fun field => ?_, ?_⟩
      · rw [List.mem_cons, List.mem_cons, hmem, or_and_right]
        exact or_congr_left ⟨fun h => ⟨h, h ▸ hfirst⟩, And.left⟩
      · rw [place_problemsOf hfirst]
        rfl
    · refine ⟨refused, hsublist.cons first, fun field => ?_, ?_⟩
      · rw [List.mem_cons, hmem, or_and_right]
        refine ⟨.inr, ?_⟩
        rintro (⟨rfl, h⟩ | h)
        · exact absurd h hfirst
        · exact h
      · rw [problemsOf_eq_nil hfirst]
        rfl

/-- **Settings that are not there have one problem for each field that refuses what is given for
it**, in the order of the fields. -/
theorem exists_refused_of_ofJson {problems : List Problem}
    (h : ofJson (.object fields) = .error problems) : ∃ refused : List Field,
      refused.Sublist Field.all ∧
      (∀ field, field ∈ refused ↔ field.Refuses (fields.lookup field.name)) ∧
      problems.map (·.place) = refused.map fun field => [.field field.name] := by
  have hproblems := problemsOf_ofJson fields
  rw [h] at hproblems
  obtain ⟨refused, hsublist, hmem, hplaces⟩ := exists_refused fields Field.all
  refine ⟨refused, hsublist, fun field => ?_, ?_⟩
  · rw [hmem, and_iff_right field.mem_all]
  · rw [← hplaces, ← hproblems]
    rfl

/-! ### Bounds -/

section

open Float.Model

theorem isNaN_eq_false_of_compare {a b : UnpackedFloat} {order : Ordering}
    (h : a.compare b = some order) : b.isNaN = false := by
  cases b with
  | notANumber => cases a <;> cases h
  | _ => rfl

/-- What is above a bound is a number. -/
theorem isNaN_eq_false_of_lt {x y : Float} (h : x < y) : y.isNaN = false := by
  have hlt : x.toModel.unpack.lt y.toModel.unpack = true := of_decide_eq_true h
  exact isNaN_eq_false_of_compare (beq_iff_eq.1 hlt)

/-- What is a bound or above it is a number. -/
theorem isNaN_eq_false_of_le {x y : Float} (h : x ≤ y) : y.isNaN = false := by
  have hle : x.toModel.unpack.le y.toModel.unpack = true := of_decide_eq_true h
  obtain ⟨order, horder, -⟩ := (Option.any_eq_true _ _).1 hle
  exact isNaN_eq_false_of_compare horder

end

/-- What a field takes keeps a bound that its default and all values converted for it keep. -/
theorem Field.Takes.keeps {field : Field} {given : Option Json} {a : field.Content}
    (h : field.Takes given a) {p : field.Content → Prop} (hdefault : p (default.content field))
    (hconverts : ∀ v, field.Converts v a → p a) : p a := by
  cases given with
  | none =>
    have ha : a = default.content field := h
    exact ha ▸ hdefault
  | some v => exact hconverts v h

/-- **Settings keep their bounds**, the defaults among them. -/
theorem keeps_bounds (h : ofJson (.object fields) = .ok s) :
    (0.0 < s.timeout ∧ s.timeout.isNaN = false) ∧
      (0.0 ≤ s.retryBaseDelay ∧ s.retryBaseDelay.isNaN = false) ∧ 0 ≤ s.maxRetries := by
  rw [ofJson_eq_ok_iff] at h
  have htimeout : 0.0 < s.timeout :=
    (h .timeout).keeps (p := fun x : Float => 0.0 < x) (by decide) fun _ hv => hv.2
  have hdelay : 0.0 ≤ s.retryBaseDelay :=
    (h .retryBaseDelay).keeps (p := fun x : Float => 0.0 ≤ x) (by decide) fun _ hv => hv.2
  have hretries : 0 ≤ s.maxRetries :=
    (h .maxRetries).keeps (p := fun n : Int => 0 ≤ n) (by decide) fun _ hv => hv.2
  exact ⟨⟨htimeout, isNaN_eq_false_of_lt htimeout⟩, ⟨hdelay, isNaN_eq_false_of_le hdelay⟩,
    hretries⟩

end Settings

end NavGraph

import NavGraph.Proofs.Time.Timestamp

/-!
# Moments counted from 1970

Seconds from the start of 1970 stand for a moment: a date, which the calendar reaches from the first
of January 1970 day by day, forwards or backwards, and the seconds of that day.  The times in UTC
are those moments, for as long as their years have four digits, and they keep the order of the
seconds.

## Main definitions

* `Date.LiesAfter` - so many days lie between two dates
* `IsMoment` - the date and the second of a day that come so many seconds after the start of 1970
* `Timestamp.IsBefore` - the order of times by their dates and their clocks

## Main statements

* `Date.liesAfter_iff` - days between dates are counted by the calendar
* `exists_isMoment_iff` - which seconds have a moment
* `Timestamp.exists_of_isMoment`, `Timestamp.isMoment_of_ofEpochSeconds?` - a count of seconds has a
  time exactly if it has a moment
* `Timestamp.isBefore_of_ofEpochSeconds?` - more seconds are a later time
-/

namespace NavGraph.Time

/-! ### Days between dates -/

/-- A date **lies so many days after** another, or before it if there are fewer days than none: the
calendar goes from the earlier to the later day by day. -/
def Date.LiesAfter (d e : Date) (days : Int) : Prop :=
  ∃ count : Nat, (days = count ∧ Date.next^[count] e = d) ∨
    (days = -count ∧ Date.next^[count] d = e)

/-- Going on day by day counts the days. -/
theorem Date.IsProper.iterate {d : Date} (h : d.IsProper) (count : Nat) :
    (Date.next^[count] d).IsProper ∧ daysOfDate (Date.next^[count] d) = daysOfDate d + count := by
  induction count with
  | zero => exact ⟨h, rfl⟩
  | succ count ih =>
    obtain ⟨hproper, hdays⟩ := ih
    rw [Function.iterate_succ_apply']
    exact ⟨hproper.next, by rw [daysOfDate_next hproper, hdays, Nat.add_assoc]⟩

/-- Proper dates are told apart by their counts of days. -/
theorem Date.IsProper.eq_of_daysOfDate {d e : Date} (hd : d.IsProper) (he : e.IsProper)
    (h : daysOfDate d = daysOfDate e) : d = e := by
  rw [← dateOfDays_daysOfDate hd, h, dateOfDays_daysOfDate he]

/-- **Days between dates are counted by the calendar.** -/
theorem Date.liesAfter_iff {d e : Date} (hd : d.IsProper) (he : e.IsProper) {days : Int} :
    d.LiesAfter e days ↔ (daysOfDate d : Int) = daysOfDate e + days := by
  constructor
  · rintro ⟨count, ⟨rfl, rfl⟩ | ⟨rfl, rfl⟩⟩
    · rw [(he.iterate count).2]
      omega
    · rw [(hd.iterate count).2]
      omega
  · intro h
    obtain hforwards | hbackwards := Int.le_total 0 days
    · refine ⟨days.toNat, .inl ⟨by omega, ?_⟩⟩
      obtain ⟨hproper, hcount⟩ := he.iterate days.toNat
      exact hproper.eq_of_daysOfDate hd (by omega)
    · refine ⟨(-days).toNat, .inr ⟨by omega, ?_⟩⟩
      obtain ⟨hproper, hcount⟩ := hd.iterate (-days).toNat
      exact hproper.eq_of_daysOfDate he (by omega)

/-! ### Moments -/

/-- The first of January 1970. -/
def epochDate : Date := ⟨1970, 1, 1⟩

theorem isProper_epochDate : epochDate.IsProper := by
  constructor <;> decide

theorem daysOfDate_epochDate : daysOfDate epochDate = 719162 := by decide

/-- The **moment** that comes so many seconds after the start of 1970: a date of the years 1 to
9999, and a second of that day. -/
structure IsMoment (n : Int) (d : Date) (second : Nat) : Prop where
  isProper : d.IsProper
  year_le : d.year ≤ 9999
  second_lt : second < 86400
  exists_days : ∃ days : Int, d.LiesAfter epochDate days ∧ n = days * 86400 + second

theorem isMoment_iff {n : Int} {d : Date} {second : Nat} : IsMoment n d second ↔
    d.IsProper ∧ daysOfDate d < calendarDays ∧ second < 86400 ∧
      n = ((daysOfDate d : Int) - 719162) * 86400 + second := by
  have hyear : d.IsProper → (d.year ≤ 9999 ↔ daysOfDate d < calendarDays) := by
    intro h
    rw [← year_dateOfDays_le_iff, dateOfDays_daysOfDate h]
  have hdays : d.IsProper → ∀ days : Int,
      d.LiesAfter epochDate days ↔ days = (daysOfDate d : Int) - 719162 := by
    intro h days
    rw [Date.liesAfter_iff h isProper_epochDate, daysOfDate_epochDate]
    omega
  constructor
  · rintro ⟨hproper, hle, hsecond, days, hafter, rfl⟩
    rw [hdays hproper] at hafter
    exact ⟨hproper, (hyear hproper).1 hle, hsecond, by rw [hafter]⟩
  · rintro ⟨hproper, hlt, hsecond, rfl⟩
    exact ⟨hproper, (hyear hproper).2 hlt, hsecond, _, (hdays hproper _).2 rfl, rfl⟩

/-- **Which seconds have a moment**: those from the start of year 1 to the end of year 9999. -/
theorem exists_isMoment_iff {n : Int} :
    (∃ d second, IsMoment n d second) ↔ -62135596800 ≤ n ∧ n < 253402300800 := by
  have hend : calendarDays = 3652059 := rfl
  constructor
  · rintro ⟨d, second, h⟩
    obtain ⟨-, hdays, hsecond, rfl⟩ := isMoment_iff.1 h
    omega
  · rintro ⟨hfirst, hlast⟩
    -- The day is the quotient, counted from the first day of the calendar.
    let days := (n / 86400 + 719162).toNat
    have hdays : daysOfDate (dateOfDays days) = days := daysOfDate_dateOfDays days
    refine ⟨dateOfDays days, (n % 86400).toNat, isMoment_iff.2 ⟨isProper_dateOfDays _, ?_⟩⟩
    rw [hdays]
    omega

namespace Timestamp

variable {n m : Int} {t u : Timestamp} {d : Date} {second : Nat}

/-- Times in order: by the date, then by the clock. -/
def IsBefore (t u : Timestamp) : Prop :=
  t.date.IsBefore u.date ∨ t.date = u.date ∧ t.microsOfDay < u.microsOfDay

theorem isBefore_of_micros_lt (h : t.micros < u.micros) : t.IsBefore u := by
  obtain hday | hday := (Nat.div_le_div_right (c := dayMicros) h.le).lt_or_eq
  · exact .inl (isBefore_dateOfDays hday)
  · refine .inr ⟨congrArg dateOfDays hday, ?_⟩
    have ht := Nat.div_add_mod t.micros dayMicros
    have hu := Nat.div_add_mod u.micros dayMicros
    rw [hday] at ht
    unfold microsOfDay
    omega

theorem ofEpochSeconds?_eq_some_iff : ofEpochSeconds? n = some t ↔
    t.offset = some 0 ∧ (t.micros : Int) = epochMicros + n * 1000000 := by
  unfold ofEpochSeconds? ofEpochMicros? ofMicros?
  constructor
  · intro h
    split at h
    · rename_i hbounds
      cases h
      exact ⟨rfl, Int.toNat_of_nonneg hbounds.1⟩
    · cases h
  · rintro ⟨hoffset, hmicros⟩
    rw [← hmicros, ← hoffset]
    exact ofMicros?_micros t

/-- The seconds come back from a time in UTC. -/
theorem toEpochMicros_of_ofEpochSeconds? (h : ofEpochSeconds? n = some t) :
    t.toEpochMicros = n * 1000000 := by
  obtain ⟨hoffset, hmicros⟩ := ofEpochSeconds?_eq_some_iff.1 h
  rw [toEpochMicros, hoffset, Int.ofNat_eq_natCast, hmicros, Option.getD_some]
  omega

/-- **More seconds are a later time.** -/
theorem isBefore_of_ofEpochSeconds? (ht : ofEpochSeconds? n = some t)
    (hu : ofEpochSeconds? m = some u) (h : n < m) : t.IsBefore u := by
  have hn := (ofEpochSeconds?_eq_some_iff.1 ht).2
  have hm := (ofEpochSeconds?_eq_some_iff.1 hu).2
  exact isBefore_of_micros_lt (by omega)

/-- **A moment has a time in UTC.** -/
theorem exists_of_isMoment (h : IsMoment n d second) : ∃ t, ofEpochSeconds? n = some t ∧
    t.offset = some 0 ∧ t.date = d ∧ t.microsOfDay = second * 1000000 := by
  obtain ⟨hproper, hdays, hsecond, rfl⟩ := isMoment_iff.1 h
  have hday : dayMicros = 86400000000 := rfl
  have hlt : daysOfDate d * dayMicros + second * 1000000 < calendarDays * dayMicros := by
    rw [hday]
    omega
  have hmicros : second * 1000000 < dayMicros := by omega
  refine ⟨⟨_, some 0, hlt, by rintro minutes ⟨⟩; decide⟩, ?_, rfl, ?_, ?_⟩
  · refine ofEpochSeconds?_eq_some_iff.2 ⟨rfl, ?_⟩
    dsimp only
    rw [epochMicros, hday]
    omega
  · dsimp only [date]
    rw [Nat.mul_comm, Nat.mul_add_div (by decide), Nat.div_eq_of_lt hmicros, Nat.add_zero,
      dateOfDays_daysOfDate hproper]
  · dsimp only [microsOfDay]
    rw [Nat.mul_comm, Nat.mul_add_mod, Nat.mod_eq_of_lt hmicros]

/-- **A time in UTC of whole seconds is a moment.** -/
theorem isMoment_of_ofEpochSeconds? (h : ofEpochSeconds? n = some t) :
    IsMoment n t.date (t.microsOfDay / 1000000) := by
  obtain ⟨-, hmicros⟩ := ofEpochSeconds?_eq_some_iff.1 h
  have hbound := t.micros_lt
  have hsplit := Nat.div_add_mod t.micros dayMicros
  have hclock := t.microsOfDay_lt
  have hday : dayMicros = 86400000000 := rfl
  unfold microsOfDay at hclock ⊢
  rw [hday] at hsplit hclock
  refine isMoment_iff.2 ⟨isProper_dateOfDays _, ?_, ?_, ?_⟩
  · rw [date, daysOfDate_dateOfDays]
    exact Nat.div_lt_of_lt_mul (by rwa [Nat.mul_comm])
  · rw [hday]
    omega
  · rw [date, daysOfDate_dateOfDays, hday]
    rw [epochMicros] at hmicros
    omega

end Timestamp

end NavGraph.Time

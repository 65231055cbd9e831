import Mathlib.Logic.Function.Iterate
import Mathlib.Order.Monotone.Basic
import Mathlib.Tactic.IntervalCases
import Mathlib.Tactic.SplitIfs
import NavGraph.Time.Calendar

/-!
# The calendar, day by day

The calendar is told by two rules: how long a month is, and which date follows a date.  Counting
days from the first of January of year 1 by these rules leads to the dates that are computed from
counts of days at once, and leads to each of them once.

## Main definitions

* `Date.IsProper` - a date that the calendar has
* `Date.next` - the date after a date
* `firstDate` - the first of January of year 1
* `Date.IsBefore` - dates in order

## Main statements

* `yearOfDays_eq_iff` - the year of a day is the one year that it is a day of
* `daysOfDate_dateOfDays`, `dateOfDays_daysOfDate` - counts of days and dates are each other's
* `dateOfDays_eq_iterate` - the date after a count of days is reached by so many steps
* `isBefore_dateOfDays` - later days have later dates
-/

namespace NavGraph.Time

/-! ### Years -/

theorem isLeapYear_iff {year : Nat} :
    isLeapYear year = true ↔ 4 ∣ year ∧ (¬ 100 ∣ year ∨ 400 ∣ year) := by
  simp [isLeapYear, Nat.dvd_iff_mod_eq_zero]

/-- Days of a year. -/
def daysInYear (year : Nat) : Nat := (monthLengths (isLeapYear year)).sum

theorem daysInYear_eq (year : Nat) :
    daysInYear year = if 4 ∣ year ∧ (¬ 100 ∣ year ∨ 400 ∣ year) then 366 else 365 := by
  simp only [← isLeapYear_iff]
  unfold daysInYear
  cases isLeapYear year <;> rfl

/-- A year passes a fourth, a hundredth and a four-hundredth year if it is one. -/
theorem daysBeforeYear_succ {year : Nat} (h : 1 ≤ year) :
    daysBeforeYear (year + 1) = daysBeforeYear year + daysInYear year := by
  obtain ⟨past, rfl⟩ : ∃ past, year = past + 1 := ⟨year - 1, by omega⟩
  simp only [daysInYear_eq, daysBeforeYear, Nat.add_sub_cancel, Nat.succ_div]
  split_ifs <;> omega

theorem monotone_daysBeforeYear : Monotone daysBeforeYear := by
  refine monotone_nat_of_le_succ fun year => ?_
  cases year with
  | zero => exact Nat.le_refl _
  | succ past =>
    rw [daysBeforeYear_succ (Nat.succ_pos past)]
    exact Nat.le_add_right _ _

/-- The mean year is long enough that the estimate is off by at most one. -/
theorem yearOfDays_spec (days : Nat) : 1 ≤ yearOfDays days ∧
    daysBeforeYear (yearOfDays days) ≤ days ∧ days < daysBeforeYear (yearOfDays days + 1) := by
  unfold yearOfDays daysBeforeYear
  dsimp only
  split
  · omega
  · split <;> omega

/-- **The year of a day is the one year that it is a day of.** -/
theorem yearOfDays_eq_iff {year days : Nat} (h : 1 ≤ year) : yearOfDays days = year ↔
    daysBeforeYear year ≤ days ∧ days < daysBeforeYear (year + 1) := by
  obtain ⟨hpos, hle, hlt⟩ := yearOfDays_spec days
  constructor
  · rintro rfl
    exact ⟨hle, hlt⟩
  · rintro ⟨hle', hlt'⟩
    obtain hless | heq | hmore := Nat.lt_trichotomy (yearOfDays days) year
    · have hmono : _ ≤ daysBeforeYear year := monotone_daysBeforeYear (Nat.succ_le_of_lt hless)
      exact absurd (hlt.trans_le hmono) (Nat.not_lt.2 hle')
    · exact heq
    · have hmono : _ ≤ daysBeforeYear (yearOfDays days) :=
        monotone_daysBeforeYear (Nat.succ_le_of_lt hmore)
      exact absurd (hlt'.trans_le hmono) (Nat.not_lt.2 hle)

/-! ### Months -/

/-- The month of a day of a year is the one at the place where the day falls among the lengths. -/
theorem monthAndDay_take {lengths : List Nat} {i day : Nat} (hi : i < lengths.length)
    (hday : day < lengths[i]) (month : Nat) :
    monthAndDay month ((lengths.take i).sum + day) lengths = (month + i, day + 1) := by
  induction lengths generalizing month i with
  | nil => cases hi
  | cons length lengths ih =>
    cases i with
    | zero => simp_all [monthAndDay]
    | succ i =>
      have hlong : ¬ ((length :: lengths).take (i + 1)).sum + day < length := by
        rw [List.take_succ_cons, List.sum_cons]
        omega
      rw [monthAndDay, if_neg hlong, List.take_succ_cons, List.sum_cons, Nat.add_assoc,
        Nat.add_sub_cancel_left, ih (Nat.lt_of_succ_lt_succ hi) hday, Nat.add_right_comm]
      rfl

/-- Each day of a year falls into a month. -/
theorem exists_month {lengths : List Nat} {days : Nat} (h : days < lengths.sum) :
    ∃ (i day : Nat) (hi : i < lengths.length), day < lengths[i] ∧
      days = (lengths.take i).sum + day := by
  induction lengths generalizing days with
  | nil => cases h
  | cons length lengths ih =>
    by_cases hfirst : days < length
    · exact ⟨0, days, Nat.succ_pos _, hfirst, by simp⟩
    · rw [List.sum_cons] at h
      obtain ⟨i, day, hi, hday, heq⟩ := ih (show days - length < lengths.sum by omega)
      refine ⟨i + 1, day, Nat.succ_lt_succ hi, hday, ?_⟩
      rw [List.take_succ_cons, List.sum_cons]
      omega

/-! ### Dates -/

/-- A date is **proper** if the calendar has it. -/
structure Date.IsProper (d : Date) : Prop where
  year_pos : 1 ≤ d.year
  month_pos : 1 ≤ d.month
  month_le : d.month ≤ 12
  day_pos : 1 ≤ d.day
  day_le : d.day ≤ daysInMonth d.year d.month

theorem Date.isValid_iff {d : Date} : d.isValid = true ↔ d.IsProper ∧ d.year ≤ 9999 := by
  simp only [isValid, Bool.and_eq_true, decide_eq_true_eq]
  constructor
  · rintro ⟨⟨⟨⟨⟨hyear, hlast⟩, hmonth⟩, hmonths⟩, hday⟩, hdays⟩
    exact ⟨⟨hyear, hmonth, hmonths, hday, hdays⟩, hlast⟩
  · rintro ⟨⟨hyear, hmonth, hmonths, hday, hdays⟩, hlast⟩
    exact ⟨⟨⟨⟨⟨hyear, hlast⟩, hmonth⟩, hmonths⟩, hday⟩, hdays⟩

theorem length_monthLengths (leap : Bool) : (monthLengths leap).length = 12 := by
  cases leap <;> rfl

section

variable {year i day : Nat} (hi : i < (monthLengths (isLeapYear year)).length)
  (hday : day < (monthLengths (isLeapYear year))[i])

theorem daysOfDate_mk : daysOfDate ⟨year, i + 1, day + 1⟩ =
    daysBeforeYear year + (((monthLengths (isLeapYear year)).take i).sum + day) := by
  rw [daysOfDate, daysBeforeMonth, Nat.add_sub_cancel, Nat.add_sub_cancel, Nat.add_assoc]
  rfl

include hday

theorem isProper_mk (hyear : 1 ≤ year) : Date.IsProper ⟨year, i + 1, day + 1⟩ where
  year_pos := hyear
  month_pos := Nat.succ_pos i
  month_le := length_monthLengths _ ▸ hi
  day_pos := Nat.succ_pos day
  day_le := by
    rw [daysInMonth, Nat.add_sub_cancel, List.getD_eq_getElem?_getD, List.getElem?_eq_getElem hi]
    exact hday

theorem sum_take_add_lt :
    ((monthLengths (isLeapYear year)).take i).sum + day < daysInYear year := by
  have hsum := congrArg List.sum (List.take_append_drop i (monthLengths (isLeapYear year)))
  rw [List.sum_append, List.drop_eq_getElem_cons hi, List.sum_cons] at hsum
  unfold daysInYear
  omega

/-- The date of a day is found by its year, its month and its day. -/
theorem dateOfDays_mk (hyear : 1 ≤ year) :
    dateOfDays (daysOfDate ⟨year, i + 1, day + 1⟩) = ⟨year, i + 1, day + 1⟩ := by
  have hlt := sum_take_add_lt hi hday
  have hfound : yearOfDays (daysOfDate ⟨year, i + 1, day + 1⟩) = year := by
    rw [yearOfDays_eq_iff hyear, daysBeforeYear_succ hyear, daysOfDate_mk]
    exact ⟨Nat.le_add_right _ _, Nat.add_lt_add_left hlt _⟩
  unfold dateOfDays
  dsimp only
  rw [hfound, daysOfDate_mk, Nat.add_sub_cancel_left, monthAndDay_take hi hday, Nat.add_comm 1 i]

end

/-- A proper date stands for a day of a month. -/
theorem Date.IsProper.exists_eq {d : Date} (h : d.IsProper) :
    ∃ (i day : Nat) (hi : i < (monthLengths (isLeapYear d.year)).length),
      day < (monthLengths (isLeapYear d.year))[i] ∧ d = ⟨d.year, i + 1, day + 1⟩ := by
  have hmonth := Nat.sub_add_cancel h.month_pos
  have hday := Nat.sub_add_cancel h.day_pos
  have hi : d.month - 1 < (monthLengths (isLeapYear d.year)).length := by
    rw [length_monthLengths]
    exact Nat.lt_of_succ_le (hmonth.symm ▸ h.month_le)
  refine ⟨d.month - 1, d.day - 1, hi, ?_, ?_⟩
  · have hle := h.day_le
    rw [daysInMonth, List.getD_eq_getElem?_getD, List.getElem?_eq_getElem hi] at hle
    exact Nat.lt_of_succ_le (hday.symm ▸ hle)
  · rw [hmonth, hday]

/-- **A date comes back from its count of days.** -/
theorem dateOfDays_daysOfDate {d : Date} (h : d.IsProper) : dateOfDays (daysOfDate d) = d := by
  obtain ⟨i, day, hi, hday, hd⟩ := h.exists_eq
  rw [hd]
  exact dateOfDays_mk hi hday h.year_pos

/-- Each count of days leads to a proper date that has this count. -/
theorem dateOfDays_spec (days : Nat) :
    (dateOfDays days).IsProper ∧ daysOfDate (dateOfDays days) = days := by
  obtain ⟨hyear, hle, hlt⟩ := yearOfDays_spec days
  rw [daysBeforeYear_succ hyear] at hlt
  obtain ⟨i, day, hi, hday, hdays⟩ :=
    exists_month (Nat.sub_lt_left_of_lt_add hle hlt)
  have hcount : daysOfDate ⟨yearOfDays days, i + 1, day + 1⟩ = days := by
    rw [daysOfDate_mk, ← hdays, Nat.add_sub_cancel' hle]
  have hdate := dateOfDays_mk hi hday hyear
  rw [hcount] at hdate
  rw [hdate]
  exact ⟨isProper_mk hi hday hyear, hcount⟩

theorem isProper_dateOfDays (days : Nat) : (dateOfDays days).IsProper := (dateOfDays_spec days).1

/-- **A count of days comes back from its date.** -/
theorem daysOfDate_dateOfDays (days : Nat) : daysOfDate (dateOfDays days) = days :=
  (dateOfDays_spec days).2

/-! ### Day by day -/

/-- The first of January of year 1. -/
def firstDate : Date := ⟨1, 1, 1⟩

/-- The date after a date: the next day of the month, or else the first of the next month, or of
the next year. -/
def Date.next (d : Date) : Date :=
  if d.day < daysInMonth d.year d.month then ⟨d.year, d.month, d.day + 1⟩
  else if d.month < 12 then ⟨d.year, d.month + 1, 1⟩
  else ⟨d.year + 1, 1, 1⟩

theorem one_le_daysInMonth {year month : Nat} (hpos : 1 ≤ month) (hle : month ≤ 12) :
    1 ≤ daysInMonth year month := by
  unfold daysInMonth
  cases isLeapYear year <;> interval_cases month <;> decide

theorem daysBeforeMonth_succ {year month : Nat} (hpos : 1 ≤ month) :
    daysBeforeMonth year (month + 1) = daysBeforeMonth year month + daysInMonth year month := by
  obtain ⟨i, rfl⟩ : ∃ i, month = i + 1 := ⟨month - 1, by omega⟩
  have hsum : ∀ lengths : List Nat, (lengths.take (i + 1)).sum =
      (lengths.take i).sum + lengths.getD i 0 := by
    intro lengths
    rw [List.take_add_one, List.sum_append, List.getD_eq_getElem?_getD]
    cases lengths[i]? <;> simp
  exact hsum _

theorem Date.IsProper.next {d : Date} (h : d.IsProper) : d.next.IsProper := by
  unfold Date.next
  split
  · rename_i hday
    exact ⟨h.year_pos, h.month_pos, h.month_le, Nat.succ_pos _, hday⟩
  · split
    · rename_i hmonth
      exact ⟨h.year_pos, Nat.succ_pos _, hmonth, Nat.le_refl _,
        one_le_daysInMonth (Nat.succ_pos _) hmonth⟩
    · have hmonth : 1 ≤ 12 := by decide
      exact ⟨Nat.succ_pos _, Nat.le_refl _, hmonth, Nat.le_refl _,
        one_le_daysInMonth (Nat.le_refl _) hmonth⟩

theorem daysBeforeMonth_add_daysInMonth (year : Nat) :
    daysBeforeMonth year 12 + daysInMonth year 12 = daysInYear year := by
  rw [← daysBeforeMonth_succ (by decide), daysBeforeMonth, daysInYear,
    List.take_of_length_le (length_monthLengths _).le]
  rfl

/-- The next date is one day later. -/
theorem daysOfDate_next {d : Date} (h : d.IsProper) : daysOfDate d.next = daysOfDate d + 1 := by
  obtain ⟨year, month, day⟩ := d
  obtain ⟨hyear, hmonth, hmonths, hday, hdays⟩ := h
  dsimp only at hyear hmonth hmonths hday hdays
  unfold Date.next daysOfDate
  dsimp only
  split
  · dsimp only
    omega
  · split
    · dsimp only
      rw [daysBeforeMonth_succ hmonth]
      omega
    · obtain rfl : month = 12 := by omega
      have hwhole := daysBeforeMonth_add_daysInMonth year
      have hfirst : daysBeforeMonth (year + 1) 1 = 0 := rfl
      dsimp only
      rw [daysBeforeYear_succ hyear]
      omega

/-- **The date after a count of days is reached day by day.** -/
theorem dateOfDays_eq_iterate (days : Nat) : dateOfDays days = Date.next^[days] firstDate := by
  induction days with
  | zero => decide
  | succ days ih =>
    have hproper := isProper_dateOfDays days
    rw [Function.iterate_succ_apply', ← ih, ← dateOfDays_daysOfDate hproper.next,
      daysOfDate_next hproper, daysOfDate_dateOfDays]

/-! ### Order -/

/-- Dates in order: by the year, then by the month, then by the day. -/
def Date.IsBefore (d e : Date) : Prop :=
  d.year < e.year ∨ d.year = e.year ∧ (d.month < e.month ∨ d.month = e.month ∧ d.day < e.day)

theorem Date.isBefore_next (d : Date) : d.IsBefore d.next := by
  unfold IsBefore next
  split
  · exact .inr ⟨rfl, .inr ⟨rfl, Nat.lt_succ_self _⟩⟩
  · split
    · exact .inr ⟨rfl, .inl (Nat.lt_succ_self _)⟩
    · exact .inl (Nat.lt_succ_self _)

theorem Date.IsBefore.trans {d e f : Date} (h : d.IsBefore e) (h' : e.IsBefore f) :
    d.IsBefore f := by
  unfold IsBefore at *
  omega

/-- **Later days have later dates.** -/
theorem isBefore_dateOfDays {days later : Nat} (h : days < later) :
    (dateOfDays days).IsBefore (dateOfDays later) := by
  have hnext : ∀ days, (dateOfDays days).IsBefore (dateOfDays (days + 1)) := by
    intro days
    rw [dateOfDays_eq_iterate (days + 1), Function.iterate_succ_apply', ← dateOfDays_eq_iterate]
    exact Date.isBefore_next _
  induction h with
  | refl => exact hnext days
  | step _ ih => exact ih.trans (hnext _)

end NavGraph.Time

import NavGraph.Proofs.Text.Digit
import NavGraph.Proofs.Text.Trim
import NavGraph.Proofs.Time.Calendar
import NavGraph.Time.Timestamp

/-!
# Written times

A written time reads back as itself: the fields of its date and of its clock have fixed widths, a
fraction of a second is told from what follows it by its digits, and an offset takes the rest.

## Main statements

* `year_dateOfDays_le_iff` - the dates of times are those of the years 1 to 9999
* `readDate?_append`, `readClock?_append`, `readOffset?_offsetText` - the parts of a time
* `ofText?_localText_append` - a time with an offset in any written form of it
* `ofText?_isoText`, `ofText?_fieldText` - a time in its two written forms
-/

namespace NavGraph.Time

open Text

/-- The days of a calendar of four digits are those of the years up to 9999. -/
theorem year_dateOfDays_le_iff {days : Nat} :
    (dateOfDays days).year ≤ 9999 ↔ days < calendarDays := by
  obtain ⟨-, hle, hlt⟩ := yearOfDays_spec days
  have hend : daysBeforeYear 10000 = calendarDays := by decide
  have hyear : (dateOfDays days).year = yearOfDays days := rfl
  rw [hyear]
  constructor
  · intro h
    exact hlt.trans_le (hend ▸ monotone_daysBeforeYear (Nat.succ_le_succ h))
  · intro h
    refine Nat.le_of_not_lt fun hmore => ?_
    exact absurd (h.trans_le (hend ▸ monotone_daysBeforeYear hmore)) (Nat.not_lt.2 hle)

namespace Timestamp

/-! ### Fields -/

section

variable {width n : Nat} {rest : List Char}

theorem number?_paddedDigits (width n : Nat) : number? (paddedDigits width n) = some n := by
  have hdigits : ∀ c ∈ paddedDigits width n, c.isDigit = true :=
    fun _ hc => isDigit_of_mem_paddedDigits hc
  rw [number?, mapM_asciiDigit? hdigits, Option.map_some, natOfDigits_paddedDigits]

theorem exists_twoDigits (h : n < 100) :
    ∃ a b, paddedDigits 2 n = [a, b] ∧ number? [a, b] = some n := by
  have hlength : (paddedDigits 2 n).length = 2 := length_paddedDigits (by decide) h
  match hdigits : paddedDigits 2 n, hlength with
  | [a, b], _ => exact ⟨a, b, rfl, hdigits ▸ number?_paddedDigits 2 n⟩

theorem exists_fourDigits (h : n < 10000) :
    ∃ a b c d, paddedDigits 4 n = [a, b, c, d] ∧ number? [a, b, c, d] = some n := by
  have hlength : (paddedDigits 4 n).length = 4 := length_paddedDigits (by decide) h
  match hdigits : paddedDigits 4 n, hlength with
  | [a, b, c, d], _ => exact ⟨a, b, c, d, rfl, hdigits ▸ number?_paddedDigits 4 n⟩

theorem twoDigits?_append (h : n < 100) (rest : List Char) :
    twoDigits? (paddedDigits 2 n ++ rest) = some (n, rest) := by
  obtain ⟨a, b, hab, hnumber⟩ := exists_twoDigits h
  rw [hab, List.cons_append, List.cons_append, List.nil_append, twoDigits?, hnumber]
  rfl

end

/-! ### Date and clock -/

/-- A date as a text. -/
def dateText (d : Date) : List Char :=
  paddedDigits 4 d.year ++ '-' :: paddedDigits 2 d.month ++ '-' :: paddedDigits 2 d.day

/-- A fraction of a second as a text, if there is one. -/
def fractionText (micros : Nat) : List Char :=
  if micros = 0 then [] else '.' :: paddedDigits 6 micros

theorem daysInMonth_le (year month : Nat) : daysInMonth year month ≤ 31 := by
  have hall : ∀ leap, ∀ length ∈ monthLengths leap, length ≤ 31 := by decide
  rw [daysInMonth, List.getD_eq_getElem?_getD]
  cases hlength : (monthLengths (isLeapYear year))[month - 1]? with
  | none => decide
  | some length => exact hall _ length (List.mem_of_getElem? hlength)

theorem readDate?_append {d : Date} (h : d.isValid = true) (rest : List Char) :
    readDate? (dateText d ++ rest) = some (d, rest) := by
  obtain ⟨hproper, hyear⟩ := Date.isValid_iff.1 h
  obtain ⟨a, b, c, e, hyears, hy⟩ := exists_fourDigits (Nat.lt_succ_of_le hyear)
  obtain ⟨f, g, hmonths, hm⟩ := exists_twoDigits (n := d.month) (by have := hproper.month_le; omega)
  obtain ⟨i, j, hdays, hd⟩ := exists_twoDigits (n := d.day)
    (by have := hproper.day_le.trans (daysInMonth_le d.year d.month); omega)
  rw [dateText, hyears, hmonths, hdays]
  simp [readDate?, hy, hm, hd, h]

/-- What may stand behind a clock time: nothing that could be more of it. -/
def EndsClock (rest : List Char) : Prop :=
  ∀ c ∈ rest.head?, c.isDigit = false ∧ c ≠ '.' ∧ c ≠ ','

/-- Six digits behind a point count microseconds. -/
theorem fractionMicros_of_length {digits : List Nat} (h : digits.length = 6) :
    fractionMicros digits = natOfDigits 0 digits := by
  rw [fractionMicros, List.take_of_length_le h.le, h, Nat.sub_self, List.replicate_zero,
    List.append_nil]

/-- The digits behind a point are read up to what ends the clock time. -/
theorem readFraction?_digits {text rest : List Char} (hdigits : ∀ c ∈ text, c.isDigit = true)
    (hne : text ≠ []) (hrest : EndsClock rest) : readFraction? ('.' :: text ++ rest) =
      some (fractionMicros (text.map (·.toNat - 48)), rest) := by
  have hends : ∀ c ∈ rest.head?, c.isDigit = false := fun c hc => (hrest c hc).1
  rw [List.cons_append, readFraction?, if_pos (by decide), takeWhile_append hdigits hends,
    dropWhile_append hdigits hends, mapM_asciiDigit? hdigits]
  obtain ⟨c, text, rfl⟩ := List.exists_cons_of_ne_nil hne
  rfl

/-- Nothing is read of a fraction that is not there. -/
theorem readFraction?_of_endsClock {rest : List Char} (hrest : EndsClock rest) :
    readFraction? rest = some (0, rest) := by
  cases rest with
  | nil => rfl
  | cons c rest =>
    obtain ⟨-, hpoint, hcomma⟩ := hrest c rfl
    rw [readFraction?, if_neg (by simp [hpoint, hcomma])]

theorem readFraction?_append {micros : Nat} (h : micros < 1000000) {rest : List Char}
    (hrest : EndsClock rest) :
    readFraction? (fractionText micros ++ rest) = some (micros, rest) := by
  unfold fractionText
  split
  · rename_i hwhole
    rw [List.nil_append, hwhole]
    exact readFraction?_of_endsClock hrest
  · have hlength : (paddedDigits 6 micros).length = 6 := length_paddedDigits (by decide) h
    have hne : paddedDigits 6 micros ≠ [] := List.ne_nil_of_length_eq_add_one hlength
    have hdigits : ∀ c ∈ paddedDigits 6 micros, c.isDigit = true :=
      fun _ hc => isDigit_of_mem_paddedDigits hc
    have hvalues : ((paddedDigits 6 micros).map (·.toNat - 48)).length = 6 := by
      rw [List.length_map, hlength]
    rw [readFraction?_digits hdigits hne hrest, fractionMicros_of_length hvalues,
      natOfDigits_paddedDigits]

theorem readSeconds?_append {seconds micros : Nat} (hseconds : seconds < 60)
    (hmicros : micros < 1000000) {rest : List Char} (hrest : EndsClock rest) :
    readSeconds? (':' :: paddedDigits 2 seconds ++ (fractionText micros ++ rest)) =
      some (seconds * 1000000 + micros, rest) := by
  rw [List.cons_append, readSeconds?, twoDigits?_append (by omega)]
  simp [readFraction?_append hmicros hrest, hseconds]

theorem readClock?_append {hours minutes seconds micros : Nat} (hhours : hours < 24)
    (hminutes : minutes < 60) (hseconds : seconds < 60) (hmicros : micros < 1000000)
    {rest : List Char} (hrest : EndsClock rest) :
    readClock? (paddedDigits 2 hours ++ ':' :: paddedDigits 2 minutes ++
        ':' :: paddedDigits 2 seconds ++ fractionText micros ++ rest) =
      some ((hours * 60 + minutes) * 60000000 + (seconds * 1000000 + micros), rest) := by
  simp only [List.append_assoc, List.cons_append]
  rw [readClock?, twoDigits?_append (by omega)]
  have hsecond := readSeconds?_append hseconds hmicros hrest
  simp only [List.cons_append] at hsecond
  simp [twoDigits?_append (show minutes < 100 by omega), hsecond, hhours, hminutes]

/-! ### Offsets -/

theorem readOffsetMinutes?_append {hours minutes : Nat} (hhours : hours < 24)
    (hminutes : minutes < 60) :
    readOffsetMinutes? (paddedDigits 2 hours ++ ':' :: paddedDigits 2 minutes) =
      some (hours * 60 + minutes) := by
  have hsecond := twoDigits?_append (show minutes < 100 by omega) []
  rw [List.append_nil] at hsecond
  rw [readOffsetMinutes?, twoDigits?_append (by omega)]
  simp [hsecond, hhours, hminutes]

theorem readOffset?_offsetText {minutes : Int} (h : minutes.natAbs < 1440) :
    readOffset? (offsetText minutes) = some (some minutes) := by
  have hhours : minutes.natAbs / 60 < 24 := by omega
  have hread := readOffsetMinutes?_append hhours (Nat.mod_lt minutes.natAbs (by decide : 60 > 0))
  rw [Nat.div_add_mod'] at hread
  unfold offsetText
  split
  · have hsign : -Int.ofNat minutes.natAbs = minutes := by
      rw [Int.ofNat_eq_natCast]
      omega
    rw [List.cons_append, readOffset?, if_neg (by decide), if_neg (by decide), if_pos (by decide),
      hread, Option.map_some, hsign]
  · have hsign : Int.ofNat minutes.natAbs = minutes := by
      rw [Int.ofNat_eq_natCast]
      omega
    rw [List.cons_append, readOffset?, if_neg (by decide), if_pos (by decide), hread,
      Option.map_some, hsign]

/-! ### Times -/

/-- The time of whole microseconds within the calendar. -/
theorem ofMicros?_micros (t : Timestamp) : ofMicros? (Int.ofNat t.micros) t.offset = some t := by
  unfold ofMicros?
  rw [dif_pos ⟨Int.natCast_nonneg _, t.micros_lt, t.offset_lt⟩]
  rfl

theorem isValid_date (t : Timestamp) : t.date.isValid = true := by
  refine Date.isValid_iff.2 ⟨isProper_dateOfDays _, year_dateOfDays_le_iff.2 ?_⟩
  exact Nat.div_lt_of_lt_mul (by have := t.micros_lt; rwa [Nat.mul_comm])

theorem localText_eq (t : Timestamp) : t.localText = dateText t.date ++ 'T' ::
    (t.clockText ++ fractionText (t.microsOfDay % 1000000)) := by
  simp [localText, dateText, fractionText]

theorem microsOfDay_lt (t : Timestamp) : t.microsOfDay < dayMicros := Nat.mod_lt _ (by decide)

theorem readClock?_clockText (t : Timestamp) {rest : List Char} (hrest : EndsClock rest) :
    readClock? (t.clockText ++ fractionText (t.microsOfDay % 1000000) ++ rest) =
      some (t.microsOfDay, rest) := by
  have hlt : t.microsOfDay < 86400000000 := t.microsOfDay_lt
  have hparts : (t.microsOfDay / 1000000 / 3600 * 60 + t.microsOfDay / 1000000 / 60 % 60) *
      60000000 + (t.microsOfDay / 1000000 % 60 * 1000000 + t.microsOfDay % 1000000) =
        t.microsOfDay := by
    omega
  rw [clockText, readClock?_append (by omega) (by omega) (by omega) (by omega) hrest, hparts]

/-- **A time reads back** with its offset in any written form of it. -/
theorem ofText?_localText_append (t : Timestamp) {zone : List Char}
    (hzone : readOffset? zone = some t.offset) (hends : EndsClock zone) :
    ofText? (String.ofList (t.localText ++ zone)) = some t := by
  have hmicros : Int.ofNat (daysOfDate t.date * dayMicros) + Int.ofNat t.microsOfDay =
      Int.ofNat t.micros := by
    rw [date, daysOfDate_dateOfDays, microsOfDay]
    exact congrArg Int.ofNat (Nat.div_add_mod' t.micros dayMicros)
  have hdate : readDate? (t.localText ++ zone) = some (t.date, 'T' ::
      (t.clockText ++ fractionText (t.microsOfDay % 1000000) ++ zone)) := by
    rw [localText_eq, List.append_assoc, readDate?_append t.isValid_date, List.cons_append]
  rw [ofText?, String.toList_ofList, hdate]
  simp only [Option.bind_eq_bind, Option.bind_some, readClock?_clockText t hends, hzone, hmicros,
    ofMicros?_micros]
  rfl

theorem endsClock_offsetText (minutes : Int) : EndsClock (offsetText minutes) := by
  unfold offsetText
  split <;> rintro _ ⟨⟩ <;> decide

/-- **A time in its long form reads back.** -/
theorem ofText?_isoText (t : Timestamp) : ofText? t.isoText = some t := by
  refine t.ofText?_localText_append ?_ ?_
  · cases hoffset : t.offset with
    | none => rfl
    | some minutes => exact readOffset?_offsetText (t.offset_lt minutes hoffset)
  · cases t.offset with
    | none => nofun
    | some minutes => exact endsClock_offsetText minutes

/-- **A time as a field reads back.** -/
theorem ofText?_fieldText (t : Timestamp) : ofText? t.fieldText = some t := by
  refine t.ofText?_localText_append ?_ ?_
  · split
    · rename_i hoffset
      rw [hoffset]
      rfl
    · rename_i hoffset
      rw [hoffset]
      rfl
    · rename_i minutes _ hoffset
      rw [hoffset]
      exact readOffset?_offsetText (t.offset_lt minutes hoffset)
  · split
    · nofun
    · rintro _ ⟨⟩
      decide
    · exact endsClock_offsetText _

end Timestamp

end NavGraph.Time

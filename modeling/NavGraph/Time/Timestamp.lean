import NavGraph.Time.Calendar
import NavGraph.Text.Digit

/-!
# Timestamps

Wall-clock times of the years 1 to 9999 to the microsecond, with or without an offset from UTC.

## Main definitions

* `Timestamp` - a wall-clock time and perhaps its offset from UTC
* `Timestamp.ofEpochMicros?`, `Timestamp.ofEpochSeconds?` - the time in UTC so long after 1970
* `Timestamp.isoText`, `Timestamp.fieldText` - the two written forms
* `Timestamp.ofText?` - reads both of them, and shorter ones

## Design notes

Both bounds are part of the type: the year has four digits and the offset is shorter than a day,
so every timestamp has a written form of fixed shape.
-/

namespace NavGraph.Time

/-- Microseconds of a day. -/
def dayMicros : Nat := 86400 * 1000000

/-- Days of the years 1 to 9999. -/
def calendarDays : Nat := 3652059

/-- A wall-clock time: microseconds since the start of year 1, and the minutes that it is ahead of
UTC if that is known. -/
structure Timestamp where
  micros : Nat
  offset : Option Int
  micros_lt : micros < calendarDays * dayMicros
  offset_lt : ∀ minutes ∈ offset, minutes.natAbs < 1440
  deriving DecidableEq

namespace Timestamp

/-- A time with its bounds checked. -/
def ofMicros? (micros : Int) (offset : Option Int) : Option Timestamp :=
  if h : 0 ≤ micros ∧ micros.toNat < calendarDays * dayMicros ∧
      ∀ minutes ∈ offset, minutes.natAbs < 1440 then
    some ⟨micros.toNat, offset, h.2.1, h.2.2⟩
  else none

/-- Microseconds from the start of year 1 to the start of 1970. -/
def epochMicros : Int := 719162 * 86400 * 1000000

/-- The start of 1970 in UTC. -/
def epoch : Timestamp where
  micros := 719162 * 86400 * 1000000
  offset := some 0
  micros_lt := by decide
  offset_lt := by intro minutes h; cases h; decide

/-- The time in UTC that many microseconds after the start of 1970. -/
def ofEpochMicros? (n : Int) : Option Timestamp := ofMicros? (epochMicros + n) (some 0)

/-- The time in UTC that many seconds after the start of 1970. -/
def ofEpochSeconds? (n : Int) : Option Timestamp := ofEpochMicros? (n * 1000000)

/-- Microseconds from the start of 1970 in UTC to a time; without an offset it counts as UTC. -/
def toEpochMicros (t : Timestamp) : Int :=
  Int.ofNat t.micros - epochMicros - t.offset.getD 0 * 60 * 1000000

/-- The date. -/
def date (t : Timestamp) : Date := dateOfDays (t.micros / dayMicros)

/-- Microseconds since midnight. -/
def microsOfDay (t : Timestamp) : Nat := t.micros % dayMicros

/-- Hours, minutes and seconds with colons between them. -/
def clockText (t : Timestamp) : List Char :=
  let seconds := t.microsOfDay / 1000000
  Text.paddedDigits 2 (seconds / 3600) ++ ':' :: Text.paddedDigits 2 (seconds / 60 % 60) ++
    ':' :: Text.paddedDigits 2 (seconds % 60)

/-- An offset as a sign, hours and minutes. -/
def offsetText (minutes : Int) : List Char :=
  (if minutes < 0 then '-' else '+') :: Text.paddedDigits 2 (minutes.natAbs / 60) ++
    ':' :: Text.paddedDigits 2 (minutes.natAbs % 60)

/-- The date and the clock, with six digits of a second if it is not whole. -/
def localText (t : Timestamp) : List Char :=
  let d := t.date
  let fraction := t.microsOfDay % 1000000
  Text.paddedDigits 4 d.year ++ '-' :: Text.paddedDigits 2 d.month ++
    '-' :: Text.paddedDigits 2 d.day ++ 'T' :: t.clockText ++
    if fraction = 0 then [] else '.' :: Text.paddedDigits 6 fraction

/-- A time with its offset in digits. -/
def isoText (t : Timestamp) : String :=
  String.ofList (t.localText ++ (t.offset.map offsetText).getD [])

/-- A time as a field of a written result: UTC is written `Z`. -/
def fieldText (t : Timestamp) : String :=
  String.ofList <| t.localText ++
    match t.offset with
    | none => []
    | some 0 => ['Z']
    | some minutes => offsetText minutes

/-- The name of the time zone: `UTC`, followed by an offset other than zero; no name without an
offset. -/
def zoneName (t : Timestamp) : List Char :=
  match t.offset with
  | none => []
  | some 0 => ['U', 'T', 'C']
  | some minutes => ['U', 'T', 'C'] ++ offsetText minutes

/-- The number that a list of digits writes, if they are digits. -/
def number? (digits : List Char) : Option Nat :=
  (digits.mapM Text.asciiDigit?).map (Text.natOfDigits 0)

/-- Two digits, and what follows them. -/
def twoDigits? : List Char → Option (Nat × List Char)
  | a :: b :: rest => (number? [a, b]).map (·, rest)
  | _ => none

/-- A date of the form `2024-01-31`, and what follows it. -/
def readDate? : List Char → Option (Date × List Char)
  | y₁ :: y₂ :: y₃ :: y₄ :: '-' :: m₁ :: m₂ :: '-' :: d₁ :: d₂ :: rest => do
      let year ← number? [y₁, y₂, y₃, y₄]
      let month ← number? [m₁, m₂]
      let day ← number? [d₁, d₂]
      let d : Date := ⟨year, month, day⟩
      if d.isValid then some (d, rest) else none
  | _ => none

/-- Microseconds that the digits behind a decimal point write; digits from the seventh on are
dropped. -/
def fractionMicros (digits : List Nat) : Nat :=
  let kept := digits.take 6
  Text.natOfDigits 0 (kept ++ List.replicate (6 - kept.length) 0)

/-- A fraction of a second behind its point or comma, and what follows it. -/
def readFraction? : List Char → Option (Nat × List Char)
  | c :: rest =>
      if c == '.' || c == ',' then
        match (rest.takeWhile Char.isDigit).mapM Text.asciiDigit? with
        | some (d :: ds) => some (fractionMicros (d :: ds), rest.dropWhile Char.isDigit)
        | _ => none
      else some (0, c :: rest)
  | [] => some (0, [])

/-- Seconds with a fraction behind a colon, in microseconds, and what follows them. -/
def readSeconds? : List Char → Option (Nat × List Char)
  | ':' :: rest => do
      let (seconds, rest) ← twoDigits? rest
      let (fraction, rest) ← readFraction? rest
      if seconds < 60 then some (seconds * 1000000 + fraction, rest) else none
  | rest => some (0, rest)

/-- A clock time of the form `23:59`, with or without seconds, in microseconds, and what follows
it. -/
def readClock? (text : List Char) : Option (Nat × List Char) := do
  let (hours, rest) ← twoDigits? text
  match rest with
  | ':' :: rest =>
      let (minutes, rest) ← twoDigits? rest
      let (micros, rest) ← readSeconds? rest
      if hours < 24 ∧ minutes < 60 then
        some ((hours * 60 + minutes) * 60000000 + micros, rest)
      else none
  | _ => none

/-- Minutes of an offset behind its sign: hours and minutes, with or without a colon. -/
def readOffsetMinutes? (text : List Char) : Option Nat := do
  let (hours, rest) ← twoDigits? text
  let digits := match rest with
    | ':' :: rest => rest
    | rest => rest
  let (minutes, rest) ← twoDigits? digits
  if minutes < 60 ∧ hours < 24 ∧ rest.isEmpty then some (hours * 60 + minutes) else none

/-- An offset, which must take the whole text; no text is no offset. -/
def readOffset? : List Char → Option (Option Int)
  | [] => some none
  | c :: rest =>
      if c == 'Z' || c == 'z' then if rest.isEmpty then some (some 0) else none
      else if c == '+' then (readOffsetMinutes? rest).map fun n => some (Int.ofNat n)
      else if c == '-' || c.toNat == 0x2212 then
        (readOffsetMinutes? rest).map fun n => some (-Int.ofNat n)
      else none

/-- A time from its text: a date, or a date and a clock time behind one of the characters
`T`, `t`, blank and `_`, with an optional offset. -/
def ofText? (text : String) : Option Timestamp := do
  let (d, rest) ← readDate? text.toList
  let midnight := Int.ofNat (daysOfDate d * dayMicros)
  match rest with
  | [] => ofMicros? midnight none
  | c :: rest =>
      if c == 'T' || c == 't' || c == ' ' || c == '_' then
        let (micros, rest) ← readClock? rest
        let offset ← readOffset? rest
        ofMicros? (midnight + Int.ofNat micros) offset
      else none

end Timestamp

end NavGraph.Time

/-! # Civil dates and times

A `DateTime` is a date of the proleptic Gregorian calendar and a time of day, with no time
zone. The time of day is a count of seconds since midnight and a fraction in nanoseconds;
a fraction of a second or more (below two seconds) marks a leap second, written `:60`.

Dates convert to and from a count of days since 1970-01-01 (`CivilDate.toDays`,
`CivilDate.ofDays`), which is how an offset from UTC is taken off and how two dates are
ordered. -/

namespace FilterQuery

/-- A date of the proleptic Gregorian calendar. -/
structure CivilDate where
  year : Int
  month : Nat
  day : Nat
  deriving DecidableEq, Inhabited, Repr

/-- A time of day: seconds since midnight (below 86400) and nanoseconds (below two
    seconds; a second or more is a leap second). -/
structure TimeOfDay where
  seconds : Nat
  nanos : Nat
  deriving DecidableEq, Inhabited, Repr

/-- A date and a time of day, with no time zone. -/
structure DateTime where
  date : CivilDate
  time : TimeOfDay
  deriving DecidableEq, Inhabited, Repr

namespace CivilDate

/-- Leap years: divisible by four, and by four hundred when divisible by a hundred. -/
def isLeapYear (y : Int) : Bool := y % 4 == 0 && (y % 100 != 0 || y % 400 == 0)

/-- The number of days of a month (1 to 12) in a year. -/
def daysInMonth (y : Int) (m : Nat) : Nat :=
  match m with
  | 2 => if isLeapYear y then 29 else 28
  | 4 | 6 | 9 | 11 => 30
  | _ => 31

/-- A date exists when its month is 1 to 12 and its day is within the month. -/
def isValid (d : CivilDate) : Bool :=
  1 ≤ d.month && d.month ≤ 12 && 1 ≤ d.day && d.day ≤ daysInMonth d.year d.month

/-- Days since 1970-01-01 (negative before it). The year is counted from March so that
    the leap day ends the year; an era is 400 years of 146097 days. -/
def toDays (d : CivilDate) : Int :=
  let y : Int := if d.month ≤ 2 then d.year - 1 else d.year
  let era := y / 400
  let yoe := y - era * 400
  let mp : Int := if d.month > 2 then d.month - 3 else d.month + 9
  let doy := (153 * mp + 2) / 5 + d.day - 1
  let doe := yoe * 365 + yoe / 4 - yoe / 100 + doy
  era * 146097 + doe - 719468

/-- The date that is `z` days after 1970-01-01; the inverse of `toDays`. -/
def ofDays (z : Int) : CivilDate :=
  let z := z + 719468
  let era := z / 146097
  let doe := z - era * 146097
  let yoe := (doe - doe / 1460 + doe / 36524 - doe / 146096) / 365
  let y := yoe + era * 400
  let doy := doe - (365 * yoe + yoe / 4 - yoe / 100)
  let mp := (5 * doy + 2) / 153
  let d := doy - (153 * mp + 2) / 5 + 1
  let m := if mp < 10 then mp + 3 else mp - 9
  ⟨if m ≤ 2 then y + 1 else y, m.toNat, d.toNat⟩

end CivilDate

namespace TimeOfDay

/-- The hour, 0 to 23. -/
def hour (t : TimeOfDay) : Nat := t.seconds / 3600

/-- The minute, 0 to 59. -/
def minute (t : TimeOfDay) : Nat := t.seconds / 60 % 60

/-- The second as written: 0 to 59, or 60 during a leap second. -/
def second (t : TimeOfDay) : Nat := t.seconds % 60 + t.nanos / 1000000000

/-- The fraction of the written second, in nanoseconds. -/
def fraction (t : TimeOfDay) : Nat := t.nanos % 1000000000

/-- The time with the given hour, minute, second (60 for a leap second) and nanoseconds,
    if it exists: fields in range, and a leap second only as the sixtieth second. -/
def ofFields? (hour minute second nanos : Nat) : Option TimeOfDay :=
  if hour < 24 ∧ minute < 60 ∧ second ≤ 60 ∧ nanos < 1000000000 then
    if second = 60 then some ⟨hour * 3600 + minute * 60 + 59, nanos + 1000000000⟩
    else some ⟨hour * 3600 + minute * 60 + second, nanos⟩
  else none

end TimeOfDay

namespace DateTime

/-- Midnight at the start of a date. -/
def atMidnight (d : CivilDate) : DateTime := ⟨d, ⟨0, 0⟩⟩

/-- The instant as whole seconds since 1970-01-01 00:00:00 and the fraction. -/
def toSeconds (t : DateTime) : Int × Nat := (t.date.toDays * 86400 + t.time.seconds, t.time.nanos)

/-- Moves a date-time by a number of seconds; the fraction, leap second included, is kept. -/
def addSeconds (t : DateTime) (delta : Int) : DateTime :=
  let total : Int := t.time.seconds + delta
  let days := total / 86400
  let secs := total % 86400
  ⟨CivilDate.ofDays (t.date.toDays + days), ⟨secs.toNat, t.time.nanos⟩⟩

/-- Date-times ordered by date, then seconds of the day, then fraction. -/
def compare (a b : DateTime) : Ordering :=
  match Ord.compare a.date.toDays b.date.toDays with
  | .eq => match Ord.compare a.time.seconds b.time.seconds with
    | .eq => Ord.compare a.time.nanos b.time.nanos
    | o => o
  | o => o

end DateTime

/-- Why a text is not a date-time of a layout. -/
inductive DateError where
  /-- A field is out of its range, or the date does not exist. -/
  | outOfRange
  /-- The fields contradict each other. -/
  | impossible
  /-- Some field the result needs is missing. -/
  | notEnough
  /-- A character is not what the layout expects there. -/
  | invalid
  /-- The text ends before the layout does. -/
  | tooShort
  /-- Text is left over after the layout. -/
  | tooLong
  /-- The layout itself cannot be used. -/
  | badFormat
  deriving DecidableEq, Inhabited, Repr

/-- The sentence that reports a date error. -/
def DateError.message : DateError → String
  | .outOfRange => "input is out of range"
  | .impossible => "no possible date and time matching input"
  | .notEnough => "input is not enough for unique date and time"
  | .invalid => "input contains invalid characters"
  | .tooShort => "premature end of input"
  | .tooLong => "trailing input"
  | .badFormat => "bad or unsupported format string"

end FilterQuery

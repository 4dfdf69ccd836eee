import FilterQuery.Date.Layout

/-! # RFC 3339 date-times, and how date-times are written

Reading (`DateTime.readRfc3339`) takes a text of the form `YYYY-MM-DDThh:mm:ss`, an optional
fraction and an offset, and checks it in this order, the first failure giving the error:
1. a text shorter than the nineteen bytes of `YYYY-MM-DDThh:mm:ss` is cut short;
2. its first nineteen characters must have that shape (`stampShape`): ASCII digits where
   the shape has them, `T`, `t` or a space between date and time, and `-`, `:` elsewhere;
3. a `.` after them starts a fraction of one or more digits (`DateScan.scanFraction`), those
   past the ninth dropped;
4. the date must exist and the time must be in range, second 60 being a leap second;
5. the offset follows (`DateScan.scanOffset`): `Z` (either case), or a sign (`+`, `-` or
   the minus sign U+2212), two hour digits, `:` and two minute digits, at most 23:59;
6. nothing may follow the offset.
The result is the instant in UTC.

Writing:
* `DateTime.toRfc3339Millis`: `YYYY-MM-DDThh:mm:ss.mmmZ`, always with milliseconds;
* `DateTime.toText`: `YYYY-MM-DD hh:mm:ss` with the fraction as three, six or nine digits,
  the fewest that hold it, and no fraction when it is zero.
A leap second is written as second 60. A year outside 0 to 9999 is written with its sign
and at least four digits. -/

namespace FilterQuery

namespace DateTime

open DateScan

/-- The shape of `YYYY-MM-DDThh:mm:ss`: `d` stands for an ASCII digit and `T` for any of
    `T`, `t` or a space; `-` and `:` stand for themselves. -/
def stampShape : List Char := "dddd-dd-ddTdd:dd:dd".toList

/-- Whether a character fits one place of `stampShape`. -/
def fitsPlace (place c : Char) : Bool :=
  if place = 'd' then c.isDigit
  else if place = 'T' then c = 'T' || c = 't' || c = ' '
  else c = place

/-- Whether a text starts with characters that fit a shape, place by place. -/
def fitsShape : List Char → List Char → Bool
  | [], _ => true
  | _ :: _, [] => false
  | p :: ps, c :: cs => fitsPlace p c && fitsShape ps cs

/-- The value of the `width` digits that start at place `start`. -/
def fieldAt (s : List Char) (start width : Nat) : Nat :=
  ((s.drop start).take width).foldl (fun acc c => acc * 10 + digitValue c) 0

/-- The fraction of a second after the stamp: `.` and its digits as nanoseconds, or nothing
    when no `.` follows. -/
def readFraction (s : List Char) : Except DateError (Nat × List Char) :=
  match s with
  | '.' :: rest => scanFraction rest
  | _ => .ok (0, s)

/-- Reads an RFC 3339 date-time, as described in the module header. -/
def readRfc3339 (text : String) : Except DateError DateTime := do
  if text.utf8ByteSize < stampShape.length then throw .tooShort
  let s := text.toList
  if !fitsShape stampShape s then throw .invalid
  let (nanos, rest) ← readFraction (s.drop stampShape.length)
  let fields : LayoutFields :=
    { year := some (fieldAt s 0 4), month := some (fieldAt s 5 2), day := some (fieldAt s 8 2),
      hour := some (fieldAt s 11 2), minute := some (fieldAt s 14 2),
      second := some (fieldAt s 17 2), nanos := some nanos }
  let local_ ← fields.toDateTime
  let (offset, rest) ← scanOffset rest oneColon true false
  if 86340 < offset.natAbs then throw .outOfRange
  if !rest.isEmpty then throw .tooLong
  return local_.addSeconds (-offset)

/-- `n` in decimal, padded with zeros to at least `width` digits. -/
def padded (n width : Nat) : String :=
  let ds := Nat.toDigits 10 n
  String.ofList (List.replicate (width - ds.length) '0' ++ ds)

/-- The year: four digits within 0 to 9999, otherwise its sign and at least four digits. -/
def yearText (y : Int) : String :=
  if 0 ≤ y ∧ y ≤ 9999 then padded y.toNat 4
  else (if y < 0 then "-" else "+") ++ padded y.natAbs 4

/-- `YYYY-MM-DD`. -/
def dateText (d : CivilDate) : String :=
  yearText d.year ++ "-" ++ padded d.month 2 ++ "-" ++ padded d.day 2

/-- `hh:mm:ss`, second 60 during a leap second. -/
def clockText (t : TimeOfDay) : String :=
  padded t.hour 2 ++ ":" ++ padded t.minute 2 ++ ":" ++ padded t.second 2

/-- The fraction of a second as `.mmm`, `.uuuuuu` or `.nnnnnnnnn`, the shortest that holds
    it exactly, or nothing when it is zero. -/
def fractionText (nanos : Nat) : String :=
  if nanos = 0 then ""
  else if nanos % 1000000 = 0 then "." ++ padded (nanos / 1000000) 3
  else if nanos % 1000 = 0 then "." ++ padded (nanos / 1000) 6
  else "." ++ padded nanos 9

/-- The date-time as `YYYY-MM-DD hh:mm:ss` and its fraction. -/
def toText (t : DateTime) : String :=
  dateText t.date ++ " " ++ clockText t.time ++ fractionText t.time.fraction

/-- The date-time in UTC as `YYYY-MM-DDThh:mm:ss.mmmZ`. -/
def toRfc3339Millis (t : DateTime) : String :=
  dateText t.date ++ "T" ++ clockText t.time ++ "." ++ padded (t.time.fraction / 1000000) 3 ++ "Z"

end DateTime

end FilterQuery

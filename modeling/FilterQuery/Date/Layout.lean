import FilterQuery.Date.Scan

/-! # Date-time layouts

A layout is a sequence of items, each reading a piece of the text:
* the numeric fields skip white space and then read digits: the year four, the others one
  or two;
* a fraction reads `.` and its digits when the text has a point there, and nothing else;
* an offset skips white space and reads `Z`, or a signed `hh`, `hh:mm` or `hhmm` (with
  colons or blanks allowed between);
* a literal character must come next;
* a blank reads any run of white space, none included.
Text left over after the last item is refused. The fields are then checked: month 1 to 12,
day within the month, hour below 24, minute below 60, second at most 60 (a leap second),
and an offset under a day. An offset is taken off, giving the date-time in UTC.

`DateTime.readLiteral?` is the recognizer of date literals in filter text: a text of at
least eight bytes that starts with four digits and a `-`, read by the first layout that
fits among a bare date (at midnight), four date-time layouts with a space or `T` between
date and time and an optional fraction, and the same four followed by an offset. -/

namespace FilterQuery

/-- One item of a date-time layout. -/
inductive LayoutItem where
  | year
  | month
  | day
  | hour
  | minute
  | second
  | fraction
  | offset
  | literal (c : Char)
  | blank
  deriving DecidableEq, Inhabited, Repr

/-- The fields read so far. -/
structure LayoutFields where
  year : Option Nat := none
  month : Option Nat := none
  day : Option Nat := none
  hour : Option Nat := none
  minute : Option Nat := none
  second : Option Nat := none
  nanos : Option Nat := none
  offset : Option Int := none
  deriving Inhabited, Repr

namespace LayoutItem

open DateScan

/-- Reads one item, recording its field. -/
def read (item : LayoutItem) (f : LayoutFields) (s : List Char) :
    Except DateError (LayoutFields × List Char) := do
  match item with
  | .year =>
    let (v, r) ← scanNumber (skipBlanks s) 1 4
    return ({ f with year := some v }, r)
  | .month =>
    let (v, r) ← scanNumber (skipBlanks s) 1 2
    if v < 1 ∨ 12 < v then throw .outOfRange
    return ({ f with month := some v }, r)
  | .day =>
    let (v, r) ← scanNumber (skipBlanks s) 1 2
    if v < 1 ∨ 31 < v then throw .outOfRange
    return ({ f with day := some v }, r)
  | .hour =>
    let (v, r) ← scanNumber (skipBlanks s) 1 2
    if 23 < v then throw .outOfRange
    return ({ f with hour := some v }, r)
  | .minute =>
    let (v, r) ← scanNumber (skipBlanks s) 1 2
    if 59 < v then throw .outOfRange
    return ({ f with minute := some v }, r)
  | .second =>
    let (v, r) ← scanNumber (skipBlanks s) 1 2
    if 60 < v then throw .outOfRange
    return ({ f with second := some v }, r)
  | .fraction =>
    match s with
    | '.' :: rest =>
      let (v, r) ← scanFraction rest
      return ({ f with nanos := some v }, r)
    | _ => return (f, s)
  | .offset =>
    let (v, r) ← scanOffset (skipBlanks s) colonsOrBlanks true true
    return ({ f with offset := some v }, r)
  | .literal c =>
    match s with
    | [] => throw .tooShort
    | d :: rest => if d = c then return (f, rest) else throw .invalid
  | .blank => return (f, skipBlanks s)

end LayoutItem

/-- Reads all items of a layout in order; text may be left over. -/
def readItems : List LayoutItem → LayoutFields → List Char →
    Except DateError (LayoutFields × List Char)
  | [], f, s => .ok (f, s)
  | item :: rest, f, s => do
    let (f, s) ← item.read f s
    readItems rest f s

namespace LayoutFields

/-- The date of the fields: all three present and the day within its month. -/
def toDate (f : LayoutFields) : Except DateError CivilDate :=
  match f.year, f.month, f.day with
  | some y, some m, some d =>
    let date : CivilDate := ⟨y, m, d⟩
    if date.isValid then .ok date else .error .outOfRange
  | _, _, _ => .error .notEnough

/-- The time of the fields: hour and minute present; the second and fraction default to
    zero. -/
def toTime (f : LayoutFields) : Except DateError TimeOfDay :=
  match f.hour, f.minute with
  | some h, some m =>
    match TimeOfDay.ofFields? h m (f.second.getD 0) (f.nanos.getD 0) with
    | some t => .ok t
    | none => .error .outOfRange
  | _, _ => .error .notEnough

/-- The date-time of the fields, in UTC when an offset was read. -/
def toDateTime (f : LayoutFields) : Except DateError DateTime := do
  let date ← f.toDate
  let time ← f.toTime
  let local_ : DateTime := ⟨date, time⟩
  match f.offset with
  | none => return local_
  | some o =>
    if 86400 ≤ o.natAbs then throw .outOfRange
    return local_.addSeconds (-o)

end LayoutFields

/-- Reads a whole text with a layout; leftover text is refused. -/
def readLayout (layout : List LayoutItem) (text : String) : Except DateError LayoutFields := do
  let (f, rest) ← readItems layout {} text.toList
  if rest.isEmpty then return f else throw .tooLong

namespace DateTime

open LayoutItem in
/-- The bare date layout `YYYY-MM-DD`. -/
def dateLayout : List LayoutItem := [year, literal '-', month, literal '-', day]

open LayoutItem in
/-- A date-time layout: `sep` between date and time, an optional fraction when `withFraction`,
    and an offset when `withOffset`. -/
def dateTimeLayout (sep : LayoutItem) (withFraction withOffset : Bool) : List LayoutItem :=
  dateLayout ++ [sep, hour, literal ':', minute, literal ':', second] ++
    (if withFraction then [fraction] else []) ++ (if withOffset then [offset] else [])

/-- The date-time layouts tried after the bare date, in order. -/
def dateTimeLayouts : List (List LayoutItem) :=
  [dateTimeLayout .blank false false, dateTimeLayout (.literal 'T') false false,
   dateTimeLayout .blank true false, dateTimeLayout (.literal 'T') true false,
   dateTimeLayout (.literal 'T') false true, dateTimeLayout .blank false true,
   dateTimeLayout (.literal 'T') true true, dateTimeLayout .blank true true]

/-- The date literal recognizer of the module header. -/
def readLiteral? (text : String) : Option DateTime :=
  let cs := text.toList
  if text.utf8ByteSize < 8 || !(cs.take 4).all Char.isDigit || cs.length < 5 ||
      cs[4]? != some '-' then none
  else
    match readLayout dateLayout text >>= LayoutFields.toDate with
    | .ok d => some (atMidnight d)
    | .error _ => dateTimeLayouts.findSome? fun layout =>
      match readLayout layout text >>= LayoutFields.toDateTime with
      | .ok t => some t
      | .error _ => none

end DateTime

end FilterQuery

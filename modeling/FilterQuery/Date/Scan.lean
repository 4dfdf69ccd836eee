import FilterQuery.Date.Basic
import FilterQuery.Text.Property

/-! # Scanning the fields of a date-time text

The pieces that date-time layouts are read with, each taking the text that is left and
giving a value and the rest, or a `DateError`:
* `scanNumber s min max` reads `min` to `max` ASCII digits; a text shorter (in UTF-8
  bytes) than `min` is cut short, a non-digit before `min` digits is invalid;
* `scanFraction` reads the digits after a decimal point as nanoseconds, the tenth digit
  and later ones read and dropped;
* `scanOffset` reads a UTC offset `Z`, or a sign (`+`, `-` or the minus sign U+2212),
  two hour digits, optional colons or blanks, and two minute digits that may be left out. -/

namespace FilterQuery

namespace DateScan

/-- Length of a text in UTF-8 bytes. -/
def byteLength (s : List Char) : Nat := s.foldr (fun c n => c.utf8Size + n) 0

/-- The value of an ASCII digit. -/
def digitValue (c : Char) : Nat := c.toNat - '0'.toNat

/-- Reads at most `max` digits onto `acc`; the number of digits read, the value and the rest. -/
def takeDigits : Nat → List Char → Nat → Nat → Nat × Nat × List Char
  | 0, s, n, acc => (n, acc, s)
  | max + 1, c :: rest, n, acc =>
    if c.isDigit then takeDigits max rest (n + 1) (acc * 10 + digitValue c) else (n, acc, c :: rest)
  | _ + 1, [], n, acc => (n, acc, [])

/-- Reads from `min` to `max` digits, as described in the module header. A value beyond
    64 signed bits is out of range. -/
def scanNumber (s : List Char) (min max : Nat) : Except DateError (Nat × List Char) :=
  if byteLength s < min then .error .tooShort
  else
    let (n, v, rest) := takeDigits max s 0 0
    if n < min then .error .invalid
    else if Nat.pow 2 63 ≤ v then .error .outOfRange
    else .ok (v, rest)

/-- Reads the digits of a fraction (after its point) as nanoseconds. -/
def scanFraction (s : List Char) : Except DateError (Nat × List Char) := do
  let (v, rest) ← scanNumber s 1 9
  let used := s.length - rest.length
  return (v * Nat.pow 10 (9 - used), rest.dropWhile Char.isDigit)

/-- Drops leading white space. -/
def skipBlanks (s : List Char) : List Char := s.dropWhile Text.isWhiteSpace

/-- The values of two leading ASCII digits, `none` when one of them is not a digit; the
    text must hold at least two bytes. -/
def twoDigits? (s : List Char) : Option (Nat × Nat) :=
  match s with
  | a :: b :: _ => if a.isDigit && b.isDigit then some (digitValue a, digitValue b) else none
  | _ => none

/-- Reads a UTC offset in seconds east of UTC, as described in the module header; `colon`
    consumes what may stand between hours and minutes, and `zulu` admits `Z`. -/
def scanOffset (s : List Char) (colon : List Char → Except DateError (List Char))
    (zulu missingMinutes : Bool) : Except DateError (Int × List Char) := do
  match s with
  | c :: rest =>
    if zulu && (c = 'Z' || c = 'z') then return (0, rest)
    let negative ← match c with
      | '+' => pure false
      | '-' => pure true
      | '−' => pure true
      | _ => throw .invalid
    if byteLength rest < 2 then throw .tooShort
    let hours ← match twoDigits? rest with
      | some (h₁, h₂) => pure (h₁ * 10 + h₂)
      | none => throw .invalid
    let afterColon ← colon (rest.drop 2)
    let (minutes, tail) ← if 2 ≤ byteLength afterColon then
        match twoDigits? afterColon with
        | some (m₁, m₂) => if m₁ ≤ 5 then pure (m₁ * 10 + m₂, afterColon.drop 2) else throw .outOfRange
        | none => throw .invalid
      else if missingMinutes && afterColon.isEmpty then pure (0, afterColon)
      else throw .tooShort
    let total : Int := hours * 3600 + minutes * 60
    return (if negative then -total else total, tail)
  | [] => throw .tooShort

/-- Consumes any run of colons and white space. -/
def colonsOrBlanks (s : List Char) : Except DateError (List Char) :=
  .ok (s.dropWhile fun c => c = ':' || Text.isWhiteSpace c)

/-- Consumes exactly one colon. -/
def oneColon (s : List Char) : Except DateError (List Char) :=
  match s with
  | ':' :: rest => .ok rest
  | _ :: _ => .error .invalid
  | [] => .error .tooShort

end DateScan

end FilterQuery

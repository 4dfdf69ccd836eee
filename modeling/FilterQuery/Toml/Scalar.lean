import FilterQuery.Toml.Lexical

/-! # Unquoted TOML scalars

An unquoted scalar is read as one token of letters, digits and `+ - _ . :` (a full date
followed by a space and `hh:` takes the time after the space into the token) and then
classified, as described in `Toml.Lexical`'s header. A token that is none of the forms is
refused. -/

namespace FilterQuery

namespace Toml

/-- The characters of an unquoted scalar. -/
def isTokenChar (c : Char) : Bool :=
  c.isAlphanum || c = '+' || c = '-' || c = '_' || c = '.' || c = ':'

/-- Whether a text is digits (by `isDigit`) with single `_` between them. -/
def isDigitGroup (isDigit : Char → Bool) (cs : List Char) : Bool :=
  match cs.head?, cs.getLast? with
  | some a, some z =>
    isDigit a && isDigit z && cs.all (fun c => isDigit c || c = '_') &&
      !(cs.zip cs.tail).any (fun p => p.1 = '_' && p.2 = '_')
  | _, _ => false

/-- The value of digits in a base, underscores skipped. -/
def digitsValue (base : Nat) (cs : List Char) : Nat :=
  cs.foldl (fun acc c => if c = '_' then acc else acc * base + (hexValue? c).getD 0) 0

/-- Whether a decimal integer part is `0` or has no leading zero. -/
def isDecimalPart (cs : List Char) : Bool :=
  cs = ['0'] || (match cs.head? with
    | some c => '1' ≤ c && c ≤ '9'
    | none => false) && isDigitGroup Char.isDigit cs

/-- The sign of a number and the text after it. -/
def splitSign : List Char → Bool × List Char
  | '+' :: rest => (false, rest)
  | '-' :: rest => (true, rest)
  | cs => (false, cs)

/-- The integer a token writes, if it is one within 64 signed bits. -/
def readInteger? (cs : List Char) : Option Int :=
  let inRange (i : Int) : Option Int := if -(Nat.pow 2 63 : Int) ≤ i && i < (Nat.pow 2 63 : Int) then some i else none
  match cs with
  | '0' :: 'x' :: ds =>
    if isDigitGroup (fun c => (hexValue? c).isSome) ds then inRange (digitsValue 16 ds) else none
  | '0' :: 'o' :: ds =>
    if isDigitGroup (fun c => '0' ≤ c && c ≤ '7') ds then inRange (digitsValue 8 ds) else none
  | '0' :: 'b' :: ds =>
    if isDigitGroup (fun c => c = '0' || c = '1') ds then inRange (digitsValue 2 ds) else none
  | _ =>
    let (neg, ds) := splitSign cs
    if isDecimalPart ds then
      let n : Int := digitsValue 10 ds
      inRange (if neg then -n else n)
    else none

/-- Whether an exponent, after `e` or `E`, is an optionally signed digit group. -/
def isExponent (cs : List Char) : Bool := isDigitGroup Char.isDigit (splitSign cs).2

/-- Whether a token is a float. -/
def isFloat (cs : List Char) : Bool :=
  let ds := (splitSign cs).2
  if ds = "inf".toList || ds = "nan".toList then true
  else
    let intPart := ds.takeWhile fun c => c.isDigit || c = '_'
    let rest := ds.dropWhile fun c => c.isDigit || c = '_'
    isDecimalPart intPart &&
      match rest with
      | '.' :: more =>
        let frac := more.takeWhile fun c => c.isDigit || c = '_'
        let after := more.dropWhile fun c => c.isDigit || c = '_'
        isDigitGroup Char.isDigit frac &&
          match after with
          | [] => true
          | e :: ex => (e = 'e' || e = 'E') && isExponent ex
      | e :: ex => (e = 'e' || e = 'E') && isExponent ex
      | [] => false

/-- Reads `n` digits as a number. -/
def fixedDigits (n : Nat) (cs : List Char) : Option (Nat × List Char) :=
  let ds := cs.take n
  if ds.length = n && ds.all Char.isDigit then some (digitsValue 10 ds, cs.drop n) else none

/-- The days of a month. -/
def daysInMonth (year month : Nat) : Nat :=
  if month = 2 then
    if year % 4 = 0 && (year % 100 != 0 || year % 400 = 0) then 29 else 28
  else if month = 4 || month = 6 || month = 9 || month = 11 then 30
  else 31

/-- Reads a date `YYYY-MM-DD` that exists. -/
def readDate (cs : List Char) : Option (List Char) := do
  let (y, cs) ← fixedDigits 4 cs
  let cs ← match cs with | '-' :: r => some r | _ => none
  let (m, cs) ← fixedDigits 2 cs
  let cs ← match cs with | '-' :: r => some r | _ => none
  let (d, cs) ← fixedDigits 2 cs
  if 1 ≤ m && m ≤ 12 && 1 ≤ d && d ≤ daysInMonth y m then some cs else none

/-- Reads a time `hh:mm:ss` with an optional fraction. -/
def readTime (cs : List Char) : Option (List Char) := do
  let (h, cs) ← fixedDigits 2 cs
  let cs ← match cs with | ':' :: r => some r | _ => none
  let (m, cs) ← fixedDigits 2 cs
  let cs ← match cs with | ':' :: r => some r | _ => none
  let (s, cs) ← fixedDigits 2 cs
  if 23 < h || 59 < m || 60 < s then none
  else match cs with
    | '.' :: r =>
      let frac := r.takeWhile Char.isDigit
      if frac.isEmpty then none else some (r.dropWhile Char.isDigit)
    | r => some r

/-- Reads an offset `Z` or `±hh:mm`. -/
def readOffset (cs : List Char) : Option (List Char) :=
  match cs with
  | 'Z' :: r | 'z' :: r => some r
  | s :: r =>
    if s = '+' || s = '-' then do
      let (h, r) ← fixedDigits 2 r
      let r ← match r with | ':' :: more => some more | _ => none
      let (m, r) ← fixedDigits 2 r
      if 23 < h || 59 < m then none else some r
    else none
  | [] => none

/-- Whether a token is a date, a date-time (local or with offset) or a time. -/
def isDateTime (cs : List Char) : Bool :=
  match readDate cs with
  | some [] => true
  | some (sep :: rest) =>
    (sep = 'T' || sep = 't' || sep = ' ') &&
      match readTime rest with
      | some [] => true
      | some r => readOffset r == some []
      | none => false
  | none => readTime cs == some []

/-- Whether a token starts like a date: four digits and a dash. -/
def looksLikeDate (cs : List Char) : Bool :=
  (fixedDigits 4 cs).isSome && (cs.drop 4).head? == some '-'

/-- Reads an unquoted scalar. -/
def readScalar (cs : List Char) : Except String (Value × List Char) :=
  let tok := cs.takeWhile isTokenChar
  let rest := cs.dropWhile isTokenChar
  let (tok, rest) := match rest with
    | ' ' :: a :: b :: ':' :: _ =>
      if looksLikeDate tok && tok.length = 10 && a.isDigit && b.isDigit then
        let more := rest.tail
        (tok ++ ' ' :: more.takeWhile isTokenChar, more.dropWhile isTokenChar)
      else (tok, rest)
    | _ => (tok, rest)
  if tok.isEmpty then .error "expected a value"
  else if tok = "true".toList then .ok (.bool true, rest)
  else if tok = "false".toList then .ok (.bool false, rest)
  else if looksLikeDate tok || (tok.drop 2).head? == some ':' then
    if isDateTime tok then .ok (.dateTime (String.ofList tok), rest) else .error "invalid date-time"
  else match readInteger? tok with
    | some i => .ok (.int i, rest)
    | none => if isFloat tok then .ok (.float (String.ofList tok), rest) else .error "invalid value"

end Toml

end FilterQuery

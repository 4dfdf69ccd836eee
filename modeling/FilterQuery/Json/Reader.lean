import FilterQuery.Json.Basic
import FilterQuery.Binary64.Decimal

/-! # Reading JSON text

`Json.read?` reads one JSON value surrounded by optional blanks.

Numbers follow the fast reading rule of the request format:
* an integer without fraction or exponent is an `int` when it fits in 64 signed bits; a
  larger one, and `-0`, is a `float`;
* otherwise the digits are gathered into a 64-bit unsigned significand (a digit that would
  overflow it stops the gathering: later integer digits raise the exponent, later fraction
  digits are dropped), the significand is rounded to binary64, and then scaled by the
  rounded power of ten `10^|e|` in one rounded multiplication or division. An exponent below
  `-308` first divides by `1e308` until it is in range or the value is zero. A result that
  overflows is refused. -/

namespace FilterQuery

namespace Json

/-- Characters that JSON allows between tokens. -/
def isBlank (c : Char) : Bool := c = ' ' || c = '\t' || c = '\n' || c = '\r'

/-- Largest 64-bit unsigned significand. -/
def maxSignificand : Nat := Nat.pow 2 64 - 1

/-- Whether appending the digit `d` to `sig` leaves the 64-bit unsigned range. -/
def overflows (sig d : Nat) : Bool := maxSignificand < sig * 10 + d

/-- The value of an ASCII digit. -/
def digitValue (c : Char) : Nat := c.toNat - '0'.toNat

/-- The product of two finite binary64 numbers, correctly rounded. -/
def Binary64.mulRound (x y : Binary64) : Binary64 :=
  let q := x.exponent + y.exponent
  let p := x.significand * y.significand
  let neg := x.negative != y.negative
  if 0 ≤ q then Binary64.roundRatio neg (p * Nat.pow 2 q.toNat) 1
  else Binary64.roundRatio neg p (Nat.pow 2 ((-q).toNat))

/-- The quotient of two finite binary64 numbers, the divisor non-zero, correctly rounded. -/
def Binary64.divRound (x y : Binary64) : Binary64 :=
  let q := x.exponent - y.exponent
  let neg := x.negative != y.negative
  if 0 ≤ q then Binary64.roundRatio neg (x.significand * Nat.pow 2 q.toNat) y.significand
  else Binary64.roundRatio neg x.significand (y.significand * Nat.pow 2 ((-q).toNat))

/-- The rounded power of ten `10^k`. -/
def powerOfTen (k : Nat) : Binary64 := Binary64.ofDecimal false 1 k

/-- Scales the rounded significand by `10^e` as the module header says. Three rounds of
    division by `1e308` bring any non-zero 64-bit significand to zero. -/
def scaleDecimal : Nat → Binary64 → Int → Except String Binary64
  | 0, f, _ => .ok f
  | fuel + 1, f, e =>
    if e.natAbs ≤ 308 then
      if 0 ≤ e then
        let g := Binary64.mulRound f (powerOfTen e.toNat)
        if g.isFinite then .ok g else .error "number out of range"
      else .ok (Binary64.divRound f (powerOfTen e.natAbs))
    else if f.significand = 0 then .ok f
    else if 0 ≤ e then .error "number out of range"
    else scaleDecimal fuel (Binary64.divRound f (powerOfTen 308)) (e + 308)

/-- A number from its sign, gathered significand and decimal exponent. -/
def floatOfParts (negative : Bool) (sig : Nat) (e : Int) : Except String Json := do
  let f ← scaleDecimal 4 (Binary64.roundRatio false sig 1) e
  return .float (if negative then f.neg else f)

/-- Digits gathered into a significand: the significand, the exponent change, and the rest.
    `inFraction` selects the rule for a digit that would overflow. -/
def gatherDigits (inFraction : Bool) : List Char → Nat → Int → Bool → Nat × Int × List Char
  | [], sig, e, _ => (sig, e, [])
  | c :: rest, sig, e, stopped =>
    if c.isDigit then
      let d := digitValue c
      if stopped || overflows sig d then
        gatherDigits inFraction rest sig (if inFraction then e else e + 1) true
      else gatherDigits inFraction rest (sig * 10 + d) (if inFraction then e - 1 else e) false
    else (sig, e, c :: rest)

/-- The value of a run of exponent digits, capped just above the 32-bit range. -/
def exponentDigits : List Char → Nat → Nat × List Char
  | [], acc => (acc, [])
  | c :: rest, acc =>
    if c.isDigit then exponentDigits rest (min (acc * 10 + digitValue c) (Nat.pow 2 31)) else (acc, c :: rest)

/-- Reads a number; the text starts at its first character (a digit or a minus). -/
def readNumber (cs : List Char) : Except String (Json × List Char) := do
  let (negative, body) := match cs with
    | '-' :: rest => (true, rest)
    | _ => (false, cs)
  match body with
  | '0' :: c :: _ => if c.isDigit then throw "invalid number" else pure ()
  | c :: _ => if c.isDigit then pure () else throw "invalid number"
  | [] => throw "EOF while parsing a value"
  let (sig, e₀, afterInt) := gatherDigits false body 0 0 false
  let (sig, e₁, afterFrac, fraction) ← match afterInt with
    | '.' :: rest =>
      match rest with
      | c :: _ =>
        if c.isDigit then
          let (s, e, r) := gatherDigits true rest sig e₀ false
          pure (s, e, r, true)
        else throw "invalid number"
      | [] => throw "EOF while parsing a value"
    | _ => pure (sig, e₀, afterInt, false)
  match afterFrac with
  | c :: rest =>
    if c = 'e' || c = 'E' then
      let (expNegative, digits) := match rest with
        | '+' :: r => (false, r)
        | '-' :: r => (true, r)
        | r => (false, r)
      match digits with
      | d :: _ => if d.isDigit then pure () else throw "invalid number"
      | [] => throw "EOF while parsing a value"
      let (v, tail) := exponentDigits digits 0
      if Nat.pow 2 31 ≤ v then
        -- an exponent beyond 32 bits: zero when it shrinks or the significand is zero
        if sig = 0 || expNegative then
          return (.float (Binary64.zero negative), tail)
        else throw "number out of range"
      let e := if expNegative then e₁ - v else e₁ + v
      return (← floatOfParts negative sig e, tail)
    else if fraction || e₁ != 0 then return (← floatOfParts negative sig e₁, afterFrac)
    else return (integerValue negative sig, afterFrac)
  | [] =>
    if fraction || e₁ != 0 then return (← floatOfParts negative sig e₁, [])
    else return (integerValue negative sig, [])
where
  /-- An integer literal: `int` when it fits in 64 signed bits and is not `-0`. -/
  integerValue (negative : Bool) (sig : Nat) : Json :=
    if negative then
      if 1 ≤ sig ∧ sig ≤ Nat.pow 2 63 then .int (-(sig : Int))
      else .float (Binary64.roundRatio true sig 1)
    else if sig < Nat.pow 2 63 then .int sig
    else .float (Binary64.roundRatio false sig 1)

/-- The value of four hexadecimal digits. -/
def hexValue? (cs : List Char) : Option Nat :=
  cs.foldl (fun acc c => acc.bind fun v =>
    if c.isDigit then some (v * 16 + digitValue c)
    else if 'a' ≤ c ∧ c ≤ 'f' then some (v * 16 + (c.toNat - 'a'.toNat + 10))
    else if 'A' ≤ c ∧ c ≤ 'F' then some (v * 16 + (c.toNat - 'A'.toNat + 10))
    else none) (some 0)

/-- Reads the characters of a string up to its closing quote, resolving escapes. -/
def readStringBody : List Char → List Char → Except String (String × List Char)
  | [], _ => .error "EOF while parsing a string"
  | '"' :: rest, acc => .ok (String.ofList acc.reverse, rest)
  | '\\' :: rest, acc =>
    match rest with
    | '"' :: r => readStringBody r ('"' :: acc)
    | '\\' :: r => readStringBody r ('\\' :: acc)
    | '/' :: r => readStringBody r ('/' :: acc)
    | 'b' :: r => readStringBody r ('\x08' :: acc)
    | 'f' :: r => readStringBody r ('\x0c' :: acc)
    | 'n' :: r => readStringBody r ('\n' :: acc)
    | 'r' :: r => readStringBody r ('\r' :: acc)
    | 't' :: r => readStringBody r ('\t' :: acc)
    | 'u' :: a :: b :: c :: d :: r =>
      match hexValue? [a, b, c, d] with
      | none => .error "invalid escape"
      | some hi =>
        if 0xD800 ≤ hi ∧ hi < 0xDC00 then
          match r with
          | '\\' :: 'u' :: a' :: b' :: c' :: d' :: r' =>
            match hexValue? [a', b', c', d'] with
            | some lo =>
              if 0xDC00 ≤ lo ∧ lo < 0xE000 then
                readStringBody r'
                  (Char.ofNat (0x10000 + (hi - 0xD800) * 0x400 + (lo - 0xDC00)) :: acc)
              else .error "lone leading surrogate in hex escape"
            | none => .error "invalid escape"
          | _ => .error "lone leading surrogate in hex escape"
        else if 0xDC00 ≤ hi ∧ hi < 0xE000 then .error "lone trailing surrogate in hex escape"
        else readStringBody r (Char.ofNat hi :: acc)
    | _ => .error "invalid escape"
  | c :: rest, acc =>
    if c.toNat < 0x20 then .error "control character while parsing a string"
    else readStringBody rest (c :: acc)

/-- Drops leading JSON blanks. -/
def skipBlanks (cs : List Char) : List Char := cs.dropWhile isBlank

/-- Consumes `word` at the front of `cs`. -/
def expectWord (word : List Char) (cs : List Char) : Except String (List Char) :=
  if word.isPrefixOf cs then .ok (cs.drop word.length) else .error "expected value"

mutual

/-- Reads one value after optional blanks. The fuel bounds the nesting and item counts;
    the text's length is always enough. -/
def readValue : Nat → List Char → Except String (Json × List Char)
  | 0, _ => .error "recursion limit exceeded"
  | fuel + 1, cs =>
    match skipBlanks cs with
    | [] => .error "EOF while parsing a value"
    | 'n' :: _ => do let r ← expectWord "null".toList (skipBlanks cs); pure (.null, r)
    | 't' :: _ => do let r ← expectWord "true".toList (skipBlanks cs); pure (.bool true, r)
    | 'f' :: _ => do let r ← expectWord "false".toList (skipBlanks cs); pure (.bool false, r)
    | '"' :: rest => do let (s, r) ← readStringBody rest []; pure (.str s, r)
    | '[' :: rest =>
      match skipBlanks rest with
      | ']' :: r => .ok (.arr [], r)
      | r => readItems fuel r []
    | '{' :: rest =>
      match skipBlanks rest with
      | '}' :: r => .ok (.obj [], r)
      | r => readFields fuel r []
    | c :: rest =>
      if c = '-' || c.isDigit then readNumber (c :: rest) else .error "expected value"

/-- Reads array items after `[`, the first item not yet read. -/
def readItems : Nat → List Char → List Json → Except String (Json × List Char)
  | 0, _, _ => .error "recursion limit exceeded"
  | fuel + 1, cs, acc => do
    let (v, r) ← readValue fuel cs
    match skipBlanks r with
    | ',' :: r' => readItems fuel r' (v :: acc)
    | ']' :: r' => pure (.arr (v :: acc).reverse, r')
    | [] => throw "EOF while parsing a list"
    | _ => throw "expected , or ]"

/-- Reads object fields after `{`, the first field not yet read. -/
def readFields : Nat → List Char → List (String × Json) → Except String (Json × List Char)
  | 0, _, _ => .error "recursion limit exceeded"
  | fuel + 1, cs, acc => do
    let (key, r) ← match skipBlanks cs with
      | '"' :: rest => readStringBody rest []
      | [] => throw "EOF while parsing an object"
      | _ => throw "key must be a string"
    let r ← match skipBlanks r with
      | ':' :: rest => pure rest
      | [] => throw "EOF while parsing an object"
      | _ => throw "expected :"
    let (v, r) ← readValue fuel r
    let acc := setField acc key v
    match skipBlanks r with
    | ',' :: r' => readFields fuel r' acc
    | '}' :: r' => pure (.obj acc, r')
    | [] => throw "EOF while parsing an object"
    | _ => throw "expected , or \x7d"

end

/-- Reads a whole text as one JSON value; only blanks may follow it. -/
def read? (text : String) : Except String Json := do
  let cs := text.toList
  let (v, rest) ← readValue (cs.length + 1) cs
  if (skipBlanks rest).isEmpty then pure v else throw "trailing characters"

end Json

end FilterQuery

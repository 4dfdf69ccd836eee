import FilterQuery.Binary64.Basic

/-! # Reading decimal numbers into binary64

`ofDecimal neg d e` is the binary64 number nearest to `±d * 10^e`. Exponents far outside
the binary64 range are settled without building the power of ten: `d * 10^e` is at least
`10^(e + len d - 1)` and below `10^(e + len d)`, where `len d` counts the decimal digits
of `d`, so a value at or above `10^310` is infinite and one below `10^-324` rounds to zero.

`readText?` reads the decimal grammar
`[+-]? (digits | digits '.' digits? | '.' digits) ([eE] [+-]? digits)?`, correctly
rounded; a value too large for binary64 reads as infinity. -/

namespace FilterQuery

namespace Binary64

/-- Number of decimal digits of `n`, with `len 0 = 1`. -/
def decimalLength (n : Nat) : Nat := (Nat.toDigits 10 n).length

/-- The binary64 number nearest to `(-1)^negative * digits * 10^exp10`. -/
def ofDecimal (negative : Bool) (digits : Nat) (exp10 : Int) : Binary64 :=
  if digits = 0 then zero negative
  else
    let top := exp10 + decimalLength digits
    if 311 ≤ top then infinity negative
    else if top ≤ -325 then zero negative
    else if 0 ≤ exp10 then roundRatio negative (digits * Nat.pow 10 exp10.toNat) 1
    else roundRatio negative digits (Nat.pow 10 ((-exp10).toNat))

/-- The value of a list of decimal digit characters. -/
def digitsValue (ds : List Char) : Nat :=
  ds.foldl (fun acc c => acc * 10 + (c.toNat - '0'.toNat)) 0

/-- The longest prefix of ASCII digits and what follows it. -/
def spanDigits (cs : List Char) : List Char × List Char :=
  (cs.takeWhile Char.isDigit, cs.dropWhile Char.isDigit)

/-- An optional sign in front of the text: `true` for a minus. -/
def splitSign (cs : List Char) : Bool × List Char :=
  match cs with
  | '-' :: rest => (true, rest)
  | '+' :: rest => (false, rest)
  | _ => (false, cs)

/-- The exponent part `[eE] [+-]? digits`, or the empty text; anything else is refused. -/
def readExponent? (cs : List Char) : Option Int :=
  match cs with
  | [] => some 0
  | c :: rest =>
    if c = 'e' ∨ c = 'E' then
      let (neg, body) := splitSign rest
      let (ds, tail) := spanDigits body
      if ds.isEmpty || !tail.isEmpty then none
      else
        let v := (digitsValue ds : Int)
        some (if neg then -v else v)
    else none

/-- A decimal number in the grammar of the module header, correctly rounded. -/
def readText? (s : String) : Option Binary64 :=
  let (neg, body) := splitSign s.toList
  let (intDigits, afterInt) := spanDigits body
  let (fracDigits, afterFrac) :=
    match afterInt with
    | '.' :: rest => spanDigits rest
    | _ => ([], afterInt)
  if intDigits.isEmpty && fracDigits.isEmpty then none
  else
    match readExponent? afterFrac with
    | none => none
    | some e =>
      some (ofDecimal neg (digitsValue (intDigits ++ fracDigits)) (e - fracDigits.length))

end Binary64

end FilterQuery

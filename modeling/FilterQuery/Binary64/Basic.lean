/-! # Binary64 numbers by their bit pattern

A `Binary64` is an IEEE 754 double-precision number held as its 64-bit pattern. Nothing here
uses the runtime's floating-point unit: every operation the library needs (rounding a ratio,
comparing, negating) is defined on the pattern and on exact natural-number arithmetic, so
that statements about numbers can be proved.

A finite pattern stands for `(-1)^sign * significand * 2^exponent`, where
* `significand < 2^53`, and `2^52 ≤ significand` unless the pattern is subnormal;
* `-1074 ≤ exponent ≤ 971`.

`roundRatio` gives the pattern nearest to a non-negative ratio, ties to the even significand,
overflowing to infinity. -/

namespace FilterQuery

/-- An IEEE 754 binary64 value, held as its bit pattern. -/
structure Binary64 where
  bits : UInt64
  deriving DecidableEq, Inhabited, Repr

namespace Binary64

/-- Number of stored fraction bits. -/
def fractionWidth : Nat := 52

/-- The exponent of the least significant bit of a subnormal number. -/
def minExponent : Int := -1074

/-- The sign bit. -/
def negative (x : Binary64) : Bool := (x.bits >>> 63) == 1

/-- The biased exponent field, `0` for zeros and subnormals, `2047` for infinities and NaNs. -/
def exponentField (x : Binary64) : Nat := ((x.bits >>> 52) &&& 0x7FF).toNat

/-- The 52 stored fraction bits. -/
def fractionField (x : Binary64) : Nat := (x.bits &&& 0xFFFFFFFFFFFFF).toNat

/-- Finite numbers are those whose exponent field is not all ones. -/
def isFinite (x : Binary64) : Bool := x.exponentField != 2047

/-- A NaN has an all-ones exponent field and a non-zero fraction. -/
def isNaN (x : Binary64) : Bool := x.exponentField == 2047 && x.fractionField != 0

/-- The integer significand of a finite number (implicit bit included for normal numbers). -/
def significand (x : Binary64) : Nat :=
  if x.exponentField = 0 then x.fractionField else x.fractionField + Nat.pow 2 52

/-- The power of two of the significand's last bit, for a finite number. -/
def exponent (x : Binary64) : Int :=
  if x.exponentField = 0 then minExponent else (x.exponentField : Int) - 1075

/-- The pattern with the given sign, biased exponent and fraction fields. -/
def ofFields (negative : Bool) (field fraction : Nat) : Binary64 :=
  ⟨((if negative then (1 : UInt64) <<< 63 else 0) ||| ((field.toUInt64 &&& 0x7FF) <<< 52)) |||
    (fraction.toUInt64 &&& 0xFFFFFFFFFFFFF)⟩

/-- Zero with the given sign. -/
def zero (negative : Bool) : Binary64 := ofFields negative 0 0

/-- Infinity with the given sign. -/
def infinity (negative : Bool) : Binary64 := ofFields negative 2047 0

/-- The same magnitude with the sign bit flipped. -/
def neg (x : Binary64) : Binary64 := ⟨x.bits ^^^ ((1 : UInt64) <<< 63)⟩

/-- The pattern of `(-1)^negative * m * 2^q`, for a significand `m < 2^53` that is either
    normal (`2^52 ≤ m`) or subnormal with `q = -1074`. Too large an exponent gives infinity. -/
def encode (negative : Bool) (m : Nat) (q : Int) : Binary64 :=
  if m < Nat.pow 2 52 then ofFields negative 0 m
  else
    let field := q + 1075
    if 2047 ≤ field then infinity negative
    else ofFields negative field.toNat (m - Nat.pow 2 52)

/-- `num * 2^-q` and `den` scaled so that their quotient is `num / (den * 2^q)`. -/
def scaleByPow2 (num den : Nat) (q : Int) : Nat × Nat :=
  if 0 ≤ q then (num, den <<< q.toNat) else (num <<< (-q).toNat, den)

/-- Division of `n` by `d` rounded to the nearest integer, ties to even. -/
def roundHalfEven (n d : Nat) : Nat :=
  let m := n / d
  let r := n % d
  if d < 2 * r || (2 * r == d && m % 2 == 1) then m + 1 else m

/-- The binary64 number nearest to `num / den` with the given sign: ties go to the even
    significand, and a ratio at or above `2^1024 - 2^970` becomes infinity. A zero ratio, or a
    zero denominator, gives a signed zero. -/
def roundRatio (negative : Bool) (num den : Nat) : Binary64 :=
  if num = 0 ∨ den = 0 then zero negative
  else
    -- `2^(t-1) < num / den < 2^(t+1)`, so the ulp exponent is `t - 53` or `t - 52`.
    let t : Int := (Nat.log2 num : Int) - (Nat.log2 den : Int)
    let q₀ := t - 53
    let s₀ := scaleByPow2 num den q₀
    let q₁ := if s₀.2 * Nat.pow 2 53 ≤ s₀.1 then q₀ + 1 else q₀
    let q := max q₁ minExponent
    -- the pairs are read by projection rather than matched, which keeps the unfolded
    -- definition free of matches on a pair that is not yet a constructor
    let s := scaleByPow2 num den q
    let m := roundHalfEven s.1 s.2
    if m = Nat.pow 2 53 then encode negative (Nat.pow 2 52) (q + 1) else encode negative m q

/-- The binary64 number nearest to the integer `i` (ties to even). -/
def ofInt (i : Int) : Binary64 := roundRatio (i < 0) i.natAbs 1

/-- The order of two numbers as IEEE 754 compares them: a NaN is unordered, and the two
    zeros are equal. For other values the bit pattern without its sign grows with the
    magnitude. -/
def compare? (x y : Binary64) : Option Ordering :=
  if x.isNaN || y.isNaN then none
  else
    let mx := (x.bits &&& 0x7FFFFFFFFFFFFFFF).toNat
    let my := (y.bits &&& 0x7FFFFFFFFFFFFFFF).toNat
    if mx = 0 ∧ my = 0 then some .eq
    else match x.negative, y.negative with
      | false, false => some (Ord.compare mx my)
      | true, true => some (Ord.compare my mx)
      | true, false => some .lt
      | false, true => some .gt

/-- Numeric equality: equal values compare equal, so `-0 = +0` and a NaN equals nothing. -/
def numEq (x y : Binary64) : Bool := x.compare? y == some .eq

end Binary64

end FilterQuery

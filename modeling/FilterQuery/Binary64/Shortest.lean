import FilterQuery.Binary64.Basic

/-! # Shortest decimal digits of a binary64 number

A finite non-zero `x = m * 2^q` is the nearest binary64 number to every real of its
*rounding interval*: the reals between the midpoints to its two neighbours, ends included
when `m` is even (ties go to the even significand). Measured in units of `2^(q-2)` the
interval runs from `4m - g` to `4m + 2`, where the lower gap `g` is `1` at the bottom of a
binade (fraction zero, exponent field above one) and `2` otherwise.

`shortest x` is the decimal with the fewest significant digits inside that interval, and
among those the nearest to `x`. It is found digit count by digit count: for `d` digits the
grid is `10^(E - d + 1)`, with `E = ⌊log₁₀ x⌋`, and if any grid point lies in the interval
then one of the two grid points around `x` does. Seventeen digits always suffice.

All comparisons are exact: a grid point `k * 10^s` is compared with `X * 2^p` by moving
negative powers to the other side (`compareScaled`). -/

namespace FilterQuery

/-- A decimal number `digits * 10^exponent`. -/
structure Decimal where
  digits : Nat
  exponent : Int
  deriving DecidableEq, Inhabited, Repr

/-- Drops trailing zero digits, raising the exponent to keep the value. -/
def Decimal.normalize (d : Decimal) : Decimal :=
  if h : d.digits ≠ 0 ∧ d.digits % 10 = 0 then
    have : d.digits / 10 < d.digits := Nat.div_lt_self (Nat.pos_of_ne_zero h.1) (by decide)
    Decimal.normalize ⟨d.digits / 10, d.exponent + 1⟩
  else d
termination_by d.digits

namespace Binary64

/-- Exact comparison of `k * 10^s` with `x * 2^p`. -/
def compareScaled (k : Nat) (s : Int) (x : Nat) (p : Int) : Ordering :=
  Ord.compare (k * Nat.pow 10 ((max s 0).toNat) * Nat.pow 2 ((max (-p) 0).toNat))
    (x * Nat.pow 2 ((max p 0).toNat) * Nat.pow 10 ((max (-s) 0).toNat))

/-- `⌊m * 2^q / 10^s⌋`. -/
def floorScaled (m : Nat) (q s : Int) : Nat :=
  (m * Nat.pow 2 ((max q 0).toNat) * Nat.pow 10 ((max (-s) 0).toNat)) /
    (Nat.pow 2 ((max (-q) 0).toNat) * Nat.pow 10 ((max s 0).toNat))

/-- Moves a guess `e` of `⌊log₁₀ (m * 2^q)⌋` down while `10^e` exceeds the value. -/
def lowerLog10 (m : Nat) (q : Int) : Nat → Int → Int
  | 0, e => e
  | fuel + 1, e => if compareScaled 1 e m q == .gt then lowerLog10 m q fuel (e - 1) else e

/-- Moves a guess `e` of `⌊log₁₀ (m * 2^q)⌋` up while `10^(e+1)` does not exceed the value. -/
def raiseLog10 (m : Nat) (q : Int) : Nat → Int → Int
  | 0, e => e
  | fuel + 1, e => if compareScaled 1 (e + 1) m q == .gt then e else raiseLog10 m q fuel (e + 1)

/-- `⌊log₁₀ (m * 2^q)⌋` for `0 < m < 2^53` and `-1074 ≤ q ≤ 971`: the estimate from the
    binary exponent is off by at most two, and is corrected by exact comparisons. -/
def floorLog10 (m : Nat) (q : Int) : Int :=
  let e2 : Int := q + Nat.log2 m
  let guess := Int.fdiv (e2 * 78913) 262144
  raiseLog10 m q 4 (lowerLog10 m q 4 guess)

/-- The rounding interval of `m * 2^q` in units of `2^(q-2)`, as its two ends and whether
    the ends belong to it. -/
structure RoundingInterval where
  low : Nat
  high : Nat
  closed : Bool

/-- The rounding interval of a finite non-zero number. -/
def roundingInterval (x : Binary64) : RoundingInterval :=
  let m := x.significand
  let gap := if x.fractionField = 0 ∧ 1 < x.exponentField then 1 else 2
  ⟨4 * m - gap, 4 * m + 2, m % 2 == 0⟩

/-- Whether `k * 10^s` lies in the rounding interval `r` of a number with exponent `q`. -/
def RoundingInterval.holds (r : RoundingInterval) (q : Int) (k : Nat) (s : Int) : Bool :=
  let p := q - 2
  let aboveLow := match compareScaled k s r.low p with
    | .gt => true
    | .eq => r.closed
    | .lt => false
  let belowHigh := match compareScaled k s r.high p with
    | .lt => true
    | .eq => r.closed
    | .gt => false
  aboveLow && belowHigh

/-- The nearest decimal with `d` significant digits inside the rounding interval, if any. -/
def candidate (x : Binary64) (e : Int) (d : Nat) : Option Decimal :=
  let m := x.significand
  let q := x.exponent
  let s := e - d + 1
  let k := floorScaled m q s
  let r := roundingInterval x
  let downIn := r.holds q k s
  let upIn := r.holds q (k + 1) s
  if downIn && upIn then
    -- `x` against the midpoint `(2k + 1) * 10^s / 2` of the two grid points
    match compareScaled (2 * k + 1) s (2 * m) q with
    | .gt => some ⟨k, s⟩
    | .lt => some ⟨k + 1, s⟩
    | .eq => some (if k % 2 = 0 then ⟨k, s⟩ else ⟨k + 1, s⟩)
  else if downIn then some ⟨k, s⟩
  else if upIn then some ⟨k + 1, s⟩
  else none

/-- Tries digit counts `d`, `d + 1`, ..., up to `d + fuel`; the last count is taken even
    when it misses. -/
def searchDigits (x : Binary64) (e : Int) : Nat → Nat → Decimal
  | 0, d => ⟨floorScaled x.significand x.exponent (e - d + 1), e - d + 1⟩
  | fuel + 1, d =>
    match candidate x e d with
    | some c => c
    | none => searchDigits x e fuel (d + 1)

/-- The shortest decimal that reads back as the finite number `x`, nearest to `x` among
    those of its length, without trailing zeros. The sign is not part of it; zero is `0`. -/
def shortest (x : Binary64) : Decimal :=
  let m := x.significand
  if m = 0 then ⟨0, 0⟩
  else (searchDigits x (floorLog10 m x.exponent) 17 1).normalize

end Binary64

end FilterQuery

import Mathlib
import FilterQuery.Binary64.Basic

/-!
# The value of a binary64 pattern, and its order

A finite binary64 number is an integer multiple of the least subnormal, `2^-1074`. This
module reads that integer off the bit pattern (`Binary64.units` for the magnitude,
`Binary64.scaled` with the sign) and shows that the operations of `Binary64.Basic` mean what
they say about it:

* the magnitude in units of `2^-1074` grows strictly with the pattern without its sign bit,
  which is why `compare?` may compare the patterns of two numbers;
* `compare?` orders two finite numbers exactly as their values, both zeros equal, read as
  integers (`scaled`) or as rationals (`toRat`);
* every integer within `±2^53` is a binary64 number, and `ofInt` gives it exactly.

## Key results
- `Binary64.units_lt_units`: the magnitude grows with the pattern
- `Binary64.compare?_eq_compare_scaled`: the order of two finite numbers is that of their values
- `Binary64.scaled_ofInt`, `Binary64.toRat_ofInt`: `ofInt` is exact within `±2^53`
- `Binary64.compare?_eq_compare_toRat`: finite numbers compare as their rational values
-/

namespace FilterQuery

namespace Binary64

/-! ### Fields as arithmetic on the pattern -/

/-- The pattern without its sign bit. -/
def magnitudeBits (x : Binary64) : Nat := x.bits.toNat % 2 ^ 63

theorem negative_eq (x : Binary64) : x.negative = decide (2 ^ 63 ≤ x.bits.toNat) := by
  have hlt := x.bits.toNat_lt
  simp only [negative]
  rw [Bool.eq_iff_iff, beq_iff_eq, decide_eq_true_iff, ← UInt64.toNat_inj,
    UInt64.toNat_shiftRight, Nat.shiftRight_eq_div_pow]
  simp only [UInt64.reduceToNat, Nat.reduceMod]
  omega

theorem exponentField_eq (x : Binary64) : x.exponentField = x.magnitudeBits / 2 ^ 52 := by
  have hlt := x.bits.toNat_lt
  simp only [exponentField, magnitudeBits, UInt64.toNat_and, UInt64.toNat_shiftRight]
  rw [show (0x7FF : UInt64).toNat = 2 ^ 11 - 1 from rfl, Nat.and_two_pow_sub_one_eq_mod,
    Nat.shiftRight_eq_div_pow]
  simp only [UInt64.reduceToNat, Nat.reduceMod]
  omega

theorem fractionField_eq (x : Binary64) : x.fractionField = x.magnitudeBits % 2 ^ 52 := by
  simp only [fractionField, magnitudeBits, UInt64.toNat_and]
  rw [show (0xFFFFFFFFFFFFF : UInt64).toNat = 2 ^ 52 - 1 from rfl, Nat.and_two_pow_sub_one_eq_mod]
  omega

/-- The pattern is the sign bit above the magnitude bits. -/
theorem toNat_bits (x : Binary64) :
    x.bits.toNat = (if x.negative then 2 ^ 63 else 0) + x.magnitudeBits := by
  have hlt := x.bits.toNat_lt
  rw [negative_eq, magnitudeBits]
  split <;> simp_all <;> omega

/-- The mask of `compare?` keeps the magnitude bits. -/
theorem toNat_and_magnitudeMask (x : Binary64) :
    (x.bits &&& 0x7FFFFFFFFFFFFFFF).toNat = x.magnitudeBits := by
  rw [UInt64.toNat_and, show (0x7FFFFFFFFFFFFFFF : UInt64).toNat = 2 ^ 63 - 1 from rfl,
    Nat.and_two_pow_sub_one_eq_mod, magnitudeBits]

/-- The pattern that `ofFields` lays out: sign, exponent field and fraction side by side. -/
theorem toNat_ofFields {s : Bool} {e f : Nat} (he : e < 2 ^ 11) (hf : f < 2 ^ 52) :
    (ofFields s e f).bits.toNat = (if s then 2 ^ 63 else 0) + e * 2 ^ 52 + f := by
  have hsign : (if s then (1 : UInt64) <<< 63 else 0).toNat = if s then 2 ^ 63 else 0 := by
    cases s <;> rfl
  simp only [ofFields, UInt64.toNat_or, UInt64.toNat_and, UInt64.toNat_shiftLeft, hsign,
    Nat.toUInt64_eq, UInt64.toNat_ofNat']
  rw [show (0x7FF : UInt64).toNat = 2 ^ 11 - 1 from rfl,
    show (0xFFFFFFFFFFFFF : UInt64).toNat = 2 ^ 52 - 1 from rfl, Nat.and_two_pow_sub_one_eq_mod,
    Nat.and_two_pow_sub_one_eq_mod, show UInt64.toNat 52 % 64 = 52 from rfl,
    Nat.mod_eq_of_lt (show e < 2 ^ 64 by omega), Nat.mod_eq_of_lt he,
    Nat.mod_eq_of_lt (show f < 2 ^ 64 by omega), Nat.mod_eq_of_lt hf, Nat.shiftLeft_eq,
    Nat.mod_eq_of_lt (show e * 2 ^ 52 < 2 ^ 64 by omega)]
  -- the three fields occupy disjoint bits, so their `|||` is their sum
  have hlow : e * 2 ^ 52 ||| f = e * 2 ^ 52 + f := by
    rw [Nat.mul_comm, Nat.two_pow_add_eq_or_of_lt hf]
  have hhigh : (if s then 2 ^ 63 else 0) ||| (e * 2 ^ 52 + f) =
      (if s then 2 ^ 63 else 0) + (e * 2 ^ 52 + f) := by
    cases s
    · simp
    · rw [if_pos rfl, Nat.or_comm, Nat.or_two_pow_eq_add_of_lt (by omega), Nat.add_comm]
  rw [Nat.or_assoc, hlow, hhigh, Nat.add_assoc]

section OfFields

variable {s : Bool} {e f : Nat}

theorem negative_ofFields (he : e < 2 ^ 11) (hf : f < 2 ^ 52) : (ofFields s e f).negative = s := by
  rw [negative_eq, toNat_ofFields he hf]
  cases s <;> simp <;> omega

theorem magnitudeBits_ofFields (he : e < 2 ^ 11) (hf : f < 2 ^ 52) :
    (ofFields s e f).magnitudeBits = e * 2 ^ 52 + f := by
  rw [magnitudeBits, toNat_ofFields he hf]
  cases s <;> simp <;> omega

theorem exponentField_ofFields (he : e < 2 ^ 11) (hf : f < 2 ^ 52) :
    (ofFields s e f).exponentField = e := by
  rw [exponentField_eq, magnitudeBits_ofFields he hf]
  omega

theorem fractionField_ofFields (he : e < 2 ^ 11) (hf : f < 2 ^ 52) :
    (ofFields s e f).fractionField = f := by
  rw [fractionField_eq, magnitudeBits_ofFields he hf]
  omega

end OfFields

/-! ### The value in units of the least subnormal -/

/-- The magnitude of a number in units of the least subnormal `2^-1074`: its significand
    times `2^(exponent + 1074)`. -/
def units (x : Binary64) : Nat := x.significand * 2 ^ (x.exponent + 1074).toNat

/-- The value of a finite number times `2^1074`, an integer. -/
def scaled (x : Binary64) : Int := if x.negative then -(x.units : Int) else x.units

/-- The magnitude of the fields `e` (biased exponent) and `f` (fraction), in units of the
    least subnormal: the fraction itself below the normal range, and the fraction with its
    implicit bit, shifted by the exponent, above it. -/
def fieldUnits (e f : Nat) : Nat := if e = 0 then f else (f + 2 ^ 52) * 2 ^ (e - 1)

theorem units_eq_fieldUnits (x : Binary64) :
    x.units = fieldUnits x.exponentField x.fractionField := by
  unfold units significand exponent fieldUnits minExponent
  split
  · simp
  · congr 2
    omega

/-- The magnitude in units grows strictly with the magnitude bits: within one exponent with
    the fraction, and each exponent starts above the largest value of the one below. -/
theorem fieldUnits_lt {e₁ f₁ e₂ f₂ : Nat} (hf₁ : f₁ < 2 ^ 52) (hf₂ : f₂ < 2 ^ 52)
    (h : e₁ * 2 ^ 52 + f₁ < e₂ * 2 ^ 52 + f₂) : fieldUnits e₁ f₁ < fieldUnits e₂ f₂ := by
  have he : e₁ ≤ e₂ := by
    by_contra hne
    have : (e₂ + 1) * 2 ^ 52 ≤ e₁ * 2 ^ 52 := Nat.mul_le_mul_right _ (by omega)
    rw [Nat.add_mul] at this
    omega
  unfold fieldUnits
  rcases Nat.lt_or_eq_of_le he with hlt | rfl
  · -- a higher exponent: the lower number stays below `2^52 * 2^e₁ ≤ 2^52 * 2^(e₂ - 1)`
    have hpos : e₂ ≠ 0 := by omega
    rw [if_neg hpos]
    have hscale : 2 ^ e₁ ≤ 2 ^ (e₂ - 1) := Nat.pow_le_pow_right (by decide) (by omega)
    have hstep : 2 ^ 52 * 2 ^ e₁ ≤ (f₂ + 2 ^ 52) * 2 ^ (e₂ - 1) :=
      calc 2 ^ 52 * 2 ^ e₁ ≤ 2 ^ 52 * 2 ^ (e₂ - 1) := Nat.mul_le_mul_left _ hscale
        _ ≤ (f₂ + 2 ^ 52) * 2 ^ (e₂ - 1) := Nat.mul_le_mul_right _ (by omega)
    by_cases h0 : e₁ = 0
    · rw [if_pos h0]
      calc f₁ < 2 ^ 52 := hf₁
        _ ≤ 2 ^ 52 * 2 ^ e₁ := Nat.le_mul_of_pos_right _ (Nat.two_pow_pos _)
        _ ≤ _ := hstep
    · rw [if_neg h0]
      calc (f₁ + 2 ^ 52) * 2 ^ (e₁ - 1) < 2 ^ 53 * 2 ^ (e₁ - 1) :=
            Nat.mul_lt_mul_of_pos_right (by omega) (Nat.two_pow_pos _)
        _ = 2 ^ 52 * 2 ^ e₁ := by
          rw [← Nat.pow_add, ← Nat.pow_add]
          congr 1
          omega
        _ ≤ _ := hstep
  · -- one exponent: the fractions decide
    by_cases h0 : e₁ = 0
    · rw [if_pos h0, if_pos h0]
      omega
    · rw [if_neg h0, if_neg h0]
      exact Nat.mul_lt_mul_of_pos_right (by omega) (Nat.two_pow_pos _)

/-- The magnitude of a number grows strictly with its magnitude bits. -/
theorem units_lt_units {x y : Binary64} (h : x.magnitudeBits < y.magnitudeBits) :
    x.units < y.units := by
  rw [units_eq_fieldUnits, units_eq_fieldUnits]
  refine fieldUnits_lt (by rw [fractionField_eq]; omega) (by rw [fractionField_eq]; omega) ?_
  rw [exponentField_eq, exponentField_eq, fractionField_eq, fractionField_eq]
  omega

theorem units_eq_zero_iff (x : Binary64) : x.units = 0 ↔ x.magnitudeBits = 0 := by
  rw [units_eq_fieldUnits, exponentField_eq, fractionField_eq, fieldUnits]
  split
  · omega
  · simp only [Nat.mul_eq_zero, Nat.pow_eq_zero]
    omega

theorem compare_units (x y : Binary64) :
    compare x.units y.units = compare x.magnitudeBits y.magnitudeBits := by
  rcases Nat.lt_trichotomy x.magnitudeBits y.magnitudeBits with h | h | h
  · rw [Nat.compare_eq_lt.2 h, Nat.compare_eq_lt.2 (units_lt_units h)]
  · -- equal magnitude bits give equal fields
    have hu : x.units = y.units := by
      rw [units_eq_fieldUnits, units_eq_fieldUnits, exponentField_eq, exponentField_eq,
        fractionField_eq, fractionField_eq, h]
    rw [h, hu, Nat.compare_eq_eq.2 rfl, Nat.compare_eq_eq.2 rfl]
  · rw [Nat.compare_eq_gt.2 h, Nat.compare_eq_gt.2 (units_lt_units h)]

/-! ### `compare?` orders values -/

theorem isNaN_eq_false {x : Binary64} (hx : x.isFinite = true) : x.isNaN = false := by
  simp only [isFinite, bne_iff_ne, ne_eq] at hx
  simp [isNaN, hx]

theorem compare_neg_neg (a b : Nat) : compare (-(a : Int)) (-(b : Int)) = compare b a := by
  rcases Nat.lt_trichotomy a b with h | rfl | h
  · rw [Int.compare_eq_gt.2 (by omega), Nat.compare_eq_gt.2 h]
  · simp
  · rw [Int.compare_eq_lt.2 (by omega), Nat.compare_eq_lt.2 h]

theorem compare_natCast (a b : Nat) : compare (a : Int) (b : Int) = compare a b := by
  rcases Nat.lt_trichotomy a b with h | rfl | h
  · rw [Int.compare_eq_lt.2 (by omega), Nat.compare_eq_lt.2 h]
  · simp
  · rw [Int.compare_eq_gt.2 (by omega), Nat.compare_eq_gt.2 h]

/-- Two finite numbers compare as their values: `compare?` orders the magnitude bits, which
    order the magnitudes, and a negative number lies below a positive one unless both are
    zeros, which are equal. -/
theorem compare?_eq_compare_scaled {x y : Binary64} (hx : x.isFinite = true)
    (hy : y.isFinite = true) : x.compare? y = some (compare x.scaled y.scaled) := by
  have hux := units_eq_zero_iff x
  have huy := units_eq_zero_iff y
  have hcmp := compare_units x y
  unfold compare?
  rw [isNaN_eq_false hx, isNaN_eq_false hy, Bool.or_false, if_neg Bool.false_ne_true]
  dsimp only
  rw [toNat_and_magnitudeMask, toNat_and_magnitudeMask]
  split
  · rename_i hzero
    simp [scaled, hux.2 hzero.1, huy.2 hzero.2]
  · rename_i hnonzero
    unfold scaled
    cases hnx : x.negative <;> cases hny : y.negative <;> simp only [Bool.false_eq_true, if_true, if_false]
    · rw [compare_natCast, hcmp]
    · rw [Int.compare_eq_gt.2 (by omega)]
    · rw [Int.compare_eq_lt.2 (by omega)]
    · rw [compare_neg_neg, compare_units y x]

/-! ### Integers within `±2^53` -/

/-- Scaling a ratio over `1` by a power of two that is not positive multiplies the numerator. -/
theorem scaleByPow2_one_neg (num k : Nat) : scaleByPow2 num 1 (-(k : Int)) = (num * 2 ^ k, 1) := by
  unfold scaleByPow2
  split
  · obtain rfl : k = 0 := by omega
    simp
  · simp [Nat.shiftLeft_eq]

theorem roundHalfEven_one (n : Nat) : roundHalfEven n 1 = n := by
  simp [roundHalfEven, Nat.mod_one]

/-- A normal significand is laid out with its biased exponent and without its implicit bit. -/
theorem encode_of_normal (neg : Bool) {m : Nat} {q : Int} (hm : 2 ^ 52 ≤ m)
    (hq : q + 1075 < 2047) : encode neg m q = ofFields neg (q + 1075).toNat (m - 2 ^ 52) := by
  simp only [encode, Nat.pow_eq]
  rw [if_neg (by omega), if_neg (by omega)]

/-- A normal number's magnitude in units of the least subnormal. -/
theorem units_ofFields_normal {s : Bool} {e f : Nat} (he0 : 0 < e) (he : e < 2 ^ 11)
    (hf : f < 2 ^ 52) : (ofFields s e f).units = (f + 2 ^ 52) * 2 ^ (e - 1) := by
  rw [units_eq_fieldUnits, exponentField_ofFields he hf, fractionField_ofFields he hf, fieldUnits,
    if_neg (by omega)]

/-- An integer of `L + 1` bits, `L < 53`, moved up to 53 bits is a normal significand. -/
theorem shift_normal {num L : Nat} (hL1 : 2 ^ L ≤ num) (hL2 : num < 2 ^ (L + 1)) (hlt : L < 53) :
    2 ^ 52 ≤ num * 2 ^ (52 - L) ∧ num * 2 ^ (52 - L) < 2 ^ 53 := by
  constructor
  · calc 2 ^ 52 = 2 ^ L * 2 ^ (52 - L) := by rw [← Nat.pow_add]; congr 1; omega
      _ ≤ num * 2 ^ (52 - L) := Nat.mul_le_mul_right _ hL1
  · calc num * 2 ^ (52 - L) < 2 ^ (L + 1) * 2 ^ (52 - L) :=
          Nat.mul_lt_mul_of_pos_right hL2 (Nat.two_pow_pos _)
      _ = 2 ^ 53 := by rw [← Nat.pow_add]; congr 1; omega

/-- Below `2^53` the exponent is found at the first try and nothing is rounded: the
    significand is the integer moved up to 53 bits. -/
theorem roundRatio_one_of_log2_lt (neg : Bool) {num L : Nat} (hpos : 0 < num)
    (hL : num.log2 = L) (hlt : L < 53) :
    roundRatio neg num 1 = encode neg (num * 2 ^ (52 - L)) (-((52 - L : Nat) : Int)) := by
  obtain ⟨hL1, hL2⟩ := (Nat.log2_eq_iff (by omega)).1 hL
  obtain ⟨hm1, hm2⟩ := shift_normal hL1 hL2 hlt
  -- the first try scales by `2^(53 - L)`, which already reaches `2^53`
  have hfirst : scaleByPow2 num 1 ((L : Int) - ((0 : Nat) : Int) - 53) =
      (num * 2 ^ (53 - L), 1) := by
    rw [show (L : Int) - ((0 : Nat) : Int) - 53 = -((53 - L : Nat) : Int) by omega,
      scaleByPow2_one_neg]
  have habove : 1 * Nat.pow 2 53 ≤ num * 2 ^ (53 - L) := by
    have hdouble : num * 2 ^ (53 - L) = num * 2 ^ (52 - L) * 2 := by
      rw [Nat.mul_assoc, ← Nat.pow_succ]
      congr 2
      omega
    rw [hdouble, Nat.pow_eq]
    omega
  have hq : max ((L : Int) - ((0 : Nat) : Int) - 53 + 1) minExponent = -((52 - L : Nat) : Int) := by
    rw [minExponent]
    omega
  have hround : num * 2 ^ (52 - L) ≠ Nat.pow 2 53 := by
    rw [Nat.pow_eq]
    omega
  unfold roundRatio
  rw [if_neg (show ¬(num = 0 ∨ 1 = 0) by omega), show Nat.log2 1 = 0 by decide, hL]
  simp only [hfirst, habove, ite_true, hq, scaleByPow2_one_neg, roundHalfEven_one, hround,
    ite_false]

/-- The number nearest to a positive integer up to `2^53` is normal, and its significand
    shifted by its exponent is that integer: the significand is the integer moved up to 53
    bits, here without loss. -/
theorem roundRatio_natCast (neg : Bool) {num : Nat} (hpos : 0 < num) (hle : num ≤ 2 ^ 53) :
    ∃ e f, 0 < e ∧ e < 2047 ∧ f < 2 ^ 52 ∧ roundRatio neg num 1 = ofFields neg e f ∧
      (f + 2 ^ 52) * 2 ^ (e - 1) = num * 2 ^ 1074 := by
  obtain ⟨L, hL⟩ : ∃ L, num.log2 = L := ⟨_, rfl⟩
  obtain ⟨hL1, hL2⟩ := (Nat.log2_eq_iff (by omega)).1 hL
  have hL53 : L ≤ 53 := (Nat.pow_le_pow_iff_right (by decide)).1 (hL1.trans hle)
  rcases Nat.lt_or_eq_of_le hL53 with hlt | rfl
  · obtain ⟨hm1, hm2⟩ := shift_normal hL1 hL2 hlt
    refine ⟨L + 1023, num * 2 ^ (52 - L) - 2 ^ 52, by omega, by omega, by omega, ?_, ?_⟩
    · rw [roundRatio_one_of_log2_lt neg hpos hL hlt, encode_of_normal neg hm1 (by omega)]
      congr 1
      omega
    · rw [Nat.sub_add_cancel hm1, Nat.mul_assoc, ← Nat.pow_add,
        show 52 - L + (L + 1023 - 1) = 1074 by omega]
  · -- at `2^53` the significand is `2^52`, one binade up
    obtain rfl : num = 2 ^ 53 := by omega
    refine ⟨1076, 0, by decide, by decide, by decide, by cases neg <;> decide +kernel, ?_⟩
    rw [Nat.zero_add, show 1076 - 1 = 1 + 1074 from rfl, Nat.pow_add, ← Nat.mul_assoc,
      ← Nat.pow_add]

/-- Every integer within `±2^53` is a finite binary64 number, and `ofInt` gives it exactly. -/
theorem scaled_ofInt {i : Int} (h : i.natAbs ≤ 2 ^ 53) :
    (ofInt i).isFinite = true ∧ (ofInt i).scaled = i * 2 ^ 1074 := by
  rcases Nat.eq_zero_or_pos i.natAbs with h0 | hpos
  · obtain rfl : i = 0 := Int.natAbs_eq_zero.1 h0
    rw [Int.zero_mul]
    decide
  · obtain ⟨e, f, he0, he, hf, hround, hvalue⟩ := roundRatio_natCast (decide (i < 0)) hpos h
    have he11 : e < 2 ^ 11 := by omega
    have hofInt : ofInt i = ofFields (decide (i < 0)) e f := hround
    refine ⟨?_, ?_⟩
    · rw [hofInt, isFinite, exponentField_ofFields he11 hf]
      simp only [bne_iff_ne, ne_eq]
      omega
    · rw [hofInt, scaled, negative_ofFields he11 hf, units_ofFields_normal he0 he11 hf, hvalue]
      by_cases hneg : i < 0
      · rw [decide_eq_true hneg, if_pos rfl]
        push_cast
        rw [abs_of_neg hneg]
        ring
      · rw [decide_eq_false hneg, if_neg Bool.false_ne_true]
        push_cast
        rw [abs_of_nonneg (not_lt.1 hneg)]

/-! ### Exact values as rationals -/

/-- The exact value of a finite number. -/
def toRat (x : Binary64) : ℚ := x.scaled / 2 ^ 1074

/-- A strictly monotone map keeps the order of any two elements. -/
theorem compare_strictMono {α β : Type*} [LinearOrder α] [LinearOrder β] {f : α → β}
    (hf : StrictMono f) (a b : α) : compare (f a) (f b) = compare a b :=
  (compare_iff _ _).2 (hf.compares.2 ((compare_iff _ _).1 rfl))

theorem compare_toRat (x y : Binary64) : compare x.toRat y.toRat = compare x.scaled y.scaled :=
  compare_strictMono (Int.cast_strictMono.div_const (by positivity)) x.scaled y.scaled

/-- Two finite numbers compare as their rational values. -/
theorem compare?_eq_compare_toRat {x y : Binary64} (hx : x.isFinite = true)
    (hy : y.isFinite = true) : x.compare? y = some (compare x.toRat y.toRat) := by
  rw [compare?_eq_compare_scaled hx hy, compare_toRat]

theorem toRat_ofInt {i : Int} (h : i.natAbs ≤ 2 ^ 53) : (ofInt i).toRat = i := by
  rw [toRat, (scaled_ofInt h).2]
  push_cast
  field_simp

end Binary64

end FilterQuery

import FilterQuery.Proofs.Binary64Value
import FilterQuery.Binary64.Shortest

/-!
# Rounding a ratio is correct

`roundRatio` rounds a positive ratio to the nearest binary64 number, ties to the even
significand. Stated through the rounding interval of `Binary64.Shortest`: every ratio inside
the rounding interval of a finite non-zero number `x` rounds to `x`, with the sign asked for.

The rounding first finds the exponent whose binade holds the ratio (the *window*: between
`2^52` and `2^53` times the power of two), then rounds the ratio scaled to that exponent, or
to the least exponent when the window lies below it. Inside the interval of `x` the window is
the exponent of `x`, or one lower when the ratio falls just under the bottom of `x`'s binade;
there the ratio, scaled one exponent lower, rounds up to `2^53`, which is `x` again.

## Key results
- `roundRatio_window`: `roundRatio` rounds at the window exponent, floored at the least one
- `roundHalfEven_eq`: rounding half to even gives the integer within half a unit
- `near_of_admits`: the rounding interval measured in units of the number's exponent
- `roundRatio_eq_of_admits`: a ratio in the rounding interval of `x` rounds to `x`
-/

namespace FilterQuery.Binary64

theorem exponentField_lt (x : Binary64) : x.exponentField < 2 ^ 11 := by
  rw [exponentField_eq, magnitudeBits]
  have := x.bits.toNat_lt
  omega

theorem fractionField_lt (x : Binary64) : x.fractionField < 2 ^ 52 := by
  rw [fractionField_eq]
  omega

theorem ext_bits {x y : Binary64} (h : x.bits.toNat = y.bits.toNat) : x = y := by
  obtain ⟨a⟩ := x
  obtain ⟨b⟩ := y
  have hab : a = b := UInt64.toNat_inj.1 h
  rw [hab]

/-- A pattern is laid out again from its own sign, exponent field and fraction. -/
theorem ofFields_fields (x : Binary64) :
    ofFields x.negative x.exponentField x.fractionField = x := by
  apply ext_bits
  rw [toNat_ofFields (exponentField_lt x) (fractionField_lt x), toNat_bits x, exponentField_eq,
    fractionField_eq]
  omega

/-- A finite number is encoded again from its sign, significand and exponent. -/
theorem encode_self {x : Binary64} (hx : x.isFinite = true) :
    encode x.negative x.significand x.exponent = x := by
  have hfin : x.exponentField ≠ 2047 := by simpa [isFinite] using hx
  have he := exponentField_lt x
  have hf := fractionField_lt x
  unfold encode significand exponent
  by_cases h0 : x.exponentField = 0
  · rw [if_pos h0, if_pos h0, if_pos (by simpa using hf), ← h0]
    exact ofFields_fields x
  · rw [if_neg h0, if_neg h0, if_neg (by simp), if_neg (by simp; omega)]
    have hfield : ((x.exponentField : Int) - 1075 + 1075).toNat = x.exponentField := by omega
    rw [hfield, Nat.add_sub_cancel]
    exact ofFields_fields x

/-- `scaleByPow2` keeps the ratio, divided by `2^q`, and a positive denominator. -/
theorem scaleByPow2_ratio {num den : Nat} (hden : 0 < den) (q : Int) :
    0 < (scaleByPow2 num den q).2 ∧
      ((scaleByPow2 num den q).1 : ℚ) / (scaleByPow2 num den q).2 = num / den / 2 ^ q := by
  unfold scaleByPow2
  split
  · rename_i hq
    obtain ⟨n, rfl⟩ := Int.eq_ofNat_of_zero_le hq
    refine ⟨by simp [Nat.shiftLeft_eq]; positivity, ?_⟩
    simp only [Nat.shiftLeft_eq, Int.toNat_natCast, Nat.cast_mul, Nat.cast_pow, Nat.cast_ofNat,
      zpow_natCast]
    field_simp
  · rename_i hq
    obtain ⟨n, hn⟩ := Int.exists_eq_neg_ofNat (Int.le_of_lt (Int.not_le.1 hq))
    subst hn
    refine ⟨hden, ?_⟩
    simp only [neg_neg, Int.toNat_natCast, Nat.shiftLeft_eq, Nat.cast_mul, Nat.cast_pow, Nat.cast_ofNat, zpow_neg,
      zpow_natCast]
    field_simp

/-- At most one exponent puts a positive ratio between `2^52` and `2^53` times its power of
    two. -/
theorem window_unique {r : ℚ} {e e' : Int} (h : (2 : ℚ) ^ (e + 52) ≤ r ∧ r < 2 ^ (e + 53))
    (h' : (2 : ℚ) ^ (e' + 52) ≤ r ∧ r < 2 ^ (e' + 53)) : e = e' := by
  have h₁ : e + 52 < e' + 53 := (zpow_lt_zpow_iff_right₀ one_lt_two).1 (h.1.trans_lt h'.2)
  have h₂ : e' + 52 < e + 53 := (zpow_lt_zpow_iff_right₀ one_lt_two).1 (h'.1.trans_lt h.2)
  omega

/-- A positive natural number lies between `2^log2 n` and the next power of two, as a
    rational. -/
theorem log2_bounds {n : Nat} (hn : 0 < n) :
    (2 : ℚ) ^ (n.log2 : Int) ≤ n ∧ (n : ℚ) < 2 ^ ((n.log2 : Int) + 1) := by
  constructor
  · rw [zpow_natCast]
    exact_mod_cast Nat.log2_self_le (by omega)
  · rw [show (n.log2 : Int) + 1 = ((n.log2 + 1 : Nat) : Int) by push_cast; rfl, zpow_natCast]
    exact_mod_cast Nat.lt_log2_self

/-- The last steps of `roundRatio` at the exponent `q`: the ratio scaled to `2^q`, rounded
    half to even, and encoded, one binade up when rounding reached `2^53`. -/
def roundAt (neg : Bool) (num den : Nat) (q : Int) : Binary64 :=
  let s := scaleByPow2 num den q
  let m := roundHalfEven s.1 s.2
  if m = Nat.pow 2 53 then encode neg (Nat.pow 2 52) (q + 1) else encode neg m q

/-- `roundRatio` rounds at the exponent that puts the ratio between `2^52` and `2^53` times
    its power of two, or at the least exponent when that one is lower. -/
theorem roundRatio_window (neg : Bool) {num den : Nat} (hnum : 0 < num) (hden : 0 < den) :
    ∃ e : Int, ((2 : ℚ) ^ (e + 52) ≤ num / den ∧ (num : ℚ) / den < 2 ^ (e + 53)) ∧
      roundRatio neg num den = roundAt neg num den (max e minExponent) := by
  obtain ⟨ha, ha'⟩ := log2_bounds hnum
  obtain ⟨hb, hb'⟩ := log2_bounds hden
  set t : Int := (num.log2 : Int) - (den.log2 : Int) with ht
  have hden' : (0 : ℚ) < den := by exact_mod_cast hden
  -- the ratio lies within a factor of two of `2^t`
  have hlow : (2 : ℚ) ^ (t - 1) < num / den := by
    rw [lt_div_iff₀ hden']
    calc (2 : ℚ) ^ (t - 1) * den < 2 ^ (t - 1) * 2 ^ ((den.log2 : Int) + 1) :=
          mul_lt_mul_of_pos_left hb' (by positivity)
      _ = 2 ^ (num.log2 : Int) := by rw [← zpow_add₀ two_ne_zero]; congr 1; omega
      _ ≤ num := ha
  have hhigh : (num : ℚ) / den < 2 ^ (t + 1) := by
    rw [div_lt_iff₀ hden']
    calc (num : ℚ) < 2 ^ ((num.log2 : Int) + 1) := ha'
      _ = 2 ^ (t + 1) * 2 ^ (den.log2 : Int) := by rw [← zpow_add₀ two_ne_zero]; congr 1; omega
      _ ≤ 2 ^ (t + 1) * den := mul_le_mul_of_nonneg_left hb (by positivity)
  obtain ⟨hpos₀, hratio₀⟩ := @scaleByPow2_ratio num den hden (t - 53)
  have hpow : (0 : ℚ) < 2 ^ (t - 53) := by positivity
  refine ⟨if (scaleByPow2 num den (t - 53)).2 * Nat.pow 2 53 ≤ (scaleByPow2 num den (t - 53)).1
      then t - 53 + 1 else t - 53, ?_, ?_⟩
  · split
    · rename_i hup
      -- at or above `2^53` after scaling: the window is one binade up
      have hup' : (2 : ℚ) ^ 53 ≤ num / den / 2 ^ (t - 53) := by
        rw [← hratio₀, le_div_iff₀ (by exact_mod_cast hpos₀)]
        exact_mod_cast (by simpa [Nat.pow_eq, Nat.mul_comm] using hup)
      rw [le_div_iff₀ hpow, ← zpow_natCast, ← zpow_add₀ two_ne_zero] at hup'
      constructor
      · rw [show t - 53 + 1 + 52 = ((53 : Nat) : Int) + (t - 53) by push_cast; ring]
        exact hup'
      · rw [show t - 53 + 1 + 53 = t + 1 by ring]
        exact hhigh
    · rename_i hdown
      have hdown' : num / den / 2 ^ (t - 53) < (2 : ℚ) ^ 53 := by
        rw [← hratio₀, div_lt_iff₀ (by exact_mod_cast hpos₀)]
        exact_mod_cast (by simpa [Nat.pow_eq, Nat.mul_comm] using hdown)
      rw [div_lt_iff₀ hpow, ← zpow_natCast, ← zpow_add₀ two_ne_zero] at hdown'
      constructor
      · rw [show t - 53 + 52 = t - 1 by ring]
        exact hlow.le
      · rw [show t - 53 + 53 = ((53 : Nat) : Int) + (t - 53) by push_cast; ring]
        exact hdown'
  · unfold roundRatio
    rw [if_neg (by omega)]
    rfl

/-- Division rounded half to even gives the integer within half of the ratio, the even one
    at exactly half. -/
theorem roundHalfEven_eq {n d m : Nat} (hd : 0 < d)
    (h : 2 * |(n : Int) - m * d| < d ∨ (2 * |(n : Int) - m * d| = d ∧ m % 2 = 0)) :
    roundHalfEven n d = m := by
  unfold roundHalfEven
  dsimp only
  simp only [Bool.or_eq_true, decide_eq_true_eq, Bool.and_eq_true, beq_iff_eq]
  have hdiv := Nat.div_add_mod n d
  have hmod := Nat.mod_lt n hd
  generalize n / d = a at hdiv ⊢
  generalize n % d = b at hdiv hmod ⊢
  subst hdiv
  -- the ratio is `a` and `b / d` of a step: only `a = m` and `a + 1 = m` are within half
  have hsplit : ((d * a + b : Nat) : Int) - m * d = d * ((a : Int) - m) + b := by
    push_cast
    ring
  rw [hsplit] at h
  rcases Nat.lt_trichotomy a m with hlt | rfl | hgt
  · obtain rfl | hlt' : a + 1 = m ∨ a + 1 < m := by omega
    · have hb : (d : Int) * ((a : Int) - ((a + 1 : Nat) : Int)) + b = b - d := by push_cast; ring
      rw [hb, abs_of_neg (by omega)] at h
      rw [if_pos]
      rcases h with h | ⟨h, heven⟩
      · left
        omega
      · right
        omega
    · exfalso
      have hfar : (d : Int) * ((a : Int) - m) ≤ -(2 * d) := by
        have : (a : Int) - m ≤ -2 := by omega
        nlinarith
      rcases h with h | ⟨h, -⟩
      · rw [abs_of_neg (by omega)] at h
        omega
      · rw [abs_of_neg (by omega)] at h
        omega
  · have hb : (d : Int) * ((a : Int) - a) + b = b := by ring
    rw [hb, abs_of_nonneg (by omega)] at h
    rw [if_neg]
    rcases h with h | ⟨h, heven⟩
    · omega
    · omega
  · exfalso
    have hfar : (d : Int) ≤ (d : Int) * ((a : Int) - m) := by
      have : 1 ≤ (a : Int) - m := by omega
      nlinarith
    rcases h with h | ⟨h, -⟩
    · rw [abs_of_nonneg (by omega)] at h
      omega
    · rw [abs_of_nonneg (by omega)] at h
      omega

/-- Whether the rational `v` lies in the rounding interval `r` of a number with exponent `q`;
    the ends count when the interval is closed. -/
def RoundingInterval.Admits (r : RoundingInterval) (q : Int) (v : ℚ) : Prop :=
  ((r.low : ℚ) * 2 ^ (q - 2) < v ∨ (r.closed = true ∧ (r.low : ℚ) * 2 ^ (q - 2) = v)) ∧
    (v < (r.high : ℚ) * 2 ^ (q - 2) ∨ (r.closed = true ∧ v = (r.high : ℚ) * 2 ^ (q - 2)))

/-- A rational within half a unit of `M`, and at exactly half only when `M` is even, makes
    the scaled ratio round to `M`. -/
theorem roundHalfEven_scaleByPow2 {num den M : Nat} (hden : 0 < den) (q : Int)
    (h : |(num : ℚ) / den / 2 ^ q - M| < 1 / 2 ∨
      (|(num : ℚ) / den / 2 ^ q - M| = 1 / 2 ∧ M % 2 = 0)) :
    roundHalfEven (scaleByPow2 num den q).1 (scaleByPow2 num den q).2 = M := by
  obtain ⟨hpos, hratio⟩ := @scaleByPow2_ratio num den hden q
  generalize scaleByPow2 num den q = s at hpos hratio
  obtain ⟨n, d⟩ := s
  dsimp only at hpos hratio ⊢
  have hd : (0 : ℚ) < d := by exact_mod_cast hpos
  -- the distance to `M` in units of the denominator
  have hdist : |(num : ℚ) / den / 2 ^ q - M| = |((n : Int) - M * d : Int)| / d := by
    rw [← hratio]
    push_cast
    rw [div_sub' hd.ne', abs_div, abs_of_pos hd, mul_comm (d : ℚ)]
  rw [hdist] at h
  apply roundHalfEven_eq hpos
  rcases h with h | ⟨h, heven⟩
  · left
    rw [div_lt_iff₀ hd] at h
    have : ((2 * |(n : Int) - M * d| : Int) : ℚ) < (d : Int) := by push_cast at h ⊢; linarith
    exact_mod_cast this
  · right
    rw [div_eq_iff hd.ne'] at h
    refine ⟨?_, heven⟩
    have : ((2 * |(n : Int) - M * d| : Int) : ℚ) = (d : Int) := by push_cast at h ⊢; linarith
    exact_mod_cast this

theorem significand_lt (x : Binary64) : x.significand < 2 ^ 53 := by
  have := fractionField_lt x
  unfold significand
  split
  · omega
  · rw [Nat.pow_eq]
    omega

theorem minExponent_le_exponent (x : Binary64) : minExponent ≤ x.exponent := by
  unfold exponent
  split
  · exact le_rfl
  · rw [minExponent]
    omega

theorem exponent_le {x : Binary64} (hx : x.isFinite = true) : x.exponent ≤ 971 := by
  have hfin : x.exponentField ≠ 2047 := by simpa [isFinite] using hx
  have := exponentField_lt x
  unfold exponent
  split
  · simp [minExponent]
  · omega

/-- Above the least exponent a number is normal, with an exponent field above one. -/
theorem normal_of_minExponent_lt {x : Binary64} (h : minExponent < x.exponent) :
    1 < x.exponentField ∧ x.significand = x.fractionField + 2 ^ 52 := by
  unfold exponent at h
  split at h
  · exact absurd h (lt_irrefl _)
  · rename_i h0
    refine ⟨by rw [minExponent] at h; omega, ?_⟩
    simp [significand, h0]

/-- The rounding interval of a finite non-zero number, in units of its exponent: it reaches
    at most half a unit either side of the significand, and a quarter below at the bottom of
    a binade. -/
theorem roundingInterval_eq (x : Binary64) (hm : 0 < x.significand) :
    ((roundingInterval x).low : ℚ) = 4 * x.significand -
        (if x.fractionField = 0 ∧ 1 < x.exponentField then 1 else 2) ∧
      ((roundingInterval x).high : ℚ) = 4 * x.significand + 2 ∧
      (roundingInterval x).closed = (x.significand % 2 == 0) := by
  refine ⟨?_, by simp [roundingInterval], rfl⟩
  simp only [roundingInterval]
  split <;> push_cast [show 1 ≤ 4 * x.significand by omega, show 2 ≤ 4 * x.significand by omega] <;>
    ring

/-- A value in the rounding interval of a finite non-zero number `m * 2^q` is, measured in
    units of `2^q`, within half a unit of `m` (at exactly half only for an even `m`), below
    `2^53`, and at the bottom of a binade at most a quarter unit below `m`. -/
theorem near_of_admits {x : Binary64} (hm : 0 < x.significand) {v : ℚ}
    (h : (roundingInterval x).Admits x.exponent v) :
    (|v / 2 ^ x.exponent - x.significand| < 1 / 2 ∨
      (|v / 2 ^ x.exponent - x.significand| = 1 / 2 ∧ x.significand % 2 = 0)) ∧
    v / 2 ^ x.exponent < 2 ^ 53 ∧
    (x.fractionField = 0 ∧ 1 < x.exponentField → (x.significand : ℚ) - 1 / 4 ≤ v / 2 ^ x.exponent) := by
  obtain ⟨hlowEq, hhighEq, hclosed⟩ := roundingInterval_eq x hm
  have hP : (0 : ℚ) < 2 ^ x.exponent := by positivity
  have hquarter : (2 : ℚ) ^ (x.exponent - 2) = 2 ^ x.exponent / 4 := by
    rw [zpow_sub₀ two_ne_zero]
    norm_num
  -- the ends of the interval, moved to units of `2^q`
  have hscale : ∀ a : ℚ, a * 2 ^ (x.exponent - 2) = a / 4 * 2 ^ x.exponent := by
    intro a
    rw [hquarter]
    ring
  have hlt : ∀ a : ℚ, a * 2 ^ (x.exponent - 2) < v ↔ a / 4 < v / 2 ^ x.exponent := by
    intro a
    rw [hscale, lt_div_iff₀ hP]
  have hgt : ∀ a : ℚ, v < a * 2 ^ (x.exponent - 2) ↔ v / 2 ^ x.exponent < a / 4 := by
    intro a
    rw [hscale, div_lt_iff₀ hP]
  have heq : ∀ a : ℚ, a * 2 ^ (x.exponent - 2) = v ↔ a / 4 = v / 2 ^ x.exponent := by
    intro a
    rw [hscale, eq_div_iff hP.ne']
  have hmlt : (x.significand : ℚ) + 1 ≤ 2 ^ 53 := by exact_mod_cast significand_lt x
  have hmint : (1 : ℚ) ≤ x.significand := by exact_mod_cast hm
  obtain ⟨hlo, hhi⟩ := h
  rw [hlowEq, hclosed, hlt, heq] at hlo
  rw [hhighEq, hclosed, hgt, @eq_comm ℚ v, heq] at hhi
  simp only [beq_iff_eq] at hlo hhi
  set u := v / 2 ^ x.exponent
  set m : ℚ := (x.significand : ℚ)
  have hu : u ≤ m + 1 / 2 := by
    rcases hhi with h | ⟨-, h⟩ <;> linarith
  refine ⟨?_, by linarith, ?_⟩
  · by_cases hum : m ≤ u
    · rw [abs_of_nonneg (by linarith)]
      rcases hhi with h | ⟨heven, h⟩
      · left
        linarith
      · right
        exact ⟨by linarith, heven⟩
    · rw [abs_of_neg (by linarith)]
      split_ifs at hlo with hgap
      · left
        rcases hlo with h | ⟨-, h⟩ <;> linarith
      · rcases hlo with h | ⟨heven, h⟩
        · left
          linarith
        · right
          exact ⟨by linarith, heven⟩
  · intro hgap
    rw [if_pos hgap] at hlo
    rcases hlo with h | ⟨-, h⟩ <;> linarith

/-- Rounding at a number's own exponent a ratio within half a unit of its significand gives
    the number back. -/
theorem roundAt_self {x : Binary64} (hx : x.isFinite = true) {num den : Nat} (hden : 0 < den)
    (hnear : |(num : ℚ) / den / 2 ^ x.exponent - x.significand| < 1 / 2 ∨
      (|(num : ℚ) / den / 2 ^ x.exponent - x.significand| = 1 / 2 ∧ x.significand % 2 = 0)) :
    roundAt x.negative num den x.exponent = x := by
  have hround := roundHalfEven_scaleByPow2 hden x.exponent hnear
  have hne : x.significand ≠ Nat.pow 2 53 := by
    have := significand_lt x
    rw [Nat.pow_eq]
    omega
  simp only [roundAt, hround, if_neg hne]
  exact encode_self hx

/-- `roundRatio` is correctly rounded: a ratio in the rounding interval of a finite non-zero
    number rounds to that number, with its sign. -/
theorem roundRatio_eq_of_admits {x : Binary64} (hx : x.isFinite = true) (hm : 0 < x.significand)
    {num den : Nat} (hnum : 0 < num) (hden : 0 < den)
    (h : (roundingInterval x).Admits x.exponent ((num : ℚ) / den)) :
    roundRatio x.negative num den = x := by
  obtain ⟨hnear, hbelow, hquarter⟩ := near_of_admits hm h
  obtain ⟨e, hwin, hround⟩ := roundRatio_window x.negative hnum hden
  rw [hround]
  have hP : (0 : ℚ) < 2 ^ x.exponent := by positivity
  have hmin := minExponent_le_exponent x
  set u := (num : ℚ) / den / 2 ^ x.exponent with hu
  have hr : (num : ℚ) / den = u * 2 ^ x.exponent := by rw [hu, div_mul_cancel₀ _ hP.ne']
  -- `2^k * 2^q` as one power
  have hpow : ∀ k : Nat, (2 : ℚ) ^ (x.exponent + (k : Int)) = 2 ^ k * 2 ^ x.exponent := by
    intro k
    rw [zpow_add₀ two_ne_zero, zpow_natCast, mul_comm]
  by_cases hup : (2 : ℚ) ^ 52 ≤ u
  · -- the ratio is in the number's own binade
    have he : e = x.exponent := by
      refine window_unique hwin ⟨?_, ?_⟩
      · rw [hr, show x.exponent + 52 = x.exponent + ((52 : Nat) : Int) from rfl, hpow]
        exact mul_le_mul_of_nonneg_right hup hP.le
      · rw [hr, show x.exponent + 53 = x.exponent + ((53 : Nat) : Int) from rfl, hpow]
        exact mul_lt_mul_of_pos_right hbelow hP
    rw [he, max_eq_left hmin]
    exact roundAt_self hx hden hnear
  · push Not at hup
    have hlow : e < x.exponent := by
      have : (2 : ℚ) ^ (e + 52) < 2 ^ (x.exponent + 52) := by
        calc (2 : ℚ) ^ (e + 52) ≤ num / den := hwin.1
          _ = u * 2 ^ x.exponent := hr
          _ < 2 ^ 52 * 2 ^ x.exponent := mul_lt_mul_of_pos_right hup hP
          _ = 2 ^ (x.exponent + 52) := (hpow 52).symm
      have := (zpow_lt_zpow_iff_right₀ one_lt_two).1 this
      omega
    rcases eq_or_lt_of_le hmin with hq | hq
    · -- at the least exponent nothing is below: the ratio rounds there
      rw [max_eq_right (by omega), hq]
      exact roundAt_self hx hden hnear
    · -- the bottom of a binade, with the ratio just below it: it rounds up to `2^53` one
      -- exponent lower, which is the number again
      obtain ⟨hfield, hsig⟩ := normal_of_minExponent_lt hq
      have hm' : (x.significand : ℚ) = x.fractionField + 2 ^ 52 := by exact_mod_cast hsig
      have hfrac : x.fractionField = 0 := by
        have hnear' : (x.significand : ℚ) - 1 / 2 ≤ u := by
          rcases hnear with h | ⟨h, -⟩ <;> linarith [neg_abs_le (u - x.significand)]
        have : (x.fractionField : ℚ) < 1 := by linarith
        exact_mod_cast Nat.lt_one_iff.1 (by exact_mod_cast this)
      have hge : (2 : ℚ) ^ 52 - 1 / 4 ≤ u := by
        have := hquarter ⟨hfrac, hfield⟩
        rw [hm', hfrac] at this
        simpa using this
      have he : e = x.exponent - 1 := by
        refine window_unique hwin ⟨?_, ?_⟩
        · rw [hr, show x.exponent - 1 + 52 = x.exponent + ((51 : Nat) : Int) by push_cast; ring,
            hpow]
          exact mul_le_mul_of_nonneg_right (by linarith) hP.le
        · rw [hr, show x.exponent - 1 + 53 = x.exponent + ((52 : Nat) : Int) by push_cast; ring,
            hpow]
          exact mul_lt_mul_of_pos_right hup hP
      rw [he, max_eq_left (by rw [minExponent] at hq ⊢; omega)]
      have hdouble : (num : ℚ) / den / 2 ^ (x.exponent - 1) = 2 * u := by
        rw [hu, zpow_sub₀ two_ne_zero, zpow_one]
        field_simp
      have hdist : |(num : ℚ) / den / 2 ^ (x.exponent - 1) - ((2 ^ 53 : Nat) : ℚ)| ≤ 1 / 2 := by
        rw [hdouble, abs_of_neg (by push_cast; linarith)]
        push_cast
        linarith
      have hround53 := @roundHalfEven_scaleByPow2 num den (2 ^ 53) hden (x.exponent - 1)
        (by
          rcases hdist.lt_or_eq with hlt | heq
          · exact .inl hlt
          · exact .inr ⟨heq, by norm_num⟩)
      have hsig' : Nat.pow 2 52 = x.significand := by rw [hsig, hfrac, Nat.pow_eq, Nat.zero_add]
      simp only [roundAt, hround53, Nat.pow_eq, if_pos, sub_add_cancel]
      rw [← Nat.pow_eq, hsig']
      exact encode_self hx

end FilterQuery.Binary64

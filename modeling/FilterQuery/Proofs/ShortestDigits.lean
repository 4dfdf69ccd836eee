import FilterQuery.Proofs.CorrectRounding

/-!
# The shortest decimal lies in the rounding interval

`Binary64.shortest` looks, digit count by digit count, for a decimal inside the rounding
interval of a number. Every candidate it takes is checked to be inside with exact
comparisons (`holds_iff`), and at seventeen digits a candidate always exists: the decimal
grid there is finer than the interval is wide, so of the two grid points around the number
one is inside (`candidate_ne_none`). The search starts from `floorLog10`, whose power of ten
never exceeds the number (`ten_zpow_floorLog10_le`): the estimate `78913 / 2^18` of `log₁₀ 2`
is off by less than four over the whole exponent range, and the downward correction takes up
to four steps. Dropping trailing zeros keeps the value.

## Key results
- `compareScaled_eq`: the exact comparison of `k * 10^s` with `x * 2^p`
- `candidate_admits`, `candidate_ne_none`: what a candidate is, and when there is one
- `ten_zpow_floorLog10_le`: the starting power of ten is at most the number
- `shortest_admits`: the shortest decimal of a finite non-zero number is in its interval
-/

namespace FilterQuery.Binary64

/-- Multiplying both sides by a positive factor keeps a comparison. -/
theorem compare_mul_pos {a b c : ℚ} (hc : 0 < c) : compare (a * c) (b * c) = compare a b :=
  compare_strictMono (strictMono_mul_right_of_pos hc) a b

/-- `compareScaled` compares `k * 10^s` with `x * 2^p` exactly. -/
theorem compareScaled_eq (k : Nat) (s : Int) (x : Nat) (p : Int) :
    compareScaled k s x p = compare ((k : ℚ) * 10 ^ s) ((x : ℚ) * 2 ^ p) := by
  have h10 : (10 : ℚ) ^ s = 10 ^ (max s 0).toNat / 10 ^ (max (-s) 0).toNat := by
    rw [← zpow_natCast, ← zpow_natCast, ← zpow_sub₀ (by norm_num)]
    congr 1
    omega
  have h2 : (2 : ℚ) ^ p = 2 ^ (max p 0).toNat / 2 ^ (max (-p) 0).toNat := by
    rw [← zpow_natCast, ← zpow_natCast, ← zpow_sub₀ (by norm_num)]
    congr 1
    omega
  have hc : (0 : ℚ) < 10 ^ (max (-s) 0).toNat * 2 ^ (max (-p) 0).toNat := by positivity
  rw [← compare_mul_pos hc, compareScaled, h10, h2]
  simp only [Nat.pow_eq]
  rw [← compare_strictMono (Nat.strictMono_cast : StrictMono (Nat.cast : Nat → ℚ))]
  congr 1
  · push_cast
    field_simp
  · push_cast
    field_simp

/-- `holds` decides whether the decimal `k * 10^s` lies in the rounding interval. -/
theorem holds_iff (r : RoundingInterval) (q : Int) (k : Nat) (s : Int) :
    r.holds q k s = true ↔ r.Admits q ((k : ℚ) * 10 ^ s) := by
  unfold RoundingInterval.holds RoundingInterval.Admits
  simp only [compareScaled_eq, Bool.and_eq_true]
  apply and_congr
  · -- above the lower end, or on it when the ends count
    split <;> rename_i h
    · rw [compare_gt_iff_gt] at h
      simp [h]
    · rw [compare_eq_iff_eq] at h
      simp [h]
    · rw [compare_lt_iff_lt] at h
      simp [not_lt.2 h.le, h.ne']
  · -- below the upper end, or on it when the ends count
    split <;> rename_i h
    · rw [compare_lt_iff_lt] at h
      simp [h]
    · rw [compare_eq_iff_eq] at h
      simp [h]
    · rw [compare_gt_iff_gt] at h
      simp [not_lt.2 h.le, h.ne']

/-- `floorScaled m q s` is the number of whole steps `10^s` in `m * 2^q`. -/
theorem floorScaled_spec (m : Nat) (q s : Int) :
    ((floorScaled m q s : Nat) : ℚ) * 10 ^ s ≤ m * 2 ^ q ∧
      (m : ℚ) * 2 ^ q < ((floorScaled m q s : Nat) + 1) * 10 ^ s := by
  set A := m * 2 ^ (max q 0).toNat * 10 ^ (max (-s) 0).toNat
  set B := 2 ^ (max (-q) 0).toNat * 10 ^ (max s 0).toNat
  have hB : 0 < B := by positivity
  have hfloor : floorScaled m q s = A / B := by simp [floorScaled, A, B, Nat.pow_eq]
  have hratio : (A : ℚ) / B = m * 2 ^ q / 10 ^ s := by
    have h10 : (10 : ℚ) ^ s = 10 ^ (max s 0).toNat / 10 ^ (max (-s) 0).toNat := by
      rw [← zpow_natCast, ← zpow_natCast, ← zpow_sub₀ (by norm_num)]
      congr 1
      omega
    have h2 : (2 : ℚ) ^ q = 2 ^ (max q 0).toNat / 2 ^ (max (-q) 0).toNat := by
      rw [← zpow_natCast, ← zpow_natCast, ← zpow_sub₀ (by norm_num)]
      congr 1
      omega
    rw [h10, h2]
    simp only [A, B]
    push_cast
    field_simp
  have hBq : (0 : ℚ) < B := by exact_mod_cast hB
  have hs : (0 : ℚ) < 10 ^ s := by positivity
  have hlow : ((A / B : Nat) : ℚ) * B ≤ A := by exact_mod_cast Nat.div_mul_le_self A B
  have hhigh : (A : ℚ) < ((A / B : Nat) + 1) * B := by
    have := Nat.lt_mul_div_succ A hB
    rw [Nat.mul_comm] at this
    exact_mod_cast this
  -- divide the integer bounds by `B` and scale by `10^s`
  have hkey : ∀ c : ℚ, c * 10 ^ s ≤ m * 2 ^ q ↔ c ≤ A / B := by
    intro c
    rw [hratio, le_div_iff₀ hs]
  have hkey' : ∀ c : ℚ, (m : ℚ) * 2 ^ q < c * 10 ^ s ↔ A / B < c := by
    intro c
    rw [hratio, div_lt_iff₀ hs]
  rw [hfloor, hkey, hkey']
  exact ⟨(le_div_iff₀ hBq).2 hlow, (div_lt_iff₀ hBq).2 hhigh⟩

/-- A candidate is one of the two grid points around the number, and lies in its rounding
    interval. -/
theorem candidate_admits {x : Binary64} {e : Int} {d : Nat} {c : Decimal}
    (h : candidate x e d = some c) :
    (roundingInterval x).Admits x.exponent ((c.digits : ℚ) * 10 ^ c.exponent) := by
  unfold candidate at h
  dsimp only at h
  generalize floorScaled x.significand x.exponent (e - d + 1) = k at h
  generalize e - d + 1 = s at h
  have hk := holds_iff (roundingInterval x) x.exponent k s
  have hk' := holds_iff (roundingInterval x) x.exponent (k + 1) s
  by_cases hboth : ((roundingInterval x).holds x.exponent k s &&
      (roundingInterval x).holds x.exponent (k + 1) s) = true
  · -- both grid points are in: the nearer one is taken, or the even one at a tie
    rw [if_pos hboth] at h
    rw [Bool.and_eq_true] at hboth
    split at h
    · cases h
      exact hk.1 hboth.1
    · cases h
      exact hk'.1 hboth.2
    · split at h <;> cases h
      · exact hk.1 hboth.1
      · exact hk'.1 hboth.2
  · rw [if_neg hboth] at h
    by_cases hdown : (roundingInterval x).holds x.exponent k s = true
    · rw [if_pos hdown] at h
      cases h
      exact hk.1 hdown
    · rw [if_neg hdown] at h
      by_cases hup : (roundingInterval x).holds x.exponent (k + 1) s = true
      · rw [if_pos hup] at h
        cases h
        exact hk'.1 hup
      · rw [if_neg hup] at h
        cases h

/-- A candidate is found when either grid point around the number is in its interval. -/
theorem candidate_ne_none_of_holds {x : Binary64} {e : Int} {d : Nat}
    (h : (roundingInterval x).holds x.exponent
          (floorScaled x.significand x.exponent (e - d + 1)) (e - d + 1) = true ∨
        (roundingInterval x).holds x.exponent
          (floorScaled x.significand x.exponent (e - d + 1) + 1) (e - d + 1) = true) :
    candidate x e d ≠ none := by
  unfold candidate
  dsimp only
  generalize floorScaled x.significand x.exponent (e - d + 1) = k at h
  generalize e - d + 1 = s at h
  intro hnone
  by_cases hboth : ((roundingInterval x).holds x.exponent k s &&
      (roundingInterval x).holds x.exponent (k + 1) s) = true
  · rw [if_pos hboth] at hnone
    split at hnone
    · cases hnone
    · cases hnone
    · split at hnone <;> cases hnone
  · rw [if_neg hboth] at hnone
    rcases h with hdown | hup
    · rw [if_pos hdown] at hnone
      cases hnone
    · by_cases hdown : (roundingInterval x).holds x.exponent k s = true
      · rw [if_pos hdown] at hnone
        cases hnone
      · rw [if_neg hdown, if_pos hup] at hnone
        cases hnone

/-- On a grid finer than the rounding interval is wide, one of the two grid points around the
    number lies in the interval, so a candidate is found. -/
theorem candidate_ne_none {x : Binary64} (hm : 0 < x.significand) {e : Int} {d : Nat}
    (hunit : (10 : ℚ) ^ (e - d + 1) <
      (((roundingInterval x).high : ℚ) - (roundingInterval x).low) * 2 ^ (x.exponent - 2)) :
    candidate x e d ≠ none := by
  apply candidate_ne_none_of_holds
  obtain ⟨hlowEq, hhighEq, -⟩ := roundingInterval_eq x hm
  obtain ⟨hk, hk1⟩ := floorScaled_spec x.significand x.exponent (e - d + 1)
  generalize floorScaled x.significand x.exponent (e - d + 1) = k at hk hk1 ⊢
  generalize e - d + 1 = s at hk hk1 hunit ⊢
  rw [holds_iff, holds_iff]
  -- the number lies strictly inside its interval
  have hP : (0 : ℚ) < 2 ^ (x.exponent - 2) := by positivity
  have hvalue : (x.significand : ℚ) * 2 ^ x.exponent = 4 * x.significand * 2 ^ (x.exponent - 2) := by
    rw [zpow_sub₀ two_ne_zero]
    field_simp
    norm_num
  have hinLow : ((roundingInterval x).low : ℚ) * 2 ^ (x.exponent - 2) <
      x.significand * 2 ^ x.exponent := by
    rw [hvalue, hlowEq]
    apply mul_lt_mul_of_pos_right _ hP
    split <;> linarith
  have hinHigh : (x.significand : ℚ) * 2 ^ x.exponent <
      ((roundingInterval x).high : ℚ) * 2 ^ (x.exponent - 2) := by
    rw [hvalue, hhighEq]
    exact mul_lt_mul_of_pos_right (by linarith) hP
  by_cases hdown : ((roundingInterval x).low : ℚ) * 2 ^ (x.exponent - 2) < k * 10 ^ s
  · exact .inl ⟨.inl hdown, .inl (hk.trans_lt hinHigh)⟩
  · -- the lower grid point is at or below the lower end, so the upper one is within a step
    push Not at hdown
    right
    push_cast
    refine ⟨.inl (hinLow.trans hk1), .inl ?_⟩
    calc ((k : ℚ) + 1) * 10 ^ s = k * 10 ^ s + 10 ^ s := by ring
      _ < (roundingInterval x).low * 2 ^ (x.exponent - 2) +
          (((roundingInterval x).high : ℚ) - (roundingInterval x).low) * 2 ^ (x.exponent - 2) :=
        add_lt_add_of_le_of_lt hdown hunit
      _ = (roundingInterval x).high * 2 ^ (x.exponent - 2) := by ring

/-- The search over digit counts returns a candidate, and so a decimal in the rounding
    interval, when some count it reaches has one. -/
theorem searchDigits_admits {x : Binary64} {e : Int} {D : Nat} (hD : candidate x e D ≠ none) :
    ∀ (fuel d : Nat), d ≤ D → D < d + fuel →
      (roundingInterval x).Admits x.exponent
        (((searchDigits x e fuel d).digits : ℚ) * 10 ^ (searchDigits x e fuel d).exponent) := by
  intro fuel
  induction fuel with
  | zero => intro d h₁ h₂; omega
  | succ fuel ih =>
    intro d h₁ h₂
    rw [searchDigits]
    split
    · rename_i c hc
      exact candidate_admits hc
    · rename_i hnone
      have hne : d ≠ D := by
        rintro rfl
        exact hD hnone
      exact ih (d + 1) (by omega) (by omega)

/-- Dropping trailing zeros keeps the value of a decimal. -/
theorem normalize_value (d : Decimal) :
    (d.normalize.digits : ℚ) * 10 ^ d.normalize.exponent = d.digits * 10 ^ d.exponent := by
  induction hn : d.digits using Nat.strong_induction_on generalizing d with
  | _ n ih =>
    rw [Decimal.normalize]
    split
    · rename_i h
      have hlt : d.digits / 10 < n := by omega
      rw [ih _ hlt ⟨d.digits / 10, d.exponent + 1⟩ rfl, ← hn]
      obtain ⟨j, hj⟩ : 10 ∣ d.digits := Nat.dvd_of_mod_eq_zero h.2
      rw [hj, Nat.mul_div_cancel_left _ (by norm_num), zpow_add₀ (by norm_num)]
      push_cast
      ring
    · rw [hn]

section Log10

variable {m : Nat} {q : Int}

/-- Stepping the guess down stops at a power of ten at most `m * 2^q`, when the steps allowed
    reach one. -/
theorem lowerLog10_le : ∀ (fuel : Nat) (e : Int), (10 : ℚ) ^ (e - fuel) ≤ m * 2 ^ q →
    (10 : ℚ) ^ lowerLog10 m q fuel e ≤ m * 2 ^ q
  | 0, e, h => by simpa [lowerLog10] using h
  | fuel + 1, e, h => by
    rw [lowerLog10]
    split
    · apply lowerLog10_le fuel (e - 1)
      rw [show e - 1 - (fuel : Int) = e - ((fuel + 1 : Nat) : Int) by push_cast; ring]
      exact h
    · rename_i hle
      rw [beq_iff_eq, compareScaled_eq, Nat.cast_one, one_mul, compare_gt_iff_gt, not_lt] at hle
      exact hle

/-- Stepping the guess up keeps it a power of ten at most `m * 2^q`. -/
theorem raiseLog10_le : ∀ (fuel : Nat) (e : Int), (10 : ℚ) ^ e ≤ m * 2 ^ q →
    (10 : ℚ) ^ raiseLog10 m q fuel e ≤ m * 2 ^ q
  | 0, e, h => by simpa [raiseLog10] using h
  | fuel + 1, e, h => by
    rw [raiseLog10]
    split
    · exact h
    · rename_i hle
      rw [beq_iff_eq, compareScaled_eq, Nat.cast_one, one_mul, compare_gt_iff_gt, not_lt] at hle
      exact raiseLog10_le fuel (e + 1) hle

/-- `78913 / 2^18` is just below `log₁₀ 2`. -/
theorem ten_pow_le_two_pow : 10 ^ 78913 ≤ 2 ^ 262144 := by decide +kernel

theorem two_pow_le_ten_pow : 2 ^ 262144 ≤ 10 ^ 78914 := by decide +kernel

/-- The guess from the binary exponent, less four, is a power of ten below `2^E`: the ratio
    `78913 / 2^18` errs by less than `10^-6` per unit of `E`. -/
theorem ten_zpow_guess_le {E : Int} (hE : -1074 ≤ E) :
    (10 : ℚ) ^ (Int.fdiv (E * 78913) 262144 - 4) ≤ 2 ^ E := by
  rw [Int.fdiv_eq_ediv, if_pos (.inl (by norm_num)), Int.sub_zero]
  have hG := Int.ediv_mul_le (E * 78913) (show (262144 : Int) ≠ 0 by norm_num)
  generalize E * 78913 / 262144 = G at hG
  rcases le_or_gt 0 E with hpos | hneg
  · obtain ⟨n, rfl⟩ := Int.eq_ofNat_of_zero_le hpos
    rcases lt_or_ge (G - 4) 0 with hsmall | hbig
    · calc (10 : ℚ) ^ (G - 4) ≤ 1 := zpow_le_one_of_nonpos₀ (by norm_num) hsmall.le
        _ ≤ 2 ^ (n : Int) := one_le_zpow₀ (by norm_num) (by omega)
    · obtain ⟨a, ha⟩ := Int.eq_ofNat_of_zero_le hbig
      rw [ha, zpow_natCast, zpow_natCast]
      -- `(10^a)^(2^18) ≤ 10^(78913 n) ≤ (2^n)^(2^18)`
      have hpow : (10 ^ a) ^ 262144 ≤ (2 ^ n) ^ 262144 := by
        calc (10 ^ a) ^ 262144 = 10 ^ (262144 * a) := by rw [← Nat.pow_mul, Nat.mul_comm]
          _ ≤ 10 ^ (78913 * n) := Nat.pow_le_pow_right (by norm_num) (by omega)
          _ = (10 ^ 78913) ^ n := Nat.pow_mul 10 78913 n
          _ ≤ (2 ^ 262144) ^ n := Nat.pow_le_pow_left ten_pow_le_two_pow n
          _ = (2 ^ n) ^ 262144 := by rw [← Nat.pow_mul, ← Nat.pow_mul, Nat.mul_comm]
      have h10 : 10 ^ a ≤ 2 ^ n := (Nat.pow_le_pow_iff_left (by norm_num)).1 hpow
      exact_mod_cast h10
  · obtain ⟨n, hn⟩ := Int.exists_eq_neg_ofNat hneg.le
    subst hn
    obtain ⟨b, hb⟩ := Int.eq_ofNat_of_zero_le (show 0 ≤ 4 - G by omega)
    have hGb : G - 4 = -(b : Int) := by omega
    rw [hGb, zpow_neg, zpow_neg, zpow_natCast, zpow_natCast]
    -- `(2^n)^(2^18) ≤ 10^(78914 n) ≤ (10^b)^(2^18)`
    have hpow : (2 ^ n) ^ 262144 ≤ (10 ^ b) ^ 262144 := by
      calc (2 ^ n) ^ 262144 = (2 ^ 262144) ^ n := by rw [← Nat.pow_mul, ← Nat.pow_mul, Nat.mul_comm]
        _ ≤ (10 ^ 78914) ^ n := Nat.pow_le_pow_left two_pow_le_ten_pow n
        _ = 10 ^ (78914 * n) := (Nat.pow_mul 10 78914 n).symm
        _ ≤ 10 ^ (262144 * b) := Nat.pow_le_pow_right (by norm_num) (by omega)
        _ = (10 ^ b) ^ 262144 := by rw [← Nat.pow_mul, Nat.mul_comm]
    have h2b : 2 ^ n ≤ 10 ^ b := (Nat.pow_le_pow_iff_left (by norm_num)).1 hpow
    have h2b' : ((2 : ℚ) ^ n) ≤ 10 ^ b := by exact_mod_cast h2b
    exact inv_anti₀ (by positivity) h2b'

/-- The power of ten `floorLog10` finds is at most the number `m * 2^q`. -/
theorem ten_zpow_floorLog10_le (hm : 0 < m) (hq : -1074 ≤ q) :
    (10 : ℚ) ^ floorLog10 m q ≤ m * 2 ^ q := by
  unfold floorLog10
  dsimp only
  apply raiseLog10_le
  apply lowerLog10_le
  have hlog := (log2_bounds hm).1
  calc (10 : ℚ) ^ (Int.fdiv ((q + (m.log2 : Int)) * 78913) 262144 - ((4 : Nat) : Int))
      ≤ 2 ^ (q + (m.log2 : Int)) := ten_zpow_guess_le (by omega)
    _ = 2 ^ (m.log2 : Int) * 2 ^ q := by rw [zpow_add₀ two_ne_zero, mul_comm]
    _ ≤ m * 2 ^ q := mul_le_mul_of_nonneg_right hlog (by positivity)

end Log10

/-- At seventeen digits the decimal grid is finer than the rounding interval is wide: a step
    is at most `m * 2^q / 10^16`, below `2^q` for every significand, and below three quarters
    of `2^q` for the significand `2^52` at the bottom of a binade. -/
theorem seventeen_digits_fit {x : Binary64} (hm : 0 < x.significand) {e : Int}
    (he : (10 : ℚ) ^ e ≤ x.significand * 2 ^ x.exponent) :
    (10 : ℚ) ^ (e - ((17 : Nat) : Int) + 1) <
      (((roundingInterval x).high : ℚ) - (roundingInterval x).low) * 2 ^ (x.exponent - 2) := by
  obtain ⟨hlowEq, hhighEq, -⟩ := roundingInterval_eq x hm
  have hP : (0 : ℚ) < 2 ^ x.exponent := by positivity
  have hquarter : (2 : ℚ) ^ (x.exponent - 2) = 2 ^ x.exponent / 4 := by
    rw [zpow_sub₀ two_ne_zero]
    norm_num
  have hstep : (10 : ℚ) ^ (e - ((17 : Nat) : Int) + 1) ≤ x.significand * 2 ^ x.exponent / 10 ^ 16 := by
    rw [show e - ((17 : Nat) : Int) + 1 = e - 16 by push_cast; ring, zpow_sub₀ (by norm_num)]
    exact div_le_div_of_nonneg_right he (by positivity)
  refine hstep.trans_lt ?_
  rw [hlowEq, hhighEq, hquarter, div_lt_iff₀ (by positivity)]
  split
  · -- the bottom of a binade: the significand is `2^52`
    rename_i hgap
    have hsig : (x.significand : ℚ) = 2 ^ 52 := by
      obtain ⟨-, hsig⟩ := normal_of_minExponent_lt (x := x) (by
        unfold exponent
        rw [if_neg (by omega), minExponent]
        omega)
      rw [hsig, hgap.1]
      norm_num
    rw [hsig]
    nlinarith
  · have hsig : (x.significand : ℚ) + 1 ≤ 2 ^ 53 := by exact_mod_cast significand_lt x
    nlinarith

/-- The shortest decimal of a finite non-zero number lies in its rounding interval. -/
theorem shortest_admits {x : Binary64} (hm : 0 < x.significand) :
    (roundingInterval x).Admits x.exponent
      (((shortest x).digits : ℚ) * 10 ^ (shortest x).exponent) := by
  unfold shortest
  dsimp only
  rw [if_neg hm.ne', normalize_value]
  have hlog := ten_zpow_floorLog10_le hm (minExponent_le_exponent x)
  exact searchDigits_admits (candidate_ne_none hm (seventeen_digits_fit hm hlog)) 17 1
    (by norm_num) (by norm_num)

end FilterQuery.Binary64

import FilterQuery.Proofs.Binary64Value
import FilterQuery.Emit.Mask

/-!
# Numbers compare by their exact values within `±2^53`

A cell and a literal that are both numbers are compared through binary64: an integer that
meets a float is first turned into the nearest float (`Binary64.ofInt`). Every integer within
`±2^53` is a float, so on such integers and on finite floats a comparison is that of the
exact values, as rationals: `=`, `!=`, the ordering operators, `BETWEEN` and `IN` all decide
the relation of the numbers themselves. Beyond `2^53` neighbouring integers meet one float,
and `2^53 + 1` compares equal to the float `2^53`.

## Key results
- `Cell.compare?_exact`, `Cell.equals_exact`: two exact numbers compare as their values
- `Mask.compareCell_exact`: each comparison operator tests the relation of the values
- `Mask.leafHolds_exact_numbers`: comparisons, `BETWEEN` and `IN` on exact numbers
- `Cell.compare?_int_above_two_pow_53`: `2^53 + 1` compares equal to the float `2^53`
-/

namespace FilterQuery

open Query

/-- Whether two values stand in the relation a comparison operator names, the first value
    on the operator's left. -/
def Query.CompareOp.test {α : Type*} [LinearOrder α] : CompareOp → α → α → Bool
  | .eq, x, y => decide (x = y)
  | .ne, x, y => decide (x ≠ y)
  | .gt, x, y => decide (y < x)
  | .lt, x, y => decide (x < y)
  | .ge, x, y => decide (y ≤ x)
  | .le, x, y => decide (x ≤ y)

namespace Cell

/-- A number whose value binary64 holds exactly, and that value: an integer within `±2^53`,
    or a finite float. -/
inductive ExactNumber : Literal → ℚ → Prop
  | int {a : Int} : a.natAbs ≤ 2 ^ 53 → ExactNumber (.int a) a
  | float {x : Binary64} : x.isFinite = true → ExactNumber (.float x) x.toRat

/-- Two exact numbers compare as their values: two integers directly, and through binary64
    otherwise, where an integer within `±2^53` is a float already. -/
theorem compare?_exact {c v : Literal} {x y : ℚ} (hc : ExactNumber c x)
    (hv : ExactNumber v y) : compare? c v = some (compare x y) := by
  cases hc with
  | int ha =>
    cases hv with
    | int hb =>
      simp only [compare?]
      rw [Binary64.compare_strictMono Int.cast_strictMono]
    | float hy =>
      simp only [compare?]
      rw [Binary64.compare?_eq_compare_toRat (Binary64.scaled_ofInt ha).1 hy,
        Binary64.toRat_ofInt ha]
  | float hx =>
    cases hv with
    | int hb =>
      simp only [compare?]
      rw [Binary64.compare?_eq_compare_toRat hx (Binary64.scaled_ofInt hb).1,
        Binary64.toRat_ofInt hb]
    | float hy =>
      simp only [compare?]
      rw [Binary64.compare?_eq_compare_toRat hx hy]

theorem equals_exact {c v : Literal} {x y : ℚ} (hc : ExactNumber c x)
    (hv : ExactNumber v y) : equals c v = decide (x = y) := by
  -- a number is not `NULL`, so equality is the order's `eq`
  have hnull : equals c v = (compare? c v == some .eq) := by
    cases hc <;> rfl
  rw [hnull, compare?_exact hc hv, Bool.eq_iff_iff, beq_iff_eq, Option.some.injEq,
    compare_eq_iff_eq, decide_eq_true_iff]

/-- `IN` over exact numbers: the cell equals one of them exactly when its value is one of
    theirs. -/
theorem any_equals_exact {c : Literal} {x : ℚ} (hc : ExactNumber c x) {vs : List Literal}
    {ys : List ℚ} (h : List.Forall₂ ExactNumber vs ys) : vs.any (equals c) = decide (x ∈ ys) := by
  induction h with
  | nil => simp
  | cons hv _ ih => simp [equals_exact hc hv, ih]

/-- Beyond `2^53` the rounding shows: the integer `2^53 + 1` has the float `2^53` as its
    nearest float (a tie, broken to the even significand), and compares equal to it though
    it is the greater number. -/
theorem compare?_int_above_two_pow_53 :
    compare? (.int (2 ^ 53 + 1)) (.float ⟨0x4340000000000000⟩) = some .eq ∧
      compare (((2 ^ 53 + 1 : Int)) : ℚ) (Binary64.toRat ⟨0x4340000000000000⟩) = .gt := by
  have hscaled : (⟨0x4340000000000000⟩ : Binary64).scaled = 2 ^ 53 * 2 ^ 1074 := by
    decide +kernel
  have hvalue : Binary64.toRat ⟨0x4340000000000000⟩ = 2 ^ 53 := by
    rw [Binary64.toRat, hscaled]
    push_cast
    field_simp
    norm_num
  refine ⟨by decide +kernel, ?_⟩
  rw [hvalue, compare_gt_iff_gt]
  push_cast
  norm_num

end Cell

namespace Mask

/-- On exact numbers every comparison operator tests the relation of the values. -/
theorem compareCell_exact {c v : Literal} {x y : ℚ} (hc : Cell.ExactNumber c x)
    (hv : Cell.ExactNumber v y) (op : CompareOp) : compareCell c op v = op.test x y := by
  have hcmp := Cell.compare?_exact hc hv
  have heq := Cell.equals_exact hc hv
  -- the order of the two values decides every operator
  rcases lt_trichotomy x y with h | h | h
  · have ho : compare x y = .lt := compare_lt_iff_lt.2 h
    cases op <;> simp [compareCell, CompareOp.test, hcmp, heq, ho, h, h.ne, h.le, not_lt.2 h.le]
  · obtain rfl := h
    cases op <;> simp [compareCell, CompareOp.test, hcmp, heq]
  · have ho : compare x y = .gt := compare_gt_iff_gt.2 h
    cases op <;> simp [compareCell, CompareOp.test, hcmp, heq, ho, h, h.ne', h.le, not_lt.2 h.le]

/-- A cell that is an exact number meets every comparison, `BETWEEN` and `IN` with exact
    numbers as its value meets theirs: the comparison is of the values, `BETWEEN` holds when
    the value lies between the ends, and `IN` when it is one of the values listed; a negated
    leaf flips each answer. -/
theorem leafHolds_exact_numbers {c : Literal} {x : ℚ} (hc : Cell.ExactNumber c x)
    (pats : Patterns) (field : String) :
    (∀ v y, Cell.ExactNumber v y → Cell.compare? c v = some (compare x y) ∧
        ∀ op, leafHolds pats (.compare field op v) c = op.test x y) ∧
      (∀ lo hi ylo yhi n, Cell.ExactNumber lo ylo → Cell.ExactNumber hi yhi →
        leafHolds pats (.between field lo hi n) c =
          ((decide (ylo ≤ x) && decide (x ≤ yhi)) != n)) ∧
      ∀ vs ys n, List.Forall₂ Cell.ExactNumber vs ys →
        leafHolds pats (.member field vs n) c = (decide (x ∈ ys) != n) := by
  refine ⟨fun v y hv => ⟨Cell.compare?_exact hc hv, fun op => ?_⟩,
    fun lo hi ylo yhi n hlo hhi => ?_, fun vs ys n h => ?_⟩
  · exact compareCell_exact hc hv op
  · rw [leafHolds, compareCell_exact hc hlo, compareCell_exact hc hhi]
    rfl
  · rw [leafHolds, Cell.any_equals_exact hc h]

theorem leafHolds_exact_numbers_small_int :
    Cell.ExactNumber (.int 2) ((2 : Int) : ℚ) ∧
      (∀ v y, Cell.ExactNumber v y → Cell.compare? (.int 2) v = some (compare ((2 : Int) : ℚ) y) ∧
          ∀ op, leafHolds [] (.compare "x" op v) (.int 2) = op.test ((2 : Int) : ℚ) y) ∧
        (∀ lo hi ylo yhi n, Cell.ExactNumber lo ylo → Cell.ExactNumber hi yhi →
          leafHolds [] (.between "x" lo hi n) (.int 2) =
            ((decide (ylo ≤ ((2 : Int) : ℚ)) && decide (((2 : Int) : ℚ) ≤ yhi)) != n)) ∧
        ∀ vs ys n, List.Forall₂ Cell.ExactNumber vs ys →
          leafHolds [] (.member "x" vs n) (.int 2) = (decide (((2 : Int) : ℚ) ∈ ys) != n) :=
  ⟨.int (by decide), leafHolds_exact_numbers (.int (by decide)) [] "x"⟩

end Mask

end FilterQuery

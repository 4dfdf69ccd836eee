import Mathlib
import FilterQuery.Date.Basic

/-!
# The calendar as a count of days

`CivilDate.ofDays` finds the date `z` days after 1970-01-01 the way the civil-from-days
algorithm does: it counts from 0000-03-01, cuts the count into eras of 400 years
(146097 days), finds the year of the era by a closed formula (`yearOfEra`), and the month
and day from the day of that year, the year starting in March so that a leap day ends it.

Every date it gives exists (`ofDays_isValid`), and counting the days of that date again gives
`z` back (`toDays_ofDays`). Both rest on one fact about an era: the formula finds the year
whose first day (`yearStart`) is the last one not after the given day, and the day of that
year is 365 only in a year that ends with a leap day (`ofDays_parts`). The formula is
monotone, and meets each of the 400 year starts of an era exactly; a year starts 365 days
after the one before, or 366 after a leap day.

## Key results
- `yearOfEra_mono`, `yearOfEra_yearStart`: the year formula
- `ofDays_parts`: the era, year and day of year of a count of days
- `ofDays_isValid`: every date of the count exists
- `toDays_ofDays`: the count of days of `ofDays z` is `z`
-/

namespace FilterQuery.CivilDate

/-- The year of an era, 0 to 399, that holds the `doe`-th day of the era, each year starting
    on 1 March. -/
def yearOfEra (doe : Int) : Int := (doe - doe / 1460 + doe / 36524 - doe / 146096) / 365

/-- The day of an era on which its `yoe`-th year starts. -/
def yearStart (yoe : Int) : Int := 365 * yoe + yoe / 4 - yoe / 100

/-- The year formula never goes back within an era. -/
theorem yearOfEra_mono {a b : Int} (ha : 0 ≤ a) (hab : a ≤ b) (hb : b ≤ 146096) :
    yearOfEra a ≤ yearOfEra b := by
  unfold yearOfEra
  apply Int.ediv_le_ediv (by norm_num)
  -- the days less the leap days before them grow with the day; only the era's last day is a
  -- multiple of 146096
  have hq : a / 36524 ≤ b / 36524 := Int.ediv_le_ediv (by norm_num) hab
  rcases lt_or_eq_of_le hb with hb | rfl
  · have ha' : a / 146096 = 0 := Int.ediv_eq_zero_of_lt ha (by omega)
    have hb' : b / 146096 = 0 := Int.ediv_eq_zero_of_lt (by omega) hb
    omega
  · omega

theorem yearOfEra_bounds {doe : Int} (h₀ : 0 ≤ doe) (h₁ : doe ≤ 146096) :
    0 ≤ yearOfEra doe ∧ yearOfEra doe ≤ 399 := by
  unfold yearOfEra
  omega

/-- The year formula meets the first day of each year of an era, and the day before it. -/
theorem yearOfEra_yearStart_nat : ∀ n : Nat, n < 400 →
    yearOfEra (yearStart n) = n ∧ (0 < n → yearOfEra (yearStart n - 1) = n - 1) := by
  unfold yearOfEra yearStart
  decide +kernel

theorem yearOfEra_yearStart {y : Int} (h₀ : 0 ≤ y) (h₁ : y ≤ 399) :
    yearOfEra (yearStart y) = y ∧ (0 < y → yearOfEra (yearStart y - 1) = y - 1) := by
  obtain ⟨n, rfl⟩ := Int.eq_ofNat_of_zero_le h₀
  simpa using yearOfEra_yearStart_nat n (by omega)

/-- A year of an era is 365 days long, or 366 when the next year is divisible by four and not
    by a hundred; the era's last year ends with the leap day of a year divisible by 400. -/
theorem yearStart_succ (y : Int) :
    yearStart (y + 1) = yearStart y + 365 +
      (if (y + 1) % 4 = 0 ∧ (y + 1) % 100 ≠ 0 then 1 else 0) := by
  unfold yearStart
  split_ifs <;> omega

/-- The year of a day of an era starts on or before it, at most 365 days before. -/
theorem yearStart_yearOfEra {doe : Int} (h₀ : 0 ≤ doe) (h₁ : doe ≤ 146096) :
    yearStart (yearOfEra doe) ≤ doe ∧ doe ≤ yearStart (yearOfEra doe) + 365 := by
  obtain ⟨hy₀, hy₁⟩ := yearOfEra_bounds h₀ h₁
  obtain ⟨hy, hpred⟩ := yearOfEra_yearStart hy₀ hy₁
  constructor
  · -- a day before the start of its year would belong to the year before
    by_contra hlt
    have hpos : 0 < yearOfEra doe := by
      by_contra hz
      unfold yearStart at hlt
      omega
    have hmono := yearOfEra_mono h₀ (by omega : doe ≤ yearStart (yearOfEra doe) - 1)
      (by unfold yearStart; omega)
    rw [hpred hpos] at hmono
    omega
  · -- a day 366 days after the start of its year would belong to the next year
    by_contra hlt
    have hlast : yearOfEra doe < 399 := by
      by_contra h399
      unfold yearStart at hlt
      omega
    obtain ⟨hnext, -⟩ := yearOfEra_yearStart (by omega : 0 ≤ yearOfEra doe + 1) (by omega)
    have hstep := yearStart_succ (yearOfEra doe)
    have hmono := yearOfEra_mono (by unfold yearStart; omega)
      (by split_ifs at hstep <;> omega : yearStart (yearOfEra doe + 1) ≤ doe) h₁
    rw [hnext] at hmono
    omega

/-- The 366th day of a year of an era falls only in a year that ends with a leap day: its
    next year is divisible by four, and by four hundred when by a hundred. -/
theorem leap_of_dayOfYear {doe : Int} (h₀ : 0 ≤ doe) (h₁ : doe ≤ 146096)
    (h : doe - yearStart (yearOfEra doe) = 365) :
    (yearOfEra doe + 1) % 4 = 0 ∧ ((yearOfEra doe + 1) % 100 ≠ 0 ∨ yearOfEra doe = 399) := by
  obtain ⟨hy₀, hy₁⟩ := yearOfEra_bounds h₀ h₁
  by_contra hleap
  -- otherwise the next year of the era has started by `doe`
  have hlast : yearOfEra doe < 399 := by omega
  have hstep := yearStart_succ (yearOfEra doe)
  rw [if_neg (by omega)] at hstep
  obtain ⟨hnext, -⟩ := yearOfEra_yearStart (by omega : 0 ≤ yearOfEra doe + 1) (by omega)
  have hmono := yearOfEra_mono (by unfold yearStart; omega)
    (by omega : yearStart (yearOfEra doe + 1) ≤ doe) h₁
  rw [hnext] at hmono
  omega

/-- The era, year of the era and day of the year that `ofDays` finds for a count of days, and
    the date it builds from them. -/
theorem ofDays_parts (z : Int) : ∃ era yoe doy : Int,
    z + 719468 = era * 146097 + yearStart yoe + doy ∧ 0 ≤ yoe ∧ yoe ≤ 399 ∧ 0 ≤ doy ∧
      doy ≤ 365 ∧ (doy = 365 → (yoe + 1) % 4 = 0 ∧ ((yoe + 1) % 100 ≠ 0 ∨ yoe = 399)) ∧
      ofDays z =
        let mp := (5 * doy + 2) / 153
        let m := if mp < 10 then mp + 3 else mp - 9
        ⟨if m ≤ 2 then yoe + era * 400 + 1 else yoe + era * 400, m.toNat,
          (doy - (153 * mp + 2) / 5 + 1).toNat⟩ := by
  have h₀ : 0 ≤ z + 719468 - (z + 719468) / 146097 * 146097 := by omega
  have h₁ : z + 719468 - (z + 719468) / 146097 * 146097 ≤ 146096 := by omega
  obtain ⟨hy₀, hy₁⟩ := yearOfEra_bounds h₀ h₁
  obtain ⟨hs, hs'⟩ := yearStart_yearOfEra h₀ h₁
  refine ⟨(z + 719468) / 146097, yearOfEra (z + 719468 - (z + 719468) / 146097 * 146097),
    z + 719468 - (z + 719468) / 146097 * 146097 -
      yearStart (yearOfEra (z + 719468 - (z + 719468) / 146097 * 146097)),
    by omega, hy₀, hy₁, by omega, by omega, leap_of_dayOfYear h₀ h₁, rfl⟩

theorem isLeapYear_iff (y : Int) :
    isLeapYear y = true ↔ y % 4 = 0 ∧ (y % 100 ≠ 0 ∨ y % 400 = 0) := by
  simp [isLeapYear]

/-- Every date the count of days gives exists. -/
theorem ofDays_isValid (z : Int) : (ofDays z).isValid = true := by
  obtain ⟨era, yoe, doy, -, hy₀, hy₁, hd₀, hd₁, hleap, hdate⟩ := ofDays_parts z
  rw [hdate]
  dsimp only
  generalize hmp : (5 * doy + 2) / 153 = mp
  have hmp₀ : 0 ≤ mp := by omega
  have hmp₁ : mp ≤ 11 := by omega
  rcases (by omega : mp < 11 ∨ mp = 11) with hlt | rfl
  · -- March to January, whose lengths do not depend on the year
    interval_cases mp <;> simp [isValid, daysInMonth] <;> omega
  · -- February: its 29th day is the 366th day of a year that ends with a leap day
    simp [isValid, daysInMonth]
    split_ifs with hly
    · omega
    · rw [isLeapYear_iff] at hly
      omega

/-- Counting the days of the date `z` days after 1970-01-01 gives `z`. -/
theorem toDays_ofDays (z : Int) : toDays (ofDays z) = z := by
  obtain ⟨era, yoe, doy, hz, hy₀, hy₁, hd₀, hd₁, -, hdate⟩ := ofDays_parts z
  rw [hdate]
  unfold toDays
  unfold yearStart at hz
  dsimp only
  generalize hmp : (5 * doy + 2) / 153 = mp
  have hmp₀ : 0 ≤ mp := by omega
  have hmp₁ : mp ≤ 11 := by omega
  split_ifs <;> omega

end FilterQuery.CivilDate

import FilterQuery.Proofs.ShortestDigits
import FilterQuery.Binary64.Text
import FilterQuery.Binary64.Decimal

/-!
# Written numbers read back as themselves

`toText` writes a finite number as its shortest decimal, positionally or in scientific form,
and `readText?` reads a written number by rounding its decimal value. The shortest decimal
lies in the number's rounding interval (`shortest_admits`), and every decimal of that interval
rounds back to the number (`roundRatio_eq_of_admits`). What is left is the text itself: each
layout spells out digits whose value, times the power of ten of the last digit, is the
shortest decimal; and `ofDecimal`'s shortcuts for huge and tiny decimals never fire on a
decimal of the interval, which lies between `2^-1075` and `2^1024`.

## Key results
- `ofDecimal_eq_of_admits`: a decimal in the rounding interval is read as the number
- `positional_readsAs`, `scientific_readsAs`: both layouts spell the digits out
- `readText?_toText`: the written form of a finite number reads back as that number
-/

namespace FilterQuery.Binary64

/-! ## Decimal digits -/

theorem digitsValue_eq (ds : List Char) : digitsValue ds = Nat.ofDigitChars 10 ds 0 := by
  simp only [digitsValue, Nat.ofDigitChars, Nat.mul_comm]

@[simp] theorem digitsValue_digitChars (n : Nat) : digitsValue (digitChars n) = n := by
  rw [digitsValue_eq, digitChars, Nat.ofDigitChars_ten_toDigits]

theorem digitsValue_append (a b : List Char) :
    digitsValue (a ++ b) = digitsValue a * 10 ^ b.length + digitsValue b := by
  rw [digitsValue_eq, digitsValue_eq, digitsValue_eq, Nat.ofDigitChars_append,
    Nat.ofDigitChars_eq_ofDigitChars_zero, Nat.mul_comm]

@[simp] theorem digitsValue_replicate_zero (k : Nat) : digitsValue (List.replicate k '0') = 0 := by
  rw [digitsValue_eq, Nat.ofDigitChars_replicate_zero, Nat.mul_zero]

theorem all_isDigit_digitChars (n : Nat) : ∀ c ∈ digitChars n, c.isDigit = true :=
  fun _ hc => Nat.isDigit_of_mem_toDigits (by decide) (by decide) hc

/-- A number with `decimalLength` digits lies between the powers of ten around it. -/
theorem decimalLength_bounds {n : Nat} (hn : 0 < n) :
    10 ^ (decimalLength n - 1) ≤ n ∧ n < 10 ^ decimalLength n := by
  have hpos : 0 < decimalLength n := Nat.length_toDigits_pos
  refine ⟨?_, (Nat.length_toDigits_le_iff (by decide) hpos).1 le_rfl⟩
  rcases Nat.eq_or_lt_of_le (Nat.succ_le_of_lt hpos) with h | h
  · rw [← h]
    exact hn
  · -- with fewer digits the number would be below `10^(len - 1)`
    by_contra hlt
    have hle := (Nat.length_toDigits_le_iff (b := 10) (n := n) (by decide)
      (show 0 < decimalLength n - 1 by omega)).2 (by omega)
    change decimalLength n ≤ decimalLength n - 1 at hle
    omega

/-! ## Reading a decimal back -/

theorem two_pow_lt_ten_pow_309 : 2 ^ 1024 < 10 ^ 309 := by decide +kernel

theorem two_pow_lt_ten_pow_324 : 2 ^ 1075 < 10 ^ 324 := by decide +kernel

/-- The values in the rounding interval of a finite non-zero number lie between `2^-1075` and
    `2^1024`. -/
theorem admits_bounds {x : Binary64} (hx : x.isFinite = true) (hm : 0 < x.significand) {v : ℚ}
    (h : (roundingInterval x).Admits x.exponent v) : (2 : ℚ) ^ (-1075 : Int) ≤ v ∧ v ≤ 2 ^ (1024 : Int) := by
  obtain ⟨hlowEq, hhighEq, -⟩ := roundingInterval_eq x hm
  have hmin := minExponent_le_exponent x
  have hmax := exponent_le hx
  rw [minExponent] at hmin
  have hsig : (x.significand : ℚ) + 1 ≤ 2 ^ 53 := by exact_mod_cast significand_lt x
  have hsig1 : (1 : ℚ) ≤ x.significand := by exact_mod_cast hm
  obtain ⟨hlo, hhi⟩ := h
  constructor
  · -- the lower end is at least `2 * 2^(q-2)`
    have hend : (2 : ℚ) ^ (-1075 : Int) ≤ (roundingInterval x).low * 2 ^ (x.exponent - 2) := by
      calc (2 : ℚ) ^ (-1075 : Int) = 2 * 2 ^ (-1076 : Int) := by
            rw [show (-1075 : Int) = 1 + -1076 by norm_num, zpow_add₀ two_ne_zero, zpow_one]
        _ ≤ (roundingInterval x).low * 2 ^ (x.exponent - 2) := by
          apply mul_le_mul _ (zpow_le_zpow_right₀ (by norm_num) (by omega)) (by positivity)
            (by positivity)
          rw [hlowEq]
          split <;> linarith
    rcases hlo with hlo | ⟨-, hlo⟩
    · exact hend.trans hlo.le
    · exact hend.trans hlo.le
  · -- the upper end is at most `2^55 * 2^969`
    have hend : ((roundingInterval x).high : ℚ) * 2 ^ (x.exponent - 2) ≤ 2 ^ (1024 : Int) := by
      calc ((roundingInterval x).high : ℚ) * 2 ^ (x.exponent - 2) ≤ 2 ^ 55 * 2 ^ (969 : Int) := by
            apply mul_le_mul _ (zpow_le_zpow_right₀ (by norm_num) (by omega)) (by positivity)
              (by positivity)
            rw [hhighEq]
            linarith
        _ = 2 ^ (1024 : Int) := by
            rw [← zpow_natCast, ← zpow_add₀ two_ne_zero]
            norm_num
    rcases hhi with hhi | ⟨-, hhi⟩
    · exact hhi.le.trans hend
    · exact hhi.le.trans hend

/-- `ofDecimal` rounds a decimal in the rounding interval of a finite non-zero number to that
    number: such a decimal is neither so large that it overflows nor so small that it is cut
    to zero before rounding. -/
theorem ofDecimal_eq_of_admits {x : Binary64} (hx : x.isFinite = true) (hm : 0 < x.significand)
    {N : Nat} {E : Int} (hN : 0 < N)
    (h : (roundingInterval x).Admits x.exponent ((N : ℚ) * 10 ^ E)) :
    ofDecimal x.negative N E = x := by
  obtain ⟨hlo, hhi⟩ := admits_bounds hx hm h
  obtain ⟨hlen, hlen'⟩ := decimalLength_bounds hN
  have hten : ∀ k : Int, (10 : ℚ) ^ k * 10 ^ E = 10 ^ (k + E) := fun k => by
    rw [zpow_add₀ (by norm_num)]
  -- the decimal lies between `10^(top - 1)` and `10^top`
  have hbelow : (10 : ℚ) ^ ((decimalLength N : Int) - 1 + E) ≤ N * 10 ^ E := by
    rw [← hten]
    apply mul_le_mul_of_nonneg_right _ (by positivity)
    rw [show (decimalLength N : Int) - 1 = ((decimalLength N - 1 : Nat) : Int) by
      have := Nat.length_toDigits_pos (b := 10) (n := N)
      unfold decimalLength
      omega, zpow_natCast]
    exact_mod_cast hlen
  have habove : (N : ℚ) * 10 ^ E < 10 ^ ((decimalLength N : Int) + E) := by
    rw [← hten]
    apply mul_lt_mul_of_pos_right _ (by positivity)
    rw [zpow_natCast]
    exact_mod_cast hlen'
  have htop : E + decimalLength N < 311 := by
    have h1 : (10 : ℚ) ^ ((decimalLength N : Int) - 1 + E) < 10 ^ (309 : Int) := by
      calc (10 : ℚ) ^ ((decimalLength N : Int) - 1 + E) ≤ N * 10 ^ E := hbelow
        _ ≤ 2 ^ (1024 : Int) := hhi
        _ < 10 ^ (309 : Int) := by exact_mod_cast two_pow_lt_ten_pow_309
    have := (zpow_lt_zpow_iff_right₀ (by norm_num : (1 : ℚ) < 10)).1 h1
    omega
  have hbottom : -325 < E + decimalLength N := by
    have h1 : (10 : ℚ) ^ (-324 : Int) < 10 ^ ((decimalLength N : Int) + E) := by
      calc (10 : ℚ) ^ (-324 : Int) < 2 ^ (-1075 : Int) := by
            rw [zpow_neg, zpow_neg]
            apply inv_strictAnti₀ (by positivity)
            exact_mod_cast two_pow_lt_ten_pow_324
        _ ≤ N * 10 ^ E := hlo
        _ < 10 ^ ((decimalLength N : Int) + E) := habove
    have := (zpow_lt_zpow_iff_right₀ (by norm_num : (1 : ℚ) < 10)).1 h1
    omega
  unfold ofDecimal
  rw [if_neg hN.ne']
  dsimp only
  rw [if_neg (by omega), if_neg (by omega)]
  split
  · rename_i hE
    obtain ⟨k, rfl⟩ := Int.eq_ofNat_of_zero_le hE
    apply roundRatio_eq_of_admits hx hm
      (by rw [Nat.pow_eq]; exact Nat.mul_pos hN (Nat.pow_pos (by norm_num))) one_pos
    convert h using 1
    simp [Nat.pow_eq]
  · rename_i hE
    obtain ⟨k, hk⟩ := Int.exists_eq_neg_ofNat (Int.le_of_lt (Int.not_le.1 hE))
    subst hk
    apply roundRatio_eq_of_admits hx hm hN (by rw [Nat.pow_eq]; exact Nat.pow_pos (by norm_num))
    convert h using 1
    simp [Nat.pow_eq, zpow_neg, div_eq_mul_inv]

/-! ## Reading the written form -/

/-- The digits in front of a text that goes on with a non-digit. -/
theorem spanDigits_append {ds rest : List Char} (hds : ∀ c ∈ ds, c.isDigit = true)
    (hrest : ∀ c ∈ rest.head?, c.isDigit = false) : spanDigits (ds ++ rest) = (ds, rest) := by
  induction ds with
  | nil =>
    cases rest with
    | nil => rfl
    | cons c cs =>
      have hc : c.isDigit = false := hrest c rfl
      simp [spanDigits, hc]
  | cons d ds ih =>
    have hd : d.isDigit = true := hds d List.mem_cons_self
    have ih' := ih fun c hc => hds c (List.mem_cons_of_mem d hc)
    simp only [spanDigits, Prod.mk.injEq] at ih' ⊢
    simp [hd, ih'.1, ih'.2]

/-- A sign in front of a text that starts with a digit is read off. -/
theorem splitSign_sign (neg : Bool) {d : Char} (hd : d.isDigit = true) (rest : List Char) :
    splitSign ((if neg then ['-'] else []) ++ d :: rest) = (neg, d :: rest) := by
  cases neg
  · have h1 : d ≠ '-' := by rintro rfl; simp at hd
    have h2 : d ≠ '+' := by rintro rfl; simp at hd
    simp [splitSign, h1, h2]
  · rfl

/-- A written number with a decimal point: sign, integer digits, `.`, fraction digits and an
    exponent part. -/
theorem readText?_point {s : String} {neg : Bool} {d : Char} {is fs tail : List Char} {e : Int}
    (hs : s.toList = (if neg then ['-'] else []) ++ (d :: is ++ '.' :: (fs ++ tail)))
    (hd : d.isDigit = true) (his : ∀ c ∈ is, c.isDigit = true) (hfs : ∀ c ∈ fs, c.isDigit = true)
    (htail : ∀ c ∈ tail.head?, c.isDigit = false) (he : readExponent? tail = some e) :
    readText? s = some (ofDecimal neg (digitsValue (d :: is ++ fs)) (e - fs.length)) := by
  have hint : spanDigits (d :: is ++ '.' :: (fs ++ tail)) = (d :: is, '.' :: (fs ++ tail)) :=
    spanDigits_append (by simpa [hd] using his) (by simp)
  have hfrac : spanDigits (fs ++ tail) = (fs, tail) := spanDigits_append hfs htail
  unfold readText?
  rw [hs, List.cons_append, splitSign_sign neg hd, ← List.cons_append]
  simp only [hint, hfrac, he, List.isEmpty_cons, Bool.false_and, Bool.false_eq_true, if_false]

/-- A written number without a decimal point: sign, digits and an exponent part that is not
    a point. -/
theorem readText?_plain {s : String} {neg : Bool} {d : Char} {is tail : List Char} {e : Int}
    (hs : s.toList = (if neg then ['-'] else []) ++ (d :: is ++ tail))
    (hd : d.isDigit = true) (his : ∀ c ∈ is, c.isDigit = true)
    (htail : ∀ c ∈ tail.head?, c.isDigit = false ∧ c ≠ '.') (he : readExponent? tail = some e) :
    readText? s = some (ofDecimal neg (digitsValue (d :: is)) e) := by
  have hint : spanDigits (d :: is ++ tail) = (d :: is, tail) :=
    spanDigits_append (by simpa [hd] using his) fun c hc => (htail c hc).1
  unfold readText?
  rw [hs, List.cons_append, splitSign_sign neg hd, ← List.cons_append]
  simp only [hint]
  cases tail with
  | nil => simp_all
  | cons c cs =>
    have hc : c ≠ '.' := (htail c rfl).2
    simp [hc, he]

/-- The digits of an integer, with a minus sign in front of a negative one. -/
theorem toList_toString_int (e : Int) :
    (toString e).toList = (if e < 0 then ['-'] else []) ++ Nat.toDigits 10 e.natAbs := by
  rw [Int.toString_eq_repr, Int.repr_eq_if]
  split
  · rw [if_neg (by omega), Nat.toList_repr, List.nil_append]
    congr 2
    omega
  · rw [if_pos (by omega), String.toList_append, Nat.toList_repr]
    congr 2
    omega

/-- The exponent part `e` and an integer's digits reads as that integer. -/
theorem readExponent?_toString (e : Int) : readExponent? ('e' :: (toString e).toList) = some e := by
  obtain ⟨d, ds, hds⟩ := List.exists_cons_of_ne_nil (Nat.toDigits_ne_nil (b := 10) (n := e.natAbs))
  have hdigits := all_isDigit_digitChars e.natAbs
  rw [digitChars, hds] at hdigits
  have hd : d.isDigit = true := hdigits d List.mem_cons_self
  have hspan : spanDigits (d :: ds) = (d :: ds, []) := by
    simpa using @spanDigits_append (d :: ds) [] hdigits (by simp)
  have hvalue : digitsValue (d :: ds) = e.natAbs := by
    rw [← hds]
    exact digitsValue_digitChars e.natAbs
  rw [toList_toString_int, hds]
  simp only [readExponent?, true_or, if_true]
  have hsign := splitSign_sign (decide (e < 0)) hd ds
  simp only [decide_eq_true_eq] at hsign
  rw [hsign]
  simp only [hspan, List.isEmpty_cons, List.isEmpty_nil, Bool.false_or, Bool.not_true,
    Bool.false_eq_true, if_false, hvalue, Option.some.injEq, decide_eq_true_eq]
  split <;> omega

section Layout

variable {neg : Bool} {D : Nat}

/-- What a layout must give back: a decimal of the same value, read with the sign. -/
def ReadsAs (neg : Bool) (D : Nat) (X : Int) (s : String) : Prop :=
  ∃ N E, readText? s = some (ofDecimal neg N E) ∧ 0 < N ∧ (N : ℚ) * 10 ^ E = D * 10 ^ X

theorem digitChars_eq_cons (D : Nat) : ∃ d rest, digitChars D = d :: rest ∧ d.isDigit = true ∧
    ∀ c ∈ rest, c.isDigit = true := by
  obtain ⟨d, rest, h⟩ := List.exists_cons_of_ne_nil (Nat.toDigits_ne_nil (b := 10) (n := D))
  have hall := all_isDigit_digitChars D
  rw [digitChars, h] at hall
  exact ⟨d, rest, h, hall d List.mem_cons_self, fun c hc => hall c (List.mem_cons_of_mem d hc)⟩

/-- The sign in front of a layout, as characters. -/
theorem toList_sign_append (neg : Bool) (s : String) :
    ((if neg then "-" else "") ++ s).toList = (if neg then ['-'] else []) ++ s.toList := by
  cases neg <;> simp

/-- The scientific layout reads back as the digits times the power of ten of the last one. -/
theorem scientific_readsAs (hD : 0 < D) (e : Int) :
    ReadsAs neg D (e - (digitChars D).length + 1)
      ((if neg then "-" else "") ++ scientific (digitChars D) e) := by
  obtain ⟨d, rest, hds, hd, hrest⟩ := digitChars_eq_cons D
  have hvalue : digitsValue (d :: rest) = D := by
    rw [← hds]
    exact digitsValue_digitChars D
  have htail : ∀ c ∈ ('e' :: (toString e).toList).head?, c.isDigit = false ∧ c ≠ '.' := by
    simp
  rw [hds]
  cases rest with
  | nil =>
    -- one digit: no point
    refine ⟨digitsValue [d], e, ?_, by rw [hvalue]; exact hD, by simp [hvalue]⟩
    refine @readText?_plain _ neg d [] _ e ?_ hd (by simp) htail (readExponent?_toString e)
    rw [toList_sign_append]
    simp [scientific]
  | cons r rs =>
    refine ⟨digitsValue (d :: r :: rs), e - (rs.length + 1 : Nat), ?_, by rw [hvalue]; exact hD, ?_⟩
    swap
    · rw [hvalue]
      congr 1
      simp only [List.length_cons]
      push_cast
      congr 1
      ring
    refine @readText?_point _ neg d [] (r :: rs) _ e ?_ hd (by simp) hrest (by simp)
      (readExponent?_toString e)
    rw [toList_sign_append]
    simp [scientific]

/-- The positional layout reads back as the digits times the power of ten of the last one. -/
theorem positional_readsAs (hD : 0 < D) (e : Int) :
    ReadsAs neg D (e - (digitChars D).length + 1)
      ((if neg then "-" else "") ++ positional (digitChars D) e) := by
  obtain ⟨d, rest, hds, hd, hrest⟩ := digitChars_eq_cons D
  have hvalue : digitsValue (d :: rest) = D := by
    rw [← hds]
    exact digitsValue_digitChars D
  have hnil : ∀ c ∈ ([] : List Char).head?, c.isDigit = false := by simp
  have hzeros : ∀ k, ∀ c ∈ List.replicate k '0', c.isDigit = true := by
    intro k c hc
    rw [List.eq_of_mem_replicate hc]
    rfl
  rw [hds]
  unfold positional
  by_cases he : 0 ≤ e
  · obtain ⟨k, rfl⟩ := Int.eq_ofNat_of_zero_le he
    rw [if_pos he]
    simp only [Int.toNat_natCast, List.length_cons]
    by_cases hlen : rest.length + 1 ≤ k + 1
    · -- every digit stands before the point: pad with zeros and write `.0`
      rw [if_pos hlen]
      set z := k + 1 - (rest.length + 1)
      have hN : digitsValue (d :: (rest ++ List.replicate z '0') ++ ['0']) = D * 10 ^ (z + 1) := by
        rw [show d :: (rest ++ List.replicate z '0') ++ ['0'] =
            (d :: rest) ++ List.replicate (z + 1) '0' by simp [List.replicate_succ']]
        rw [digitsValue_append, hvalue, digitsValue_replicate_zero, Nat.add_zero,
          List.length_replicate]
      refine ⟨_, _, @readText?_point _ neg d (rest ++ List.replicate z '0') ['0'] [] 0 ?_ hd
        ?_ (by simp) hnil rfl, by rw [hN]; positivity, ?_⟩
      · rw [toList_sign_append]
        simp
      · intro c hc
        rcases List.mem_append.1 hc with hc | hc
        · exact hrest c hc
        · exact hzeros z c hc
      · rw [hN]
        push_cast
        rw [mul_assoc, ← zpow_natCast, ← zpow_add₀ (by norm_num)]
        congr 2
        simp only [z, List.length_singleton]
        omega
    · -- the point falls inside the digits
      rw [if_neg hlen, List.take_succ_cons, List.drop_succ_cons]
      have hN : digitsValue (d :: List.take k rest ++ List.drop k rest) = D := by
        rw [List.cons_append, List.take_append_drop, hvalue]
      refine ⟨_, _, @readText?_point _ neg d (List.take k rest) (List.drop k rest) [] 0 ?_ hd
        (fun c hc => hrest c (List.mem_of_mem_take hc))
        (fun c hc => hrest c (List.mem_of_mem_drop hc)) hnil rfl, by rw [hN]; exact hD, ?_⟩
      · rw [toList_sign_append]
        simp
      · rw [hN, List.length_drop]
        congr 2
        omega
  · -- a leading `0.` and zeros before the digits
    rw [if_neg he]
    set k := (-e).toNat - 1
    have hN : digitsValue ('0' :: [] ++ (List.replicate k '0' ++ d :: rest)) = D := by
      rw [← List.append_assoc, show '0' :: [] ++ List.replicate k '0' = List.replicate (k + 1) '0'
        by simp [List.replicate_succ], digitsValue_append, digitsValue_replicate_zero, hvalue]
      simp
    refine ⟨_, _, @readText?_point _ neg '0' [] (List.replicate k '0' ++ d :: rest) [] 0 ?_ rfl
      (by simp) ?_ hnil rfl, by rw [hN]; exact hD, ?_⟩
    · rw [toList_sign_append]
      simp
    · intro c hc
      rcases List.mem_append.1 hc with hc | hc
      · exact hzeros k c hc
      · exact (List.mem_cons.1 hc).elim (fun h => h ▸ hd) (hrest c)
    · rw [hN]
      congr 2
      simp only [k, List.length_append, List.length_replicate, List.length_cons]
      omega

end Layout

/-- Zero is written `0.0`, with its sign. -/
theorem readText?_zeroText (neg : Bool) :
    readText? ((if neg then "-" else "") ++ "0.0") = some (zero neg) := by
  have hnil : ∀ c ∈ ([] : List Char).head?, c.isDigit = false := by simp
  rw [@readText?_point _ neg '0' [] ['0'] [] 0 (by cases neg <;> simp) rfl (by simp) (by simp)
    hnil rfl]
  simp [ofDecimal, digitsValue]

/-- A finite number with no significand is a zero. -/
theorem eq_zero_of_significand_eq_zero {x : Binary64} (hm : x.significand = 0) :
    x = zero x.negative := by
  have hfields : x.exponentField = 0 ∧ x.fractionField = 0 := by
    unfold significand at hm
    split at hm
    · exact ⟨by assumption, hm⟩
    · simp at hm
  have hx := ofFields_fields x
  rw [hfields.1, hfields.2] at hx
  exact hx.symm

/-- The written form of a finite number reads back as that number. -/
theorem readText?_toText {x : Binary64} (hx : x.isFinite = true) : readText? (toText x) = some x := by
  have hnan : x.isNaN = false := by
    simp only [isFinite, bne_iff_ne, ne_eq] at hx
    simp [isNaN, hx]
  unfold toText
  simp only [hnan, hx, Bool.not_true, Bool.false_eq_true, if_false]
  by_cases hm : x.significand = 0
  · rw [if_pos hm, readText?_zeroText, ← eq_zero_of_significand_eq_zero hm]
  · rw [if_neg hm]
    have hpos : 0 < x.significand := Nat.pos_of_ne_zero hm
    have hadm := shortest_admits hpos
    have hD : 0 < (shortest x).digits := by
      have hlo := (admits_bounds hx hpos hadm).1
      refine Nat.pos_of_ne_zero fun h0 => ?_
      rw [h0, Nat.cast_zero, zero_mul] at hlo
      exact absurd hlo (not_le.2 (by positivity))
    -- both layouts give back the digits at the exponent of the last one
    set e := (shortest x).exponent + ((digitChars (shortest x).digits).length : Int) - 1
    have hexp : e - (digitChars (shortest x).digits).length + 1 = (shortest x).exponent := by
      simp only [e]
      ring
    have hreads : ReadsAs x.negative (shortest x).digits (shortest x).exponent
        ((if x.negative then "-" else "") ++ (if -4 ≤ e ∧ e < 16 then
          positional (digitChars (shortest x).digits) e else
          scientific (digitChars (shortest x).digits) e)) := by
      rw [← hexp]
      by_cases hlay : -4 ≤ e ∧ e < 16
      · rw [if_pos hlay]
        exact positional_readsAs hD e
      · rw [if_neg hlay]
        exact scientific_readsAs hD e
    obtain ⟨N, E, hread, hN, hval⟩ := hreads
    rw [hread, ofDecimal_eq_of_admits hx hpos hN (by rw [hval]; exact hadm)]

end FilterQuery.Binary64

import FilterQuery.Proofs.DateRoundTrip

/-!
# Date literals read back

A date-time in filter text is written `YYYY-MM-DD hh:mm:ss` with its fraction as three, six or
nine digits, or none when it is zero (`DateTime.toText`). The recognizer of date literals
(`DateTime.readLiteral?`) tries the bare date first, which leaves the time unread and so is
refused, then the date-time layouts in their order: the first one without `T` reads a text
with no fraction, and a written fraction is left to the third, which reads it. Every field is
read as the fixed-width digits it was written with, and a leap second, written as second 60,
comes back as the last second of its minute. So a stored date-time whose year has four digits
reads back as itself.

## Key results
- `takeDigits_fixedDigits`: fixed-width digits read back as the number they were written from
- `readItems_dateLayout`, `readItems_clock`: the date and the clock of a layout
- `toList_toText`: a stored date-time with a year of four digits is written field by field
- `readLiteral?_toText`: such a date-time reads back as itself
-/

namespace FilterQuery

theorem Text.isWhiteSpace_of_isDigit {c : Char} (h : c.isDigit = true) :
    Text.isWhiteSpace c = false := by
  simp only [Char.isDigit, Bool.and_eq_true, decide_eq_true_eq, UInt32.le_iff_toNat_le] at h
  simp at h
  simp only [Text.isWhiteSpace, Bool.or_eq_false_iff, Bool.and_eq_false_imp, decide_eq_true_eq,
    decide_eq_false_iff_not, beq_eq_false_iff_ne, ne_eq]
  omega

namespace DateTime

open DateScan

/-! ## Reading fixed-width digits -/

theorem isDigit_of_mem_fixedDigits {w n : Nat} {c : Char} (h : c ∈ fixedDigits w n) :
    c.isDigit = true := by
  induction w generalizing n with
  | zero => simp [fixedDigits] at h
  | succ w ih =>
    rw [fixedDigits, List.mem_append, List.mem_singleton] at h
    rcases h with h | rfl
    · exact ih h
    · exact isDigit_digitChar_mod n

@[simp] theorem length_fixedDigits (w n : Nat) : (fixedDigits w n).length = w := by
  induction w generalizing n with
  | zero => rfl
  | succ w ih => simp [fixedDigits, ih]

/-- Reading at most `w + e` digits from `w` fixed-width digits reads them all and goes on. -/
theorem takeDigits_fixedDigits (w n e : Nat) (rest : List Char) (count acc : Nat) :
    takeDigits (w + e) (fixedDigits w n ++ rest) count acc =
      takeDigits e rest (count + w) (acc * 10 ^ w + n % 10 ^ w) := by
  induction w generalizing n e rest count acc with
  | zero => simp [fixedDigits, Nat.mod_one]
  | succ w ih =>
    rw [fixedDigits, List.append_assoc, List.singleton_append,
      show w + 1 + e = w + (e + 1) by omega, ih, takeDigits, if_pos (isDigit_digitChar_mod n),
      digitValue_digitChar_mod]
    -- the last digit goes below the ones read before it
    have hvalue : (acc * 10 ^ w + n / 10 % 10 ^ w) * 10 + n % 10 =
        acc * 10 ^ (w + 1) + n % 10 ^ (w + 1) := by
      rw [Nat.pow_succ, Nat.mul_comm (10 ^ w) 10, Nat.mod_mul]
      ring
    rw [hvalue, Nat.add_assoc]

theorem takeDigits_nil (e count acc : Nat) : takeDigits e [] count acc = (count, acc, []) := by
  cases e <;> rfl

theorem byteLength_pos {c : Char} {cs : List Char} : 0 < byteLength (c :: cs) := by
  simp only [byteLength, List.foldr_cons]
  have := c.utf8Size_pos
  omega

theorem fixedDigits_eq_cons {w : Nat} (hw : 0 < w) (n : Nat) :
    ∃ c cs, fixedDigits w n = c :: cs ∧ c.isDigit = true := by
  obtain ⟨c, cs, h⟩ := List.exists_cons_of_ne_nil (l := fixedDigits w n)
    (by rw [← List.length_pos_iff, length_fixedDigits]; exact hw)
  exact ⟨c, cs, h, isDigit_of_mem_fixedDigits (h ▸ List.mem_cons_self)⟩

/-- `w` fixed-width digits, up to nine, read as a number of one to `w` digits. -/
theorem scanNumber_fixedDigits {w n : Nat} (hw : 0 < w) (h9 : w ≤ 9) (rest : List Char) :
    scanNumber (fixedDigits w n ++ rest) 1 w = .ok (n % 10 ^ w, rest) := by
  obtain ⟨c, cs, hcs, -⟩ := fixedDigits_eq_cons hw n
  have hbytes : ¬ byteLength (fixedDigits w n ++ rest) < 1 := by
    rw [hcs, List.cons_append]
    exact Nat.not_lt.2 byteLength_pos
  have htake : takeDigits w (fixedDigits w n ++ rest) 0 0 = (w, n % 10 ^ w, rest) := by
    simpa [takeDigits] using takeDigits_fixedDigits w n 0 rest 0 0
  have hsmall : ¬ Nat.pow 2 63 ≤ n % 10 ^ w := by
    have hmod := Nat.mod_lt n (Nat.pow_pos (by decide : 0 < 10) : 0 < 10 ^ w)
    have hpow : 10 ^ w ≤ 10 ^ 9 := Nat.pow_le_pow_right (by decide) h9
    simp only [Nat.pow_eq]
    omega
  simp only [scanNumber, if_neg hbytes, htake, if_neg (show ¬ w < 1 by omega), if_neg hsmall]

/-- A fraction of `k` digits, up to nine, reads as that many nanoseconds' worth. -/
theorem scanFraction_fixedDigits {k v : Nat} (hk : 0 < k) (h9 : k ≤ 9) :
    scanFraction (fixedDigits k v) = .ok (v % 10 ^ k * 10 ^ (9 - k), []) := by
  obtain ⟨c, cs, hcs, -⟩ := fixedDigits_eq_cons hk v
  have hbytes : ¬ byteLength (fixedDigits k v) < 1 := by
    rw [hcs]
    exact Nat.not_lt.2 byteLength_pos
  have htake : takeDigits 9 (fixedDigits k v) 0 0 = (k, v % 10 ^ k, []) := by
    rw [show 9 = k + (9 - k) by omega, ← List.append_nil (fixedDigits k v),
      takeDigits_fixedDigits, takeDigits_nil]
    simp
  have hsmall : ¬ Nat.pow 2 63 ≤ v % 10 ^ k := by
    have hmod := Nat.mod_lt v (Nat.pow_pos (by decide : 0 < 10) : 0 < 10 ^ k)
    have hpow : 10 ^ k ≤ 10 ^ 9 := Nat.pow_le_pow_right (by decide) h9
    simp only [Nat.pow_eq]
    omega
  simp only [scanFraction, scanNumber, if_neg hbytes, htake, if_neg (show ¬ k < 1 by omega),
    if_neg hsmall, Query.except_ok_bind, length_fixedDigits, List.length_nil, Nat.sub_zero,
    List.dropWhile_nil]
  rfl

theorem skipBlanks_fixedDigits {w : Nat} (hw : 0 < w) (n : Nat) (rest : List Char) :
    skipBlanks (fixedDigits w n ++ rest) = fixedDigits w n ++ rest := by
  obtain ⟨c, cs, hcs, hc⟩ := fixedDigits_eq_cons hw n
  rw [hcs, List.cons_append, skipBlanks, List.dropWhile_cons, if_neg (by simp [Text.isWhiteSpace_of_isDigit hc])]

/-! ## Reading a layout -/

theorem readItems_append (l₁ l₂ : List LayoutItem) (f : LayoutFields) (s : List Char) :
    readItems (l₁ ++ l₂) f s = (readItems l₁ f s >>= fun r => readItems l₂ r.1 r.2) := by
  induction l₁ generalizing f s with
  | nil => rfl
  | cons item rest ih =>
    simp only [List.cons_append, readItems]
    cases item.read f s with
    | error e => rfl
    | ok r => exact ih r.1 r.2

/-- The date of a layout, `YYYY-MM-DD`, read field by field. -/
theorem readItems_dateLayout {y mo d : Nat} (hy : y < 10000) (hmo : 1 ≤ mo ∧ mo ≤ 12)
    (hd : 1 ≤ d ∧ d ≤ 31) (f : LayoutFields) (rest : List Char) :
    readItems dateLayout f
        (fixedDigits 4 y ++ '-' :: (fixedDigits 2 mo ++ '-' :: (fixedDigits 2 d ++ rest))) =
      .ok ({ f with year := some y, month := some mo, day := some d }, rest) := by
  have hmo₀ : mo ≠ 0 := by omega
  have hmo₁ : ¬ 12 < mo := by omega
  have hd₀ : d ≠ 0 := by omega
  have hd₁ : ¬ 31 < d := by omega
  simp [dateLayout, readItems, LayoutItem.read, skipBlanks_fixedDigits,
    scanNumber_fixedDigits (w := 4) (by decide) (by decide),
    scanNumber_fixedDigits (w := 2) (by decide) (by decide), Nat.mod_eq_of_lt hy,
    Nat.mod_eq_of_lt (by omega : mo < 100), Nat.mod_eq_of_lt (by omega : d < 100), hmo₀, hmo₁, hd₀,
    hd₁]

theorem skipBlanks_space (s : List Char) : skipBlanks (' ' :: s) = skipBlanks s := by
  rw [skipBlanks, List.dropWhile_cons, if_pos (by decide), ← skipBlanks]

/-- The time of a layout, ` hh:mm:ss` after the date, read field by field. -/
theorem readItems_clock {h mi s : Nat} (hh : h ≤ 23) (hmi : mi ≤ 59) (hs : s ≤ 60)
    (f : LayoutFields) (rest : List Char) :
    readItems [.blank, .hour, .literal ':', .minute, .literal ':', .second] f
        (' ' :: (fixedDigits 2 h ++ ':' :: (fixedDigits 2 mi ++ ':' :: (fixedDigits 2 s ++ rest)))) =
      .ok ({ f with hour := some h, minute := some mi, second := some s }, rest) := by
  have hh₁ : ¬ 23 < h := by omega
  have hmi₁ : ¬ 59 < mi := by omega
  have hs₁ : ¬ 60 < s := by omega
  simp [readItems, LayoutItem.read, skipBlanks_space, skipBlanks_fixedDigits,
    scanNumber_fixedDigits (w := 2) (by decide) (by decide), Nat.mod_eq_of_lt (by omega : h < 100),
    Nat.mod_eq_of_lt (by omega : mi < 100), Nat.mod_eq_of_lt (by omega : s < 100), hh₁, hmi₁, hs₁]

theorem read_fraction_digits {k v : Nat} (hk : 0 < k) (h9 : k ≤ 9) (f : LayoutFields) :
    LayoutItem.fraction.read f ('.' :: fixedDigits k v) =
      .ok ({ f with nanos := some (v % 10 ^ k * 10 ^ (9 - k)) }, []) := by
  simp [LayoutItem.read, scanFraction_fixedDigits hk h9]

/-! ## Written date-times -/

/-- The fraction is written as nothing when it is zero, and otherwise as a point and three,
    six or nine digits that give it back. -/
theorem toList_fractionText {f : Nat} (hf : f < 10 ^ 9) :
    ((fractionText f).toList = [] ∧ f = 0) ∨ ∃ k v, 0 < k ∧ k ≤ 9 ∧
      (fractionText f).toList = '.' :: fixedDigits k v ∧ v % 10 ^ k * 10 ^ (9 - k) = f := by
  unfold fractionText
  by_cases h0 : f = 0
  · exact .inl ⟨by simp [h0], h0⟩
  · right
    rw [if_neg h0]
    by_cases h6 : f % 1000000 = 0
    · rw [if_pos h6]
      refine ⟨3, f / 1000000, by decide, by decide, ?_, by omega⟩
      rw [String.toList_append, padded_toList (by decide) (by omega)]
      rfl
    · rw [if_neg h6]
      by_cases h3 : f % 1000 = 0
      · rw [if_pos h3]
        refine ⟨6, f / 1000, by decide, by decide, ?_, by omega⟩
        rw [String.toList_append, padded_toList (by decide) (by omega)]
        rfl
      · rw [if_neg h3]
        refine ⟨9, f, by decide, le_rfl, ?_, by omega⟩
        rw [String.toList_append, padded_toList (by decide) (by omega)]
        rfl

/-- A stored date-time with a year of four digits is written as its fields, each in its width,
    and its fraction. -/
theorem toList_toText {t : DateTime} (ht : t.Stored) (hy : 0 ≤ t.date.year ∧ t.date.year ≤ 9999) :
    t.toText.toList =
      fixedDigits 4 t.date.year.toNat ++ '-' :: (fixedDigits 2 t.date.month ++
        '-' :: (fixedDigits 2 t.date.day ++ ' ' :: (fixedDigits 2 t.time.hour ++
        ':' :: (fixedDigits 2 t.time.minute ++ ':' :: (fixedDigits 2 t.time.second ++
        (fractionText t.time.fraction).toList))))) := by
  obtain ⟨hmo, hd, hh, hmi, hs, -⟩ := ht.fields_lt
  rw [toText, dateText, clockText, yearText, if_pos hy]
  simp (disch := omega) only [String.toList_append, padded_toList]
  simp

/-- The clock of a stored date-time from its written fields. -/
theorem ofFields?_time {t : DateTime} (ht : t.Stored) :
    TimeOfDay.ofFields? t.time.hour t.time.minute t.time.second t.time.fraction = some t.time := by
  have hs := ht.seconds_lt
  have hn := ht.nanos_lt
  have hleap := ht.leap
  have hrange : t.time.hour < 24 ∧ t.time.minute < 60 ∧ t.time.second ≤ 60 ∧
      t.time.fraction < 1000000000 := by
    simp only [TimeOfDay.hour, TimeOfDay.minute, TimeOfDay.second, TimeOfDay.fraction]
    omega
  unfold TimeOfDay.ofFields?
  rw [if_pos hrange]
  -- a leap second is written as second 60 and read back as the last second of its minute
  by_cases h60 : t.time.second = 60
  · rw [if_pos h60, show t.time = ⟨t.time.seconds, t.time.nanos⟩ from rfl]
    simp only [TimeOfDay.hour, TimeOfDay.minute, TimeOfDay.second, TimeOfDay.fraction,
      Option.some.injEq, TimeOfDay.mk.injEq] at h60 ⊢
    omega
  · rw [if_neg h60, show t.time = ⟨t.time.seconds, t.time.nanos⟩ from rfl]
    simp only [TimeOfDay.hour, TimeOfDay.minute, TimeOfDay.second, TimeOfDay.fraction,
      Option.some.injEq, TimeOfDay.mk.injEq] at h60 ⊢
    omega

/-- The written fields of a stored date-time give it back, its fraction read or left out when
    it is zero. -/
theorem toDateTime_written {t : DateTime} (ht : t.Stored) (hy : 0 ≤ t.date.year)
    {nanos : Option Nat} (hn : nanos.getD 0 = t.time.fraction) :
    ({ year := some t.date.year.toNat, month := some t.date.month, day := some t.date.day,
       hour := some t.time.hour, minute := some t.time.minute, second := some t.time.second,
       nanos := nanos } : LayoutFields).toDateTime = .ok t := by
  have hdate : ({ year := (t.date.year.toNat : Int), month := t.date.month, day := t.date.day } :
      CivilDate) = t.date := by
    rw [Int.toNat_of_nonneg hy]
  simp only [LayoutFields.toDateTime, LayoutFields.toDate, LayoutFields.toTime, hdate,
    ht.isValid, if_true, Option.getD_some, hn, ofFields?_time ht, Query.except_ok_bind]
  rfl

/-- A date-time read back from its written form: the bare date is refused (a time follows),
    and the first date-time layout that fits is the one without `T`, with a fraction exactly
    when one is written. -/
theorem readLiteral?_toText {t : DateTime} (ht : t.Stored)
    (hy : 0 ≤ t.date.year ∧ t.date.year ≤ 9999) : readLiteral? t.toText = some t := by
  obtain ⟨hmo, hd, hh, hmi, hs, -⟩ := ht.fields_lt
  have hvalid := ht.isValid
  simp only [CivilDate.isValid, Bool.and_eq_true, decide_eq_true_eq] at hvalid
  have hdays : CivilDate.daysInMonth t.date.year t.date.month ≤ 31 := by
    unfold CivilDate.daysInMonth
    split <;> (try split) <;> omega
  have hfrac : t.time.fraction < 10 ^ 9 := by
    simp only [TimeOfDay.fraction]
    omega
  have hdate := readItems_dateLayout (y := t.date.year.toNat) (by omega) ⟨hvalid.1.1.1, hvalid.1.1.2⟩
    ⟨hvalid.1.2, by omega⟩
  have hclock := @readItems_clock t.time.hour t.time.minute t.time.second
    (by omega) (by omega) hs
  have hL := toList_toText ht hy
  generalize hF : (fractionText t.time.fraction).toList = F at hL
  -- the text is long enough and starts with four digits and `-`
  have hlen : 19 ≤ t.toText.toList.length := by
    rw [hL]
    simp only [List.length_append, List.length_cons, length_fixedDigits]
    omega
  have hcond : (t.toText.utf8ByteSize < 8 || !(t.toText.toList.take 4).all Char.isDigit ||
      t.toText.toList.length < 5 || t.toText.toList[4]? != some '-') = false := by
    have hbytes := length_le_utf8ByteSize t.toText
    rw [← String.length_toList] at hbytes
    have htake : t.toText.toList.take 4 = fixedDigits 4 t.date.year.toNat := by
      rw [hL, List.take_left' (length_fixedDigits 4 _)]
    have hdash : t.toText.toList[4]? = some '-' := by
      rw [hL, List.getElem?_append_right (by simp)]
      simp
    have hall : (fixedDigits 4 t.date.year.toNat).all Char.isDigit = true :=
      List.all_eq_true.2 fun c hc => isDigit_of_mem_fixedDigits hc
    simp only [htake, hall, hdash, Bool.not_true, Bool.or_false, bne_self_eq_false,
      Bool.or_eq_false_iff, decide_eq_false_iff_not]
    omega
  -- a time follows the date, so the bare date is refused
  have hbare : readLayout dateLayout t.toText = .error .tooLong := by
    rw [readLayout, hL, hdate]
    rfl
  -- the date and the clock read by the layouts without `T`
  have hlayout : ∀ wf : Bool, readItems (dateTimeLayout .blank wf false) {} t.toText.toList =
      readItems (if wf then [.fraction] else [])
        { year := some t.date.year.toNat, month := some t.date.month, day := some t.date.day,
          hour := some t.time.hour, minute := some t.time.minute, second := some t.time.second } F := by
    intro wf
    rw [dateTimeLayout, if_neg Bool.false_ne_true, List.append_nil, readItems_append,
      readItems_append, hL, hdate, Query.except_ok_bind, hclock, Query.except_ok_bind]
  unfold readLiteral?
  rw [if_neg (by simp only [hcond]; exact Bool.false_ne_true), hbare]
  simp only [dateTimeLayouts, List.findSome?_cons]
  rcases toList_fractionText hfrac with ⟨hF0, h0⟩ | ⟨k, v, hk, h9, hFk, hv⟩
  · -- no fraction: the first layout reads the whole text
    rw [hF0] at hF
    subst hF
    have hread : readLayout (dateTimeLayout .blank false false) t.toText = .ok
        { year := some t.date.year.toNat, month := some t.date.month, day := some t.date.day,
          hour := some t.time.hour, minute := some t.time.minute, second := some t.time.second } := by
      rw [readLayout, hlayout false]
      rfl
    rw [hread, Query.except_ok_bind, toDateTime_written ht hy.1 (by rw [h0]; rfl)]
    rfl
  · -- a fraction: the first layout leaves it unread, the second wants `T`, the third reads it
    rw [hFk] at hF
    subst hF
    have hfirst : readLayout (dateTimeLayout .blank false false) t.toText = .error .tooLong := by
      rw [readLayout, hlayout false]
      rfl
    have hsecond : readLayout (dateTimeLayout (.literal 'T') false false) t.toText =
        .error .invalid := by
      rw [readLayout, dateTimeLayout, if_neg Bool.false_ne_true, List.append_nil, readItems_append,
        readItems_append, hL, hdate, Query.except_ok_bind]
      rfl
    have hthird : readLayout (dateTimeLayout .blank true false) t.toText = .ok
        { year := some t.date.year.toNat, month := some t.date.month, day := some t.date.day,
          hour := some t.time.hour, minute := some t.time.minute, second := some t.time.second,
          nanos := some (v % 10 ^ k * 10 ^ (9 - k)) } := by
      rw [readLayout, hlayout true, if_pos rfl, readItems, read_fraction_digits hk h9]
      rfl
    rw [hfirst, hsecond, hthird, Query.except_ok_bind,
      toDateTime_written ht hy.1 (by rw [Option.getD_some, hv])]
    rfl

end DateTime

end FilterQuery

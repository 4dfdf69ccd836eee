import FilterQuery.Proofs.Calendar
import FilterQuery.Proofs.ClauseGrammar
import FilterQuery.Table.Cell

/-!
# Date cells written and read back

A date cell is written as `{"$date": "YYYY-MM-DDThh:mm:ss.mmmZ"}`, in UTC and always with
milliseconds (`Cell.toJson`). Reading such an object back (`Cell.ofJson`) gives the same
instant cut to whole milliseconds, when the year has four digits; a year before 0 or after
9999 is written with its sign, which the reader refuses. Every other cell comes back as it
was (`Cell.reread` says what comes back). So a cell read from JSON comes back exactly when it
holds no fraction of a millisecond and its year, in UTC, is 0 to 9999.

The date-times the reader gives are `Stored`: the date is one the count of days reaches, the
time lies within its day, and a fraction of a second or more (a leap second) falls only in
the last second of a minute, since an offset moves the time by whole minutes
(`readRfc3339_stored`). Written with four-digit fields, such a date-time reads back field by
field (`readRfc3339_toRfc3339Millis`).

## Key results
- `padded_toList`: a number padded to a width it fits is its last digits in that width
- `readRfc3339_toRfc3339Millis`: the written text reads back, cut to milliseconds
- `readRfc3339_toRfc3339Millis_signed`: a year written with its sign is refused
- `readRfc3339_stored`: what the reader gives is `Stored`
- `ofJson_toJson`: a cell read from JSON comes back from its JSON as `reread` says
- `reread_eq_ok_self_iff`: when that is the cell itself
-/

namespace FilterQuery

/-! ## Fixed-width digits -/

namespace DateTime

open DateScan

/-- `n` in exactly `w` decimal digits: its last `w` digits. -/
def fixedDigits : Nat → Nat → List Char
  | 0, _ => []
  | w + 1, n => fixedDigits w (n / 10) ++ [Nat.digitChar (n % 10)]

theorem fixedDigits_zero (w : Nat) : fixedDigits w 0 = List.replicate w '0' := by
  induction w with
  | zero => rfl
  | succ w ih =>
    rw [fixedDigits, Nat.zero_div, ih, List.replicate_succ']
    rfl

/-- A number padded to a width it fits in is its last digits in that width. -/
theorem padded_toList {w n : Nat} (hw : 0 < w) (h : n < 10 ^ w) :
    (padded n w).toList = fixedDigits w n := by
  obtain ⟨w, rfl⟩ := Nat.exists_eq_add_one_of_ne_zero (Nat.pos_iff_ne_zero.1 hw)
  clear hw
  induction w generalizing n with
  | zero =>
    rw [padded, String.toList_ofList, Nat.toDigits_of_lt_base (by simpa using h)]
    simp [fixedDigits, Nat.mod_eq_of_lt (by simpa using h : n < 10)]
  | succ w ih =>
    by_cases hn : n < 10
    · -- one digit, after zeros
      rw [padded, String.toList_ofList, Nat.toDigits_of_lt_base hn, fixedDigits,
        Nat.div_eq_of_lt hn, fixedDigits_zero, Nat.mod_eq_of_lt hn]
      simp
    · -- the digits of `n / 10`, padded one place less, then the last digit
      have hdiv : n / 10 < 10 ^ (w + 1) := by
        rw [Nat.div_lt_iff_lt_mul (by decide)]
        simpa [Nat.pow_succ] using h
      have hlen := (Nat.length_toDigits_le_iff (n := n / 10) (by decide) (by omega)).2 hdiv
      rw [fixedDigits, ← ih hdiv, padded, padded, String.toList_ofList, String.toList_ofList,
        Nat.toDigits_of_base_le (by decide) (by omega), List.length_append, List.length_singleton,
        ← List.append_assoc]
      congr 3
      omega

theorem isDigit_digitChar_mod (n : Nat) : (Nat.digitChar (n % 10)).isDigit = true := by
  have h : n % 10 < 10 := Nat.mod_lt n (by decide)
  generalize n % 10 = k at h
  interval_cases k <;> rfl

theorem digitValue_digitChar_mod (n : Nat) : digitValue (Nat.digitChar (n % 10)) = n % 10 := by
  have h : n % 10 < 10 := Nat.mod_lt n (by decide)
  generalize n % 10 = k at h
  interval_cases k <;> rfl

/-! ## Date-times as the reader gives them -/

/-- A date-time as the reader of RFC 3339 gives it: its date is one the count of days
    reaches, its seconds lie within the day, its fraction is below two seconds, and a fraction
    of a second or more (a leap second) falls only in the last second of a minute. -/
structure Stored (t : DateTime) : Prop where
  date_ofDays : CivilDate.ofDays t.date.toDays = t.date
  seconds_lt : t.time.seconds < 86400
  nanos_lt : t.time.nanos < 2000000000
  leap : 1000000000 ≤ t.time.nanos → t.time.seconds % 60 = 59

/-- The date-time with its fraction cut to whole milliseconds. -/
def truncMillis (t : DateTime) : DateTime :=
  ⟨t.date, ⟨t.time.seconds, t.time.nanos / 1000000 * 1000000⟩⟩

theorem Stored.isValid {t : DateTime} (ht : t.Stored) : t.date.isValid = true := by
  rw [← ht.date_ofDays]
  exact CivilDate.ofDays_isValid _

/-- The fields of a stored date-time have at most two digits, but for the year. -/
theorem Stored.fields_lt {t : DateTime} (ht : t.Stored) :
    t.date.month < 100 ∧ t.date.day < 100 ∧ t.time.hour < 24 ∧ t.time.minute < 60 ∧
      t.time.second ≤ 60 ∧ t.time.fraction / 1000000 < 1000 := by
  have hvalid := ht.isValid
  have hdays : CivilDate.daysInMonth t.date.year t.date.month ≤ 31 := by
    unfold CivilDate.daysInMonth
    split <;> (try split) <;> omega
  simp only [CivilDate.isValid, Bool.and_eq_true, decide_eq_true_eq] at hvalid
  have hs := ht.seconds_lt
  have hn := ht.nanos_lt
  simp only [TimeOfDay.hour, TimeOfDay.minute, TimeOfDay.second, TimeOfDay.fraction]
  omega

/-- A stored date-time with a year of four digits is written as its fields, each in its width. -/
theorem toList_toRfc3339Millis {t : DateTime} (ht : t.Stored)
    (hy : 0 ≤ t.date.year ∧ t.date.year ≤ 9999) :
    t.toRfc3339Millis.toList =
      fixedDigits 4 t.date.year.toNat ++ '-' :: fixedDigits 2 t.date.month ++
        '-' :: fixedDigits 2 t.date.day ++ 'T' :: fixedDigits 2 t.time.hour ++
        ':' :: fixedDigits 2 t.time.minute ++ ':' :: fixedDigits 2 t.time.second ++
        '.' :: fixedDigits 3 (t.time.fraction / 1000000) ++ ['Z'] := by
  obtain ⟨hmo, hd, hh, hmi, hs, hms⟩ := ht.fields_lt
  rw [toRfc3339Millis, dateText, clockText, yearText, if_pos hy]
  simp (disch := omega) only [String.toList_append, padded_toList]
  simp

theorem length_le_utf8ByteSize (s : String) : s.length ≤ s.utf8ByteSize := by
  rw [← String.ofList_toList (s := s), String.utf8ByteSize, String.toByteArray_ofList,
    String.length, String.toList_ofList]
  generalize s.toList = l
  induction l with
  | nil => simp
  | cons c l ih =>
    rw [List.utf8Encode_cons, ByteArray.size_append, List.utf8Encode_singleton, List.length_cons,
      List.size_toByteArray]
    have : 0 < (String.utf8EncodeChar c).length :=
      List.length_pos_iff.2 String.utf8EncodeChar_ne_nil
    omega

theorem length_stampShape : stampShape.length = 19 := by decide

/-- A text of nineteen characters or more is not cut short. -/
theorem not_utf8ByteSize_lt {s : String} (h : 19 ≤ s.toList.length) :
    ¬ s.utf8ByteSize < stampShape.length := by
  have hbytes := length_le_utf8ByteSize s
  rw [← String.length_toList] at hbytes
  rw [length_stampShape]
  omega

/-! ## Reading the written text -/

/-- The stamp `YYYY-MM-DDThh:mm:ss` of the given fields, each in its width. -/
def stampText (y mo d h mi s : Nat) : List Char :=
  fixedDigits 4 y ++ '-' :: fixedDigits 2 mo ++ '-' :: fixedDigits 2 d ++ 'T' ::
    fixedDigits 2 h ++ ':' :: fixedDigits 2 mi ++ ':' :: fixedDigits 2 s

section Stamp

variable (y mo d h mi s : Nat) (rest : List Char)

theorem length_stampText : (stampText y mo d h mi s).length = 19 := by
  simp [stampText, fixedDigits]

theorem fitsShape_stampText : fitsShape stampShape (stampText y mo d h mi s ++ rest) = true := by
  have hshape : stampShape = ['d', 'd', 'd', 'd', '-', 'd', 'd', '-', 'd', 'd', 'T', 'd', 'd',
      ':', 'd', 'd', ':', 'd', 'd'] := by
    decide
  rw [hshape]
  simp [stampText, fixedDigits, fitsShape, fitsPlace]
  omega

theorem drop_stampText : (stampText y mo d h mi s ++ rest).drop stampShape.length = rest := by
  rw [length_stampShape, ← length_stampText y mo d h mi s, List.drop_left]

/-- Each field is read back from its place in the stamp, as its last digits. -/
theorem fieldAt_stampText :
    fieldAt (stampText y mo d h mi s ++ rest) 0 4 = y % 10000 ∧
      fieldAt (stampText y mo d h mi s ++ rest) 5 2 = mo % 100 ∧
      fieldAt (stampText y mo d h mi s ++ rest) 8 2 = d % 100 ∧
      fieldAt (stampText y mo d h mi s ++ rest) 11 2 = h % 100 ∧
      fieldAt (stampText y mo d h mi s ++ rest) 14 2 = mi % 100 ∧
      fieldAt (stampText y mo d h mi s ++ rest) 17 2 = s % 100 := by
  simp only [stampText, fixedDigits, fieldAt, List.cons_append,
    List.nil_append, List.drop_succ_cons, List.drop_zero, List.take_succ_cons, List.take_zero,
    List.foldl_cons, List.foldl_nil, digitValue_digitChar_mod]
  omega

end Stamp

theorem utf8Size_le_byteLength (l : List Char) (c : Char) : c.utf8Size ≤ byteLength (l ++ [c]) := by
  induction l with
  | nil => simp [byteLength]
  | cons d l ih =>
    simp only [byteLength, List.cons_append, List.foldr_cons] at ih ⊢
    omega

/-- Three digits of milliseconds and `Z` read as that many nanoseconds. -/
theorem scanFraction_millis (g : Nat) :
    scanFraction (fixedDigits 3 g ++ ['Z']) = .ok (g % 1000 * 1000000, ['Z']) := by
  have hbytes : ¬ byteLength (fixedDigits 3 g ++ ['Z']) < 1 := by
    have hZ : 'Z'.utf8Size = 1 := by decide
    have hle := utf8Size_le_byteLength (fixedDigits 3 g) 'Z'
    omega
  have htake : takeDigits 9 (fixedDigits 3 g ++ ['Z']) 0 0 = (3, g % 1000, ['Z']) := by
    simp [fixedDigits, takeDigits, digitValue_digitChar_mod, Nat.mod_lt _ (by decide : 0 < 10)]
    omega
  have hpow : ¬ Nat.pow 2 63 ≤ g % 1000 := by
    simp only [Nat.pow_eq]
    omega
  simp only [scanFraction, scanNumber, if_neg hbytes, htake, if_neg (by decide : ¬ 3 < 1),
    if_neg hpow, Query.except_ok_bind]
  simp [fixedDigits]
  rfl

theorem scanOffset_zulu : scanOffset ['Z'] oneColon true false = .ok (0, []) := rfl

/-- The clock of a stored date-time, its fraction cut to milliseconds, from its written fields. -/
theorem ofFields?_truncMillis {t : DateTime} (ht : t.Stored) :
    TimeOfDay.ofFields? t.time.hour t.time.minute t.time.second
        (t.time.fraction / 1000000 * 1000000) = some t.truncMillis.time := by
  have hs := ht.seconds_lt
  have hn := ht.nanos_lt
  have hleap := ht.leap
  have hrange : t.time.hour < 24 ∧ t.time.minute < 60 ∧ t.time.second ≤ 60 ∧
      t.time.fraction / 1000000 * 1000000 < 1000000000 := by
    simp only [TimeOfDay.hour, TimeOfDay.minute, TimeOfDay.second, TimeOfDay.fraction]
    omega
  unfold TimeOfDay.ofFields?
  rw [if_pos hrange]
  -- a leap second is written as second 60 and read back as the last second of its minute
  by_cases h60 : t.time.second = 60
  · rw [if_pos h60]
    simp only [truncMillis, TimeOfDay.hour, TimeOfDay.minute, TimeOfDay.second,
      TimeOfDay.fraction, Option.some.injEq, TimeOfDay.mk.injEq] at h60 ⊢
    omega
  · rw [if_neg h60]
    simp only [truncMillis, TimeOfDay.hour, TimeOfDay.minute, TimeOfDay.second,
      TimeOfDay.fraction, Option.some.injEq, TimeOfDay.mk.injEq] at h60 ⊢
    omega

/-- Moving a date-time by no seconds keeps it, when its date is one the count of days reaches
    and its seconds lie within the day. -/
theorem addSeconds_zero {t : DateTime} (hd : CivilDate.ofDays t.date.toDays = t.date)
    (hs : t.time.seconds < 86400) : t.addSeconds 0 = t := by
  have hdiv : (t.time.seconds : Int) / 86400 = 0 := by omega
  have hmod : ((t.time.seconds : Int) % 86400).toNat = t.time.seconds := by omega
  simp only [addSeconds, Int.add_zero, hdiv, hmod, hd]

/-- The fields of a stored date-time, its fraction cut to milliseconds, give it back. -/
theorem toDateTime_fields {t : DateTime} (ht : t.Stored) (hy : 0 ≤ t.date.year) :
    ({ year := some t.date.year.toNat, month := some t.date.month, day := some t.date.day,
       hour := some t.time.hour, minute := some t.time.minute, second := some t.time.second,
       nanos := some (t.time.fraction / 1000000 * 1000000) } : LayoutFields).toDateTime =
      .ok t.truncMillis := by
  have hdate : ({ year := (t.date.year.toNat : Int), month := t.date.month, day := t.date.day } :
      CivilDate) = t.date := by
    rw [Int.toNat_of_nonneg hy]
  simp only [LayoutFields.toDateTime, LayoutFields.toDate, LayoutFields.toTime, hdate,
    ht.isValid, if_true, Option.getD_some, ofFields?_truncMillis ht, Query.except_ok_bind]
  rfl

theorem readRfc3339_toRfc3339Millis {t : DateTime} (ht : t.Stored)
    (hy : 0 ≤ t.date.year ∧ t.date.year ≤ 9999) :
    readRfc3339 t.toRfc3339Millis = .ok t.truncMillis := by
  obtain ⟨hmo, hd, hh, hmi, hs, hms⟩ := ht.fields_lt
  have hL : t.toRfc3339Millis.toList =
      stampText t.date.year.toNat t.date.month t.date.day t.time.hour t.time.minute
        t.time.second ++ '.' :: (fixedDigits 3 (t.time.fraction / 1000000) ++ ['Z']) := by
    rw [toList_toRfc3339Millis ht hy]
    simp [stampText]
  have hsize : ¬ t.toRfc3339Millis.utf8ByteSize < stampShape.length := by
    apply not_utf8ByteSize_lt
    rw [hL]
    simp [length_stampText, fixedDigits]
  obtain ⟨hfy, hfmo, hfd, hfh, hfmi, hfs⟩ := fieldAt_stampText t.date.year.toNat t.date.month
    t.date.day t.time.hour t.time.minute t.time.second
    ('.' :: (fixedDigits 3 (t.time.fraction / 1000000) ++ ['Z']))
  -- every field fits its width, so the digits read back are the field itself
  have hmods : t.date.year.toNat % 10000 = t.date.year.toNat ∧ t.date.month % 100 = t.date.month ∧
      t.date.day % 100 = t.date.day ∧ t.time.hour % 100 = t.time.hour ∧
      t.time.minute % 100 = t.time.minute ∧ t.time.second % 100 = t.time.second ∧
      t.time.fraction / 1000000 % 1000 * 1000000 = t.time.fraction / 1000000 * 1000000 := by
    omega
  obtain ⟨hmy, hmmo, hmd, hmh, hmmi, hms', hmms⟩ := hmods
  unfold readRfc3339
  rw [if_neg hsize]
  simp only [hL, fitsShape_stampText, drop_stampText, readFraction, scanFraction_millis, hfy,
    hfmo, hfd, hfh, hfmi, hfs, hmy, hmmo, hmd, hmh, hmmi, hms', hmms, Bool.not_true,
    Bool.false_eq_true, if_false, Query.except_ok_bind, toDateTime_fields ht hy.1, scanOffset_zulu]
  -- no offset and nothing after `Z`: the date-time is moved by no seconds
  rw [if_neg (by decide), if_neg (by decide), Int.neg_zero]
  exact congrArg Except.ok (addSeconds_zero (t := t.truncMillis) ht.date_ofDays ht.seconds_lt)

theorem length_padded (n w : Nat) : w ≤ (padded n w).toList.length := by
  simp only [padded, String.toList_ofList, List.length_append, List.length_replicate]
  omega

/-- A year before 0 or after 9999 is written with its sign, which the reader takes for a digit
    that is missing. -/
theorem readRfc3339_toRfc3339Millis_signed {t : DateTime}
    (hy : ¬(0 ≤ t.date.year ∧ t.date.year ≤ 9999)) :
    readRfc3339 t.toRfc3339Millis = .error .invalid := by
  -- the text starts with the sign and is longer than the stamp
  have hL : ∃ c rest, t.toRfc3339Millis.toList = c :: rest ∧ c.isDigit = false ∧
      18 ≤ rest.length := by
    have h₁ := length_padded t.date.year.natAbs 4
    have h₂ := length_padded t.date.month 2
    have h₃ := length_padded t.date.day 2
    have h₄ := length_padded t.time.hour 2
    have h₅ := length_padded t.time.minute 2
    have h₆ := length_padded t.time.second 2
    rw [toRfc3339Millis, dateText, clockText, yearText, if_neg hy]
    split_ifs
    all_goals
      simp only [String.toList_append, List.append_assoc]
      refine ⟨_, _, rfl, by decide, ?_⟩
      simp
      omega
  obtain ⟨c, rest, hL, hc, hlen⟩ := hL
  have hsize : ¬ t.toRfc3339Millis.utf8ByteSize < stampShape.length := by
    apply not_utf8ByteSize_lt
    rw [hL, List.length_cons]
    omega
  have hshape : fitsShape stampShape (c :: rest) = false := by
    have : stampShape = 'd' :: "ddd-dd-ddTdd:dd:dd".toList := by decide
    rw [this, fitsShape, fitsPlace, if_pos rfl, hc, Bool.false_and]
  unfold readRfc3339
  rw [if_neg hsize]
  simp only [hL, hshape, Bool.not_false, if_true]
  rfl

/-! ## What the reader gives -/

theorem ofFields?_stored {hour minute second nanos : Nat} {time : TimeOfDay}
    (h : TimeOfDay.ofFields? hour minute second nanos = some time) :
    time.seconds < 86400 ∧ time.nanos < 2000000000 ∧
      (1000000000 ≤ time.nanos → time.seconds % 60 = 59) := by
  unfold TimeOfDay.ofFields? at h
  split_ifs at h with hrange h60
  · cases h
    dsimp only
    omega
  · cases h
    dsimp only
    omega

theorem toTime_stored {f : LayoutFields} {time : TimeOfDay} (h : f.toTime = .ok time) :
    time.seconds < 86400 ∧ time.nanos < 2000000000 ∧
      (1000000000 ≤ time.nanos → time.seconds % 60 = 59) := by
  unfold LayoutFields.toTime at h
  split at h
  · split at h
    · cases h
      exact ofFields?_stored (by assumption)
    · cases h
  · cases h

theorem toDateTime_time {f : LayoutFields} {l : DateTime} (ho : f.offset = none)
    (h : f.toDateTime = .ok l) : f.toTime = .ok l.time := by
  unfold LayoutFields.toDateTime at h
  obtain ⟨date, -, h⟩ := Query.bind_eq_ok_iff.1 h
  obtain ⟨time, htime, h⟩ := Query.bind_eq_ok_iff.1 h
  rw [ho] at h
  cases h
  exact htime

/-- Every offset is a whole number of minutes. -/
theorem scanOffset_emod {s rest : List Char} {colon : List Char → Except DateError (List Char)}
    {zulu missingMinutes : Bool} {offset : Int}
    (h : scanOffset s colon zulu missingMinutes = .ok (offset, rest)) : offset % 60 = 0 := by
  unfold scanOffset at h
  simp only [bind, Except.bind, pure, Except.pure, throw, throwThe, MonadExceptOf.throw] at h
  -- every branch that succeeds returns `0` or `±(hours * 3600 + minutes * 60)`; the others fail
  repeat' split at h
  all_goals simp only [reduceCtorEq, Except.ok.injEq, Prod.mk.injEq] at h
  all_goals omega

/-- Moving a date-time by a number of seconds that keeps a leap second on the last second of
    its minute gives a stored date-time. -/
theorem Stored.addSeconds {t : DateTime} {delta : Int} (hn : t.time.nanos < 2000000000)
    (hleap : 1000000000 ≤ t.time.nanos → (t.time.seconds + delta) % 60 = 59) :
    (t.addSeconds delta).Stored where
  date_ofDays := by rw [DateTime.addSeconds, CivilDate.toDays_ofDays]
  seconds_lt := by
    simp only [DateTime.addSeconds]
    omega
  nanos_lt := hn
  leap h := by
    simp only [DateTime.addSeconds] at h ⊢
    have := hleap h
    omega

/-- Every date-time the reader gives is stored. -/
theorem readRfc3339_stored {text : String} {t : DateTime} (h : readRfc3339 text = .ok t) :
    t.Stored := by
  unfold readRfc3339 at h
  simp only [bind, Except.bind, pure, Except.pure, throw, throwThe, MonadExceptOf.throw] at h
  -- one branch succeeds: the stamp read with no offset, then moved by the offset
  repeat' split at h
  all_goals simp only [reduceCtorEq, Except.ok.injEq] at h
  rename_i local_ hlocal _ offset hoffset _ _
  subst h
  obtain ⟨offset, rest⟩ := offset
  obtain ⟨-, hn, hleap⟩ := toTime_stored (toDateTime_time rfl hlocal)
  have hmin := scanOffset_emod hoffset
  refine Stored.addSeconds hn fun hle => ?_
  have := hleap hle
  dsimp only at hmin ⊢
  omega

theorem truncMillis_eq_self_iff {t : DateTime} :
    t.truncMillis = t ↔ t.time.nanos % 1000000 = 0 := by
  obtain ⟨date, seconds, nanos⟩ := t
  simp only [truncMillis, DateTime.mk.injEq, TimeOfDay.mk.injEq, true_and]
  omega

end DateTime

namespace Cell

open Query

/-! ## Cells read back from their JSON -/

/-- What reading a cell's JSON back gives: the cell itself, except that a date-time keeps
    whole milliseconds only, and one whose year is written with a sign is refused. -/
def reread : Literal → Except String Literal
  | .date t =>
    if 0 ≤ t.date.year ∧ t.date.year ≤ 9999 then .ok (.date t.truncMillis)
    else .error ("invalid date " ++ EmitError.tick ++ t.toRfc3339Millis ++ EmitError.tick ++
      ": " ++ DateError.invalid.message)
  | v => .ok v

/-- A cell reads back as itself exactly when it is not a date-time, or is one of whole
    milliseconds in a year of four digits. -/
theorem reread_eq_ok_self_iff {v : Literal} :
    reread v = .ok v ↔ ∀ t, v = .date t →
      (0 ≤ t.date.year ∧ t.date.year ≤ 9999) ∧ t.time.nanos % 1000000 = 0 := by
  cases v with
  | date t =>
    simp only [reread]
    by_cases hy : 0 ≤ t.date.year ∧ t.date.year ≤ 9999
    · rw [if_pos hy]
      simp only [Except.ok.injEq, Literal.date.injEq, DateTime.truncMillis_eq_self_iff,
        forall_eq', hy, true_and]
    · rw [if_neg hy]
      simp only [reduceCtorEq, false_iff, not_forall]
      exact ⟨t, rfl, fun h => hy h.1⟩
  | _ => simp [reread]

theorem readDateObject_eq_ok {fields : List (String × Json)} {t : DateTime}
    (h : readDateObject fields = .ok t) :
    ∃ text, fields = [("$date", .str text)] ∧ DateTime.readRfc3339 text = .ok t := by
  unfold readDateObject at h
  split at h
  · rename_i text
    split at h
    · rename_i t' hread
      cases h
      exact ⟨text, rfl, hread⟩
    · cases h
  · cases h

/-- A stored date-time's JSON reads back as `reread` says. -/
theorem ofJson_dateJson {t : DateTime} (ht : t.Stored) :
    ofJson (dateJson t) = reread (.date t) := by
  simp only [ofJson, dateJson, readDateObject, reread]
  by_cases hy : 0 ≤ t.date.year ∧ t.date.year ≤ 9999
  · rw [if_pos hy, DateTime.readRfc3339_toRfc3339Millis ht hy]
    rfl
  · rw [if_neg hy, DateTime.readRfc3339_toRfc3339Millis_signed hy]
    rfl

/-- Reading back the JSON of a cell read from JSON gives what `reread` says: the cell itself,
    but a date-time cut to whole milliseconds, and an error for a year written with a sign.
    JSON numbers are finite. -/
theorem ofJson_toJson {j : Json} {v : Literal} (hj : ofJson j = .ok v)
    (hfin : ∀ x, j = .float x → x.isFinite = true) : ofJson (toJson v) = reread v := by
  cases j with
  | float x =>
    -- a finite float is written as itself
    cases hj
    rw [toJson, if_pos (hfin x rfl)]
    rfl
  | obj fields =>
    -- only a date object is read, and the reader's date-times are stored
    obtain ⟨t, hobj, hv⟩ := Query.bind_eq_ok_iff.1 hj
    cases hv
    obtain ⟨text, -, hread⟩ := readDateObject_eq_ok hobj
    exact ofJson_dateJson (DateTime.readRfc3339_stored hread)
  | arr items => cases hj
  | _ =>
    cases hj
    rfl

theorem ofJson_toJson_half_milli :
    ofJson (toJson (.date ⟨⟨2024, 1, 1⟩, ⟨0, 500000⟩⟩)) =
      reread (.date ⟨⟨2024, 1, 1⟩, ⟨0, 500000⟩⟩) :=
  ofJson_toJson (j := .obj [("$date", .str "2024-01-01T00:00:00.0005Z")]) rfl
    (fun _ h => by cases h)

theorem ofJson_toJson_cuts :
    ofJson (.obj [("$date", .str "2024-01-01T00:00:00.0005Z")]) =
        .ok (.date ⟨⟨2024, 1, 1⟩, ⟨0, 500000⟩⟩) ∧
      ofJson (toJson (.date ⟨⟨2024, 1, 1⟩, ⟨0, 500000⟩⟩)) = .ok (.date ⟨⟨2024, 1, 1⟩, ⟨0, 0⟩⟩) ∧
      ofJson (.obj [("$date", .str "0000-01-01T00:00:00+01:00")]) =
        .ok (.date ⟨⟨-1, 12, 31⟩, ⟨82800, 0⟩⟩) ∧
      ofJson (toJson (.date ⟨⟨-1, 12, 31⟩, ⟨82800, 0⟩⟩)) =
        .error "invalid date \x60-0001-12-31T23:00:00.000Z\x60: input contains invalid characters" := by
  refine ⟨rfl, rfl, ?_, ?_⟩
  · -- an hour east of UTC at the first instant of year 0 is the last hour of the year before
    have hread : (DateTime.readRfc3339 "0000-01-01T00:00:00+01:00").toOption =
        some ⟨⟨-1, 12, 31⟩, ⟨82800, 0⟩⟩ := by
      decide +kernel
    simp only [ofJson, readDateObject]
    cases hr : DateTime.readRfc3339 "0000-01-01T00:00:00+01:00" with
    | error e => simp [hr, Except.toOption] at hread
    | ok t =>
      simp only [hr, Except.toOption, Option.some.injEq] at hread
      rw [hread]
      rfl
  -- the year before 0 is written with its sign, which the reader refuses
  simp only [toJson, dateJson, ofJson, readDateObject]
  rw [show DateTime.toRfc3339Millis ⟨⟨-1, 12, 31⟩, ⟨82800, 0⟩⟩ = "-0001-12-31T23:00:00.000Z" by
    decide]
  rw [show DateTime.readRfc3339 "-0001-12-31T23:00:00.000Z" = .error .invalid by rfl]
  rfl

end Cell

end FilterQuery

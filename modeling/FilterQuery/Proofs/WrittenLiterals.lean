import FilterQuery.Proofs.FloatText
import FilterQuery.Proofs.DateLiteral
import FilterQuery.Proofs.GuardRoundTrip
import FilterQuery.Query.Clause

/-!
# Written literals read back

`Literal.render` writes a literal as filter text, and a guarded clause reads its values with
`Literal.read`. A literal that fits the reader reads back from what was written: an integer
of 64 bits from its decimal digits, a finite number from its shortest decimal (which has a
point or an exponent, so it is no integer), a stored date-time with a four-digit year from
its date and clock (which hold a blank, so they are no number), and `NULL`, `TRUE` and
`FALSE` as themselves. A text is written between single quotes; the guard turns it into a
placeholder, which looks up its span and unquotes it.

The words a literal is written as (`Literal.words`) are words of a clause: none is empty,
holds a character that ends a word, or spells a keyword of the splitter.

## Key results
- `readNumber?_toString`, `readNumber?_toText`: written numbers read back as numbers
- `Literal.read_render`: a literal other than a text reads back from its written form
- `Literal.read_placeholder`: a placeholder reads back as the text its span quotes
- `Literal.clauseWord_of_mem_words`: the words of a written literal are words of a clause
- `Literal.read_joinWords_words`: a literal reads back from its words, wherever it sits
-/

namespace FilterQuery

namespace Binary64

/-! ## The characters of a written number -/

theorem mem_positional {ds : List Char} {e : Int} {c : Char} (h : c ∈ (positional ds e).toList) :
    c ∈ ds ∨ c = '0' ∨ c = '.' := by
  unfold positional at h
  split at h
  · dsimp only at h
    split at h
    · simp only [String.toList_append, String.toList_ofList, List.mem_append] at h
      rcases h with (h | h) | h
      · exact .inl h
      · exact .inr (.inl (List.eq_of_mem_replicate h))
      · simp at h
        rcases h with rfl | rfl <;> simp
    · simp only [String.toList_append, String.toList_ofList, List.mem_append] at h
      rcases h with (h | h) | h
      · exact .inl (List.mem_of_mem_take h)
      · simp at h
        exact .inr (.inr h)
      · exact .inl (List.mem_of_mem_drop h)
  · simp only [String.toList_append, String.toList_ofList, List.mem_append] at h
    rcases h with h | h | h
    · simp at h
      rcases h with rfl | rfl <;> simp
    · exact .inr (.inl (List.eq_of_mem_replicate h))
    · exact .inl h

theorem point_mem_positional (ds : List Char) (e : Int) : '.' ∈ (positional ds e).toList := by
  unfold positional
  split
  · dsimp only
    split <;> simp
  · simp

theorem mem_scientific {ds : List Char} {e : Int} {c : Char} (h : c ∈ (scientific ds e).toList) :
    c ∈ ds ∨ c = '0' ∨ c = '.' ∨ c = 'e' ∨ c ∈ (toString e).toList := by
  unfold scientific at h
  simp only [String.toList_append, List.mem_append] at h
  rcases h with (h | h) | h
  · split at h
    · simp at h
      exact .inr (.inl h)
    · simp at h
      exact .inl (h ▸ List.mem_singleton_self _)
    · simp only [String.toList_append, String.toList_singleton, String.toList_ofList,
        List.mem_append, List.mem_singleton] at h
      rcases h with (rfl | h) | h
      · exact .inl List.mem_cons_self
      · simp at h
        exact .inr (.inr (.inl h))
      · exact .inl (List.mem_cons_of_mem _ h)
  · simp at h
    exact .inr (.inr (.inr (.inl h)))
  · exact .inr (.inr (.inr (.inr h)))

theorem e_mem_scientific (ds : List Char) (e : Int) : 'e' ∈ (scientific ds e).toList := by
  simp [scientific]

theorem exists_digit_positional {ds : List Char} (hne : ds ≠ []) (hds : ∀ c ∈ ds, c.isDigit = true)
    (e : Int) : ∃ c ∈ (positional ds e).toList, c.isDigit = true := by
  obtain ⟨d, rest, rfl⟩ := List.exists_cons_of_ne_nil hne
  unfold positional
  split
  · dsimp only
    split
    · exact ⟨'0', by simp, rfl⟩
    · exact ⟨d, by simp, hds d List.mem_cons_self⟩
  · exact ⟨'0', by simp, rfl⟩

theorem exists_digit_scientific {ds : List Char} (hne : ds ≠ []) (hds : ∀ c ∈ ds, c.isDigit = true)
    (e : Int) : ∃ c ∈ (scientific ds e).toList, c.isDigit = true := by
  obtain ⟨d, rest, rfl⟩ := List.exists_cons_of_ne_nil hne
  refine ⟨d, ?_, hds d List.mem_cons_self⟩
  cases rest <;> simp [scientific]

/-- Facts of the characters of a layout that hold of the sign in front of it too. -/
theorem mem_sign_append {P : Char → Prop} (hminus : P '-') (neg : Bool) {s : String}
    (h : ∀ c ∈ s.toList, P c) : ∀ c ∈ ((if neg then "-" else "") ++ s).toList, P c := by
  intro c hc
  rw [String.toList_append, List.mem_append] at hc
  rcases hc with hc | hc
  · cases neg
    · simp at hc
    · simp only [if_true] at hc
      simp at hc
      rw [hc]
      exact hminus
  · exact h c hc

/-- The layouts of digits are made of number characters only, with a digit and a point or an
    exponent among them. -/
theorem layout_chars {ds : List Char} (hne : ds ≠ []) (hds : ∀ c ∈ ds, c.isDigit = true)
    (e : Int) (b : Bool) :
    (∀ c ∈ (if b then positional ds e else scientific ds e).toList, Query.isNumberChar c = true) ∧
      (∃ c ∈ (if b then positional ds e else scientific ds e).toList, c.isDigit = true) ∧
      ∃ c ∈ (if b then positional ds e else scientific ds e).toList, c = '.' ∨ c = 'e' := by
  have hnum : ∀ c, c.isDigit = true ∨ c = '0' ∨ c = '.' ∨ c = 'e' ∨ c = '-' →
      Query.isNumberChar c = true := by
    rintro c (h | rfl | rfl | rfl | rfl)
    · simp [Query.isNumberChar, h]
    all_goals rfl
  cases b
  · refine ⟨fun c hc => ?_, exists_digit_scientific hne hds e, ⟨'e', e_mem_scientific ds e, .inr rfl⟩⟩
    rcases mem_scientific hc with h | h | h | h | h
    · exact hnum c (.inl (hds c h))
    · exact hnum c (.inr (.inl h))
    · exact hnum c (.inr (.inr (.inl h)))
    · exact hnum c (.inr (.inr (.inr (.inl h))))
    · rw [toList_toString_int, List.mem_append] at h
      rcases h with h | h
      · split at h
        · exact hnum c (.inr (.inr (.inr (.inr (List.mem_singleton.1 h)))))
        · simp at h
      · exact hnum c (.inl (Nat.isDigit_of_mem_toDigits (by decide) (by decide) h))
  · refine ⟨fun c hc => ?_, exists_digit_positional hne hds e,
      ⟨'.', point_mem_positional ds e, .inl rfl⟩⟩
    rcases mem_positional hc with h | h | h
    · exact hnum c (.inl (hds c h))
    · exact hnum c (.inr (.inl h))
    · exact hnum c (.inr (.inr (.inl h)))

/-- The written form of a finite number is made of number characters only, with a digit and a
    point or an exponent among them. -/
theorem toText_chars {x : Binary64} (hx : x.isFinite = true) :
    (∀ c ∈ (toText x).toList, Query.isNumberChar c = true) ∧
      (∃ c ∈ (toText x).toList, c.isDigit = true) ∧ (∃ c ∈ (toText x).toList, c = '.' ∨ c = 'e') := by
  have hnan : x.isNaN = false := by
    simp only [isFinite, bne_iff_ne, ne_eq] at hx
    simp [isNaN, hx]
  have hminus : Query.isNumberChar '-' = true := rfl
  unfold toText
  rw [if_neg (by rw [hnan]; decide)]
  dsimp only
  rw [if_neg (by rw [hx]; decide)]
  by_cases hm : x.significand = 0
  · -- zero
    rw [if_pos hm]
    refine ⟨mem_sign_append hminus x.negative ?_, ⟨'0', ?_, rfl⟩, ⟨'.', ?_, .inl rfl⟩⟩
    · intro c hc
      simp at hc
      rcases hc with h | h | h <;> subst h <;> rfl
    · cases x.negative <;> simp
    · cases x.negative <;> simp
  · rw [if_neg hm]
    obtain ⟨d, rest, hds, hd, hrest⟩ := digitChars_eq_cons (shortest x).digits
    have hdigits : ∀ c ∈ digitChars (shortest x).digits, c.isDigit = true := by
      rw [hds]
      intro c hc
      rcases List.mem_cons.1 hc with rfl | hc
      · exact hd
      · exact hrest c hc
    have hne : digitChars (shortest x).digits ≠ [] := by simp [hds]
    generalize (shortest x).exponent + ((digitChars (shortest x).digits).length : Int) - 1 = e
    obtain ⟨hall, ⟨c, hc, hcd⟩, ⟨c', hc', hce⟩⟩ :=
      layout_chars hne hdigits e (decide (-4 ≤ e ∧ e < 16))
    have hlayout : (if -4 ≤ e ∧ e < 16 then positional (digitChars (shortest x).digits) e
        else scientific (digitChars (shortest x).digits) e) =
        (if decide (-4 ≤ e ∧ e < 16) then positional (digitChars (shortest x).digits) e
        else scientific (digitChars (shortest x).digits) e) := by
      by_cases h : -4 ≤ e ∧ e < 16 <;> simp [h]
    rw [hlayout]
    refine ⟨mem_sign_append hminus x.negative hall, ⟨c, ?_, hcd⟩, ⟨c', ?_, hce⟩⟩
    · rw [String.toList_append]
      exact List.mem_append_right _ hc
    · rw [String.toList_append]
      exact List.mem_append_right _ hc'

end Binary64

/-! ## The characters of a written date-time -/

namespace DateTime

theorem isDigit_of_mem_padded {n w : Nat} {c : Char} (h : c ∈ (padded n w).toList) :
    c.isDigit = true := by
  simp only [padded, String.toList_ofList, List.mem_append] at h
  rcases h with h | h
  · rw [List.eq_of_mem_replicate h]
    rfl
  · exact Nat.isDigit_of_mem_toDigits (by decide) (by decide) h

theorem exists_isDigit_padded (n w : Nat) : ∃ c ∈ (padded n w).toList, c.isDigit = true := by
  obtain ⟨d, ds, hds⟩ := List.exists_cons_of_ne_nil (Nat.toDigits_ne_nil (b := 10) (n := n))
  refine ⟨d, ?_, Nat.isDigit_of_mem_toDigits (by decide) (by decide) (hds ▸ List.mem_cons_self)⟩
  simp [padded, hds]

theorem mem_dateText {d : CivilDate} {c : Char} (h : c ∈ (dateText d).toList) :
    c.isDigit = true ∨ c = '-' ∨ c = '+' := by
  simp only [dateText, yearText, String.toList_append, List.mem_append] at h
  rcases h with (((h | h) | h) | h) | h
  · split at h
    · exact .inl (isDigit_of_mem_padded h)
    · rw [String.toList_append, List.mem_append] at h
      rcases h with h | h
      · split at h <;> simp at h <;> simp [h]
      · exact .inl (isDigit_of_mem_padded h)
  · simp at h
    exact .inr (.inl h)
  · exact .inl (isDigit_of_mem_padded h)
  · simp at h
    exact .inr (.inl h)
  · exact .inl (isDigit_of_mem_padded h)

theorem mem_clockText {t : TimeOfDay} {c : Char} (h : c ∈ (clockText t).toList) :
    c.isDigit = true ∨ c = ':' := by
  simp only [clockText, String.toList_append, List.mem_append] at h
  rcases h with (((h | h) | h) | h) | h
  · exact .inl (isDigit_of_mem_padded h)
  · simp at h
    exact .inr h
  · exact .inl (isDigit_of_mem_padded h)
  · simp at h
    exact .inr h
  · exact .inl (isDigit_of_mem_padded h)

theorem mem_fractionText {f : Nat} {c : Char} (h : c ∈ (fractionText f).toList) :
    c.isDigit = true ∨ c = '.' := by
  unfold fractionText at h
  split_ifs at h
  · simp at h
  all_goals
    rw [String.toList_append, List.mem_append] at h
    rcases h with h | h
    · simp at h
      exact .inr h
    · exact .inl (isDigit_of_mem_padded h)

end DateTime

namespace Query

/-! ## Quoted texts -/

/-- A text between quotes `q`, with `\` and `q` escaped. -/
def quotedSpan (q : Char) (s : List Char) : List Char := q :: escapeWith q s ++ [q]

theorem unescape_cons_of_ne {c : Char} (hc : c ≠ '\\') (rest : List Char) :
    unescape (c :: rest) = c :: unescape rest := by
  cases rest with
  | nil => simp [unescape, hc]
  | cons d rest => simp [unescape, hc]

theorem unescape_escapeWith (q : Char) (s : List Char) : unescape (escapeWith q s) = s := by
  induction s with
  | nil => rfl
  | cons c s ih =>
    rw [escapeWith, List.flatMap_cons, ← escapeWith]
    split
    · rw [List.cons_append, List.singleton_append, unescape, ih]
    · rename_i hc
      have hb : c ≠ '\\' := by
        intro h
        simp [h] at hc
      rw [List.singleton_append, unescape_cons_of_ne hb, ih]

/-- A quoted text comes back from its span. -/
theorem unquote_quotedSpan (q : Char) (s : List Char) : unquote (quotedSpan q s) = s := by
  obtain ⟨x, xs, hx⟩ := List.exists_cons_of_ne_nil (l := escapeWith q s ++ [q]) (by simp)
  rw [quotedSpan, List.cons_append, hx, unquote, ← hx, List.dropLast_concat, unescape_escapeWith]

/-- Escaping makes the body of a span: no quote and no backslash stands alone. -/
theorem spanBody_escapeWith (q : Char) (s : List Char) : SpanBody q (escapeWith q s) := by
  induction s with
  | nil => exact .nil
  | cons c s ih =>
    rw [escapeWith, List.flatMap_cons, ← escapeWith]
    split
    · exact .escape ih
    · rename_i hc
      simp only [Bool.or_eq_true, decide_eq_true_eq, not_or] at hc
      exact .plain hc.1 hc.2 ih

/-! ## Literals read back -/

/-- A literal that reads back from its written form: an integer of 64 bits, a finite number, or
    a stored date-time whose year has four digits. -/
def Literal.Rereadable : Literal → Prop
  | .int i => -(2 ^ 63 : Int) ≤ i ∧ i < 2 ^ 63
  | .float x => x.isFinite = true
  | .date t => t.Stored ∧ 0 ≤ t.date.year ∧ t.date.year ≤ 9999
  | _ => True

/-- Lowering the case of a letter never gives a digit. -/
theorem isDigit_of_isDigit_asciiLower {d : Char} (h : (Text.asciiLower d).isDigit = true) :
    d.isDigit = true := by
  unfold Text.asciiLower at h
  split at h
  · rename_i hAZ
    exfalso
    simp only [Char.le_def, UInt32.le_iff_toNat_le] at hAZ
    simp only [Char.isDigit, Bool.and_eq_true, decide_eq_true_eq, UInt32.le_iff_toNat_le] at h
    simp at hAZ h
    rw [Char.toNat_ofNat] at h
    split at h <;> omega
  · exact h

/-- A word with a digit in it is no keyword. -/
theorem isWord_eq_false_of_isDigit {cs : List Char} {c : Char} (hc : c ∈ cs) (hd : c.isDigit = true)
    {k : String} (hk : ∀ d ∈ k.toList, d.isDigit = false) : Text.isWord cs k = false := by
  have hlower : Text.asciiLower c = c := by
    simp only [Char.isDigit, Bool.and_eq_true, decide_eq_true_eq, UInt32.le_iff_toNat_le] at hd
    simp at hd
    rw [Text.asciiLower, if_neg]
    simp only [Char.le_def, UInt32.le_iff_toNat_le, not_and, not_le]
    intro h
    simp at h ⊢
    omega
  rw [Bool.eq_false_iff]
  intro hw
  simp only [Text.isWord, Text.eqIgnoreCase, beq_iff_eq] at hw
  have hmem : Text.asciiLower c ∈ k.toList.map Text.asciiLower := hw ▸ List.mem_map_of_mem hc
  obtain ⟨d, hdk, hdc⟩ := List.mem_map.1 hmem
  rw [hlower] at hdc
  have := hk d hdk
  rw [isDigit_of_isDigit_asciiLower (hdc ▸ hd)] at this
  exact Bool.noConfusion this

/-! ## Numbers read back -/

/-- What `readInt64?` reads after its sign: the digits, and whether a minus came first. -/
theorem readInt64?_eq_of_sign {cs digits : List Char} {neg : Bool}
    (hsign : cs = (if neg then ['-'] else []) ++ digits) (hd : digits.head? ≠ some '-' ∧ digits.head? ≠ some '+') :
    readInt64? cs = if digits.isEmpty || !digits.all Char.isDigit then none
      else
        let v : Int := Binary64.digitsValue digits
        let v := if neg then -v else v
        if -(Nat.pow 2 63 : Int) ≤ v ∧ v < (Nat.pow 2 63 : Int) then some v else none := by
  unfold readInt64?
  split
  rename_i neg' digits' hpair
  split at hpair
  · rename_i rest
    obtain ⟨rfl, rfl⟩ := Prod.mk.inj hpair
    cases neg
    · simp only [Bool.false_eq_true, if_false, List.nil_append] at hsign
      simp [← hsign] at hd
    · simp only [if_true, List.cons_append, List.nil_append, List.cons.injEq, true_and] at hsign
      subst hsign
      rfl
  · rename_i rest
    obtain ⟨rfl, rfl⟩ := Prod.mk.inj hpair
    cases neg
    · simp only [Bool.false_eq_true, if_false, List.nil_append] at hsign
      simp [← hsign] at hd
    · simp at hsign
  · rename_i h1 h2
    obtain ⟨rfl, rfl⟩ := Prod.mk.inj hpair
    cases neg
    · simp only [Bool.false_eq_true, if_false, List.nil_append] at hsign
      subst hsign
      rfl
    · simp only [if_true, List.cons_append, List.nil_append] at hsign
      exact absurd hsign (h1 _)

/-- A word with a character that is neither a sign nor a digit is no 64-bit integer. -/
theorem readInt64?_eq_none_of_mem {cs : List Char} {c : Char} (hc : c ∈ cs) (hs : c ≠ '-' ∧ c ≠ '+')
    (hd : c.isDigit = false) : readInt64? cs = none := by
  unfold readInt64?
  split
  rename_i neg digits hpair
  -- whatever sign is taken off, `c` is among the digits
  have hmem : c ∈ digits := by
    split at hpair
    · obtain ⟨-, rfl⟩ := Prod.mk.inj hpair
      exact List.mem_of_ne_of_mem hs.1 hc
    · obtain ⟨-, rfl⟩ := Prod.mk.inj hpair
      exact List.mem_of_ne_of_mem hs.2 hc
    · obtain ⟨-, rfl⟩ := Prod.mk.inj hpair
      exact hc
  have hnot : digits.all Char.isDigit = false := List.all_eq_false.2 ⟨c, hmem, by simp [hd]⟩
  simp [hnot]

/-- An integer of 64 bits reads back from its decimal text. -/
theorem readInt64?_toString {i : Int} (hi : -(2 ^ 63 : Int) ≤ i ∧ i < 2 ^ 63) :
    readInt64? (toString i).toList = some i := by
  have hdigits : ∀ c ∈ Nat.toDigits 10 i.natAbs, c.isDigit = true :=
    Binary64.all_isDigit_digitChars i.natAbs
  obtain ⟨d, ds, hds⟩ := List.exists_cons_of_ne_nil (Nat.toDigits_ne_nil (b := 10) (n := i.natAbs))
  have hd : d.isDigit = true := hdigits d (hds ▸ List.mem_cons_self)
  have hhead : (Nat.toDigits 10 i.natAbs).head? ≠ some '-' ∧ (Nat.toDigits 10 i.natAbs).head? ≠ some '+' := by
    rw [hds]
    constructor <;> rintro ⟨⟩ <;> exact absurd hd (by decide)
  have hval : Binary64.digitsValue (Nat.toDigits 10 i.natAbs) = i.natAbs :=
    Binary64.digitsValue_digitChars i.natAbs
  rw [Binary64.toList_toString_int, @readInt64?_eq_of_sign _ _ (decide (i < 0)) (by simp) hhead,
    hval, if_neg (by rw [List.all_eq_true.2 hdigits, hds]; simp)]
  have hv : (if decide (i < 0) = true then -((i.natAbs : Nat) : Int) else (i.natAbs : Int)) = i := by
    by_cases h : i < 0
    · rw [if_pos (decide_eq_true h), Int.ofNat_natAbs_of_nonpos h.le, Int.neg_neg]
    · rw [if_neg (by simpa using h), Int.natAbs_of_nonneg (by omega)]
  simp only [hv]
  rw [if_pos (by simp only [Nat.pow_eq]; push_cast; omega)]

/-- A word with a character no number is written with is no number. -/
theorem readNumber?_eq_none_of_mem {cs : List Char} {c : Char} (hc : c ∈ cs)
    (h : isNumberChar c = false) : readNumber? cs = none := by
  have hall : cs.all isNumberChar = false := List.all_eq_false.2 ⟨c, hc, by simp [h]⟩
  simp [readNumber?, hall]

/-- An integer of 64 bits reads back as that integer. -/
theorem readNumber?_toString {i : Int} (hi : -(2 ^ 63 : Int) ≤ i ∧ i < 2 ^ 63) :
    readNumber? (toString i).toList = some (.int i) := by
  have hdigits : ∀ c ∈ Nat.toDigits 10 i.natAbs, c.isDigit = true :=
    Binary64.all_isDigit_digitChars i.natAbs
  obtain ⟨d, ds, hds⟩ := List.exists_cons_of_ne_nil (Nat.toDigits_ne_nil (b := 10) (n := i.natAbs))
  have hall : (toString i).toList.all isNumberChar = true := by
    rw [Binary64.toList_toString_int, List.all_eq_true]
    intro c hc
    rcases List.mem_append.1 hc with hc | hc
    · split at hc
      · rw [List.mem_singleton.1 hc]
        rfl
      · cases hc
    · simp [isNumberChar, hdigits c hc]
  have hany : (toString i).toList.any Char.isDigit = true := by
    rw [Binary64.toList_toString_int, List.any_eq_true]
    exact ⟨d, List.mem_append_right _ (hds ▸ List.mem_cons_self), hdigits d (hds ▸ List.mem_cons_self)⟩
  unfold readNumber?
  rw [hall, hany, readInt64?_toString hi]
  rfl

/-- A finite number reads back from its written form, which is no integer: it has a point or
    an exponent. -/
theorem readNumber?_toText {x : Binary64} (hx : x.isFinite = true) :
    readNumber? (Binary64.toText x).toList = some (.float x) := by
  obtain ⟨hall, ⟨d, hd, hdd⟩, ⟨c, hc, hce⟩⟩ := Binary64.toText_chars hx
  have hint : readInt64? (Binary64.toText x).toList = none := by
    apply readInt64?_eq_none_of_mem hc
    · rcases hce with rfl | rfl <;> decide
    · rcases hce with rfl | rfl <;> rfl
  simp [readNumber?, List.all_eq_true.2 hall, List.any_eq_true.2 ⟨d, hd, hdd⟩, hint,
    Binary64.readText?_toText hx, hx]

/-! ## Literals read back -/

namespace Guarded

/-- A word the marker does not touch: there is no marker, or it does not occur in the word. -/
def Untouched (g : Guarded) (cs : List Char) : Prop := g.marker = [] ∨ ¬ g.marker <:+: cs

variable {g : Guarded} {cs : List Char}

theorem Untouched.lookup?_eq_none (h : g.Untouched cs) : g.lookup? cs = none := by
  unfold lookup?
  rcases h with hm | hm
  · simp [hm]
  · rw [if_pos]
    have hpre : g.marker.isPrefixOf cs = false := by
      rw [Bool.eq_false_iff]
      intro hp
      exact hm (List.isPrefixOf_iff_prefix.1 hp).isInfix
    simp [hpre]

theorem Untouched.touches_eq_false (h : g.Untouched cs) : g.touches cs = false := by
  unfold touches
  rcases h with hm | hm
  · simp [hm]
  · have hocc : Text.occursIn g.marker cs = false := by
      rw [Bool.eq_false_iff]
      exact fun ho => hm ((Text.occursIn_iff_infix _ _).1 ho)
    simp [hocc]

theorem Untouched.of_infix {xs : List Char} (h : g.Untouched cs) (hx : xs <:+: cs) : g.Untouched xs :=
  h.imp_right fun hm hinf => hm (hinf.trans hx)

end Guarded

section Read

variable {g : Guarded}

/-- The marker plays no part in reading a word it does not touch. -/
theorem Literal.read_untouched {cs : List Char} (hu : g.Untouched cs) :
    Literal.read DateTime.readLiteral? g cs =
      Literal.read DateTime.readLiteral? ⟨[], [], []⟩ cs := by
  have hu₀ : (⟨[], [], []⟩ : Guarded).Untouched cs := .inl rfl
  unfold Literal.read
  rw [hu.lookup?_eq_none, hu₀.lookup?_eq_none, hu.touches_eq_false, hu₀.touches_eq_false]

/-- A word the marker does not touch, with a digit in it, is read as the number it writes. -/
theorem Literal.read_of_readNumber? {cs : List Char} {c : Char} (hc : c ∈ cs) (hd : c.isDigit = true)
    (hu : g.Untouched cs) {v : Literal}
        (hv : readNumber? cs = some v) : Literal.read DateTime.readLiteral? g cs = .ok v := by
  have hk : ∀ k : String, (∀ d ∈ k.toList, d.isDigit = false) → Text.isWord cs k = false :=
    fun k hk => isWord_eq_false_of_isDigit hc hd hk
  unfold Literal.read
  rw [if_neg (by simp [List.ne_nil_of_mem hc]), hu.lookup?_eq_none]
  simp [hu.touches_eq_false, hk "null" (by simp), hk "none" (by simp), hk "true" (by simp),
    hk "false" (by simp), hv]

/-- A word the marker does not touch, with a digit in it and no number, is read as the
    date-time it writes. -/
theorem Literal.read_of_readLiteral? {cs : List Char} {c : Char} (hc : c ∈ cs)
    (hd : c.isDigit = true) (hu : g.Untouched cs) (hn : readNumber? cs = none) {t : DateTime}
    (ht : DateTime.readLiteral? (String.ofList cs) = some t) :
    Literal.read DateTime.readLiteral? g cs = .ok (.date t) := by
  have hk : ∀ k : String, (∀ d ∈ k.toList, d.isDigit = false) → Text.isWord cs k = false :=
    fun k hk => isWord_eq_false_of_isDigit hc hd hk
  unfold Literal.read
  rw [if_neg (by simp [List.ne_nil_of_mem hc]), hu.lookup?_eq_none]
  simp [hu.touches_eq_false, hk "null" (by simp), hk "none" (by simp), hk "true" (by simp),
    hk "false" (by simp), hn, ht]

/-- A literal other than a text, one that reads back, is read from its written form wherever the
    marker does not touch it. -/
theorem Literal.read_render {v : Literal} (hv : v.Rereadable) (htext : ∀ s, v ≠ .text s)
    (hu : g.Untouched v.render.toList) : Literal.read DateTime.readLiteral? g v.render.toList =
        .ok v := by
  cases v with
  | null =>
    rw [Literal.read_untouched hu]
    rfl
  | bool b =>
    rw [Literal.read_untouched hu]
    cases b <;> rfl
  | int i =>
    have hdigit : ∃ d ∈ (toString i).toList, d.isDigit = true := by
      obtain ⟨d, ds, hds⟩ := List.exists_cons_of_ne_nil (Nat.toDigits_ne_nil (b := 10) (n := i.natAbs))
      refine ⟨d, ?_, Nat.isDigit_of_mem_toDigits (by decide) (by decide) (hds ▸ List.mem_cons_self)⟩
      rw [Binary64.toList_toString_int, hds]
      exact List.mem_append_right _ List.mem_cons_self
    obtain ⟨d, hd, hdd⟩ := hdigit
    exact Literal.read_of_readNumber? hd hdd hu (readNumber?_toString hv)
  | float x =>
    obtain ⟨-, ⟨d, hd, hdd⟩, -⟩ := Binary64.toText_chars hv
    exact Literal.read_of_readNumber? hd hdd hu (readNumber?_toText hv)
  | text s => exact absurd rfl (htext s)
  | date t =>
    obtain ⟨hs, hy⟩ := hv
    have hL := DateTime.toList_toText hs hy
    obtain ⟨d, ds, hds⟩ := List.exists_cons_of_ne_nil (l := DateTime.fixedDigits 4 t.date.year.toNat)
      (by simp [← List.length_pos_iff])
    have hd : d ∈ t.toText.toList := by
      rw [hL, hds]
      exact List.mem_cons_self
    have hspace : ' ' ∈ t.toText.toList := by
      rw [hL]
      simp
    exact Literal.read_of_readLiteral? hd
      (DateTime.isDigit_of_mem_fixedDigits (hds ▸ List.mem_cons_self)) hu
      (readNumber?_eq_none_of_mem hspace rfl) (by rw [String.ofList_toList]; exact DateTime.readLiteral?_toText hs hy)

/-- The placeholder of a span that quotes a text between single quotes is read as that text. -/
theorem Literal.read_placeholder {i : Nat} {s : String} (hm : g.marker ≠ []) (hi : i < 2 ^ 64)
    (ho : g.originals[i]? = some (quotedSpan '\'' s.toList)) :
    Literal.read DateTime.readLiteral? g (placeholder g.marker i) = .ok (.text s) := by
  unfold Literal.read
  rw [if_neg (by simp [placeholder, hm]), Guarded.lookup?_placeholder hm i,
    if_pos (show i < Nat.pow 2 64 from hi), ho]
  simp [unquote_quotedSpan]

end Read

/-! ## The words of a written literal -/

theorem isWordDelimiter_eq_false_of_isDigit {c : Char} (h : c.isDigit = true) :
    isWordDelimiter c = false := by
  have hne : c ≠ '(' ∧ c ≠ ')' ∧ c ≠ ',' ∧ c ≠ '=' ∧ c ≠ '!' ∧ c ≠ '<' ∧ c ≠ '>' := by
    refine ⟨?_, ?_, ?_, ?_, ?_, ?_, ?_⟩ <;> rintro rfl <;> exact absurd h (by decide)
  simp [isWordDelimiter, Text.isWhiteSpace_of_isDigit h, hne]

theorem isWordDelimiter_eq_false_of_mem_markerAlphabet {c : Char} (h : c ∈ markerAlphabet) :
    isWordDelimiter c = false := by
  have hall : markerAlphabet.all (fun c => !isWordDelimiter c) = true := by decide +kernel
  simpa using List.all_eq_true.1 hall c h

/-- A word that the splitter and the tokenizer both pass over whole: it is not empty, holds no
    character that ends a word, and is none of the keywords the splitter looks for. -/
structure ClauseWord (w : List Char) : Prop where
  ne_nil : w ≠ []
  not_delimiter : ∀ c ∈ w, isWordDelimiter c = false
  not_keyword : ∀ k ∈ ["and", "or", "between"], Text.isWord w k = false

/-- A word with a digit in it is no keyword. -/
theorem ClauseWord.of_isDigit {w : List Char} (hw : ∀ c ∈ w, isWordDelimiter c = false) {c : Char}
    (hc : c ∈ w) (hd : c.isDigit = true) : ClauseWord w where
  ne_nil := List.ne_nil_of_mem hc
  not_delimiter := hw
  not_keyword k hk := by
    apply isWord_eq_false_of_isDigit hc hd
    simp only [List.mem_cons, List.not_mem_nil, or_false] at hk
    rcases hk with rfl | rfl | rfl <;> simp

/-- A placeholder is a clause word: the marker's letters around the digits of its index. -/
theorem clauseWord_placeholder {m : List Char} (hm : ∀ c ∈ m, c ∈ markerAlphabet) (i : Nat) :
    ClauseWord (placeholder m i) := by
  obtain ⟨d, ds, hds⟩ := List.exists_cons_of_ne_nil (Nat.toDigits_ne_nil (b := 10) (n := i))
  have hdigit : ∀ c ∈ Nat.toDigits 10 i, c.isDigit = true :=
    fun c hc => Nat.isDigit_of_mem_toDigits (by decide) (by decide) hc
  refine ClauseWord.of_isDigit (c := d) ?_ ?_ (hdigit d (hds ▸ List.mem_cons_self))
  · intro c hc
    simp only [placeholder, List.mem_append] at hc
    rcases hc with (hc | hc) | hc
    · exact isWordDelimiter_eq_false_of_mem_markerAlphabet (hm c hc)
    · exact isWordDelimiter_eq_false_of_isDigit (hdigit c hc)
    · exact isWordDelimiter_eq_false_of_mem_markerAlphabet (hm c hc)
  · simp [placeholder, hds]

/-- The words a literal is written as, its span (the `index`-th) replaced by its placeholder:
    a date-time is a date and a clock, anything else one word. -/
def Literal.words (marker : List Char) (index : Nat) : Literal → List (List Char)
  | .text _ => [placeholder marker index]
  | .date t => [(DateTime.dateText t.date).toList,
      (DateTime.clockText t.time ++ DateTime.fractionText t.time.fraction).toList]
  | v => [v.render.toList]

theorem Literal.joinWords_words {v : Literal} (htext : ∀ s, v ≠ .text s) (m : List Char) (i : Nat) :
    joinWords (v.words m i) = v.render.toList := by
  cases v with
  | text s => exact absurd rfl (htext s)
  | date t => simp [Literal.words, joinWords, Literal.render, DateTime.toText]
  | _ => rfl

theorem Literal.words_ne_nil (v : Literal) (m : List Char) (i : Nat) : v.words m i ≠ [] := by
  cases v <;> simp [Literal.words]

theorem isWordDelimiter_eq_false_of_isNumberChar {c : Char} (h : isNumberChar c = true) :
    isWordDelimiter c = false := by
  simp only [isNumberChar, Bool.or_eq_true, decide_eq_true_eq] at h
  rcases h with ((((h | rfl) | rfl) | rfl) | rfl) | rfl
  · exact isWordDelimiter_eq_false_of_isDigit h
  all_goals decide

/-- Every word of a written literal is a clause word, whatever the marker's letters. -/
theorem Literal.clauseWord_of_mem_words {m : List Char} (hm : ∀ c ∈ m, c ∈ markerAlphabet)
    {v : Literal} (hv : v.Rereadable) {i : Nat} {w : List Char} (hw : w ∈ v.words m i) :
    ClauseWord w := by
  cases v with
  | null =>
    rw [List.mem_singleton.1 hw]
    exact ⟨by simp [Literal.render], by simp [Literal.render]; decide, by decide +kernel⟩
  | bool b =>
    rw [List.mem_singleton.1 hw]
    cases b
    · exact ⟨by simp [Literal.render], by simp [Literal.render]; decide, by decide +kernel⟩
    · exact ⟨by simp [Literal.render], by simp [Literal.render]; decide, by decide +kernel⟩
  | int n =>
    rw [List.mem_singleton.1 hw]
    obtain ⟨d, ds, hds⟩ := List.exists_cons_of_ne_nil (Nat.toDigits_ne_nil (b := 10) (n := n.natAbs))
    refine ClauseWord.of_isDigit (c := d) ?_ ?_
      (Nat.isDigit_of_mem_toDigits (by decide) (by decide) (hds ▸ List.mem_cons_self))
    · intro c hc
      simp only [Literal.render, Binary64.toList_toString_int, List.mem_append] at hc
      rcases hc with hc | hc
      · split at hc
        · rw [List.mem_singleton.1 hc]
          decide
        · cases hc
      · exact isWordDelimiter_eq_false_of_isDigit (Nat.isDigit_of_mem_toDigits (by decide) (by decide) hc)
    · simp only [Literal.render, Binary64.toList_toString_int, hds]
      exact List.mem_append_right _ List.mem_cons_self
  | float x =>
    rw [List.mem_singleton.1 hw]
    obtain ⟨hall, ⟨d, hd, hdd⟩, -⟩ := Binary64.toText_chars hv
    exact ClauseWord.of_isDigit (fun c hc => isWordDelimiter_eq_false_of_isNumberChar (hall c hc)) hd hdd
  | text s =>
    rw [List.mem_singleton.1 hw]
    exact clauseWord_placeholder hm i
  | date t =>
    have hsign : ∀ c : Char, c = '-' ∨ c = '+' ∨ c = ':' ∨ c = '.' → isWordDelimiter c = false := by
      rintro c (rfl | rfl | rfl | rfl) <;> decide
    simp only [Literal.words, List.mem_cons, List.not_mem_nil, or_false] at hw
    -- rewrite by the equations: substituting them makes Lean reduce the written texts
    rcases hw with hw | hw <;> rw [hw]
    · obtain ⟨d, hd, hdd⟩ := DateTime.exists_isDigit_padded t.date.day 2
      refine ClauseWord.of_isDigit (fun c hc => ?_) (c := d) (by simp [DateTime.dateText, hd]) hdd
      rcases DateTime.mem_dateText hc with h | h | h
      · exact isWordDelimiter_eq_false_of_isDigit h
      · exact hsign c (.inl h)
      · exact hsign c (.inr (.inl h))
    · obtain ⟨d, hd, hdd⟩ := DateTime.exists_isDigit_padded t.time.hour 2
      refine ClauseWord.of_isDigit (fun c hc => ?_) (c := d) (by simp [DateTime.clockText, hd]) hdd
      rw [String.toList_append, List.mem_append] at hc
      rcases hc with hc | hc
      · rcases DateTime.mem_clockText hc with h | h
        · exact isWordDelimiter_eq_false_of_isDigit h
        · exact hsign c (.inr (.inr (.inl h)))
      · rcases DateTime.mem_fractionText hc with h | h
        · exact isWordDelimiter_eq_false_of_isDigit h
        · exact hsign c (.inr (.inr (.inr h)))

/-- How a literal's written form sits in a guarded text: a text as the placeholder of the span
    `index`, whose original quotes the text between single quotes; anything else where the
    marker does not touch it. -/
def Literal.Placed (g : Guarded) (index : Nat) : Literal → Prop
  | .text s => g.marker ≠ [] ∧ index < 2 ^ 64 ∧ g.originals[index]? = some (quotedSpan '\'' s.toList)
  | v => g.Untouched v.render.toList

/-- A literal that reads back is read from the words it is written as, wherever it sits. -/
theorem Literal.read_joinWords_words {g : Guarded} {v : Literal} {i : Nat} (hv : v.Rereadable)
    (hp : v.Placed g i) : Literal.read DateTime.readLiteral? g
        (joinWords (v.words g.marker i)) = .ok v := by
  cases v with
  | text s => exact Literal.read_placeholder hp.1 hp.2.1 hp.2.2
  | _ =>
    rw [joinWords_words (by simp)]
    exact read_render hv (by simp) hp

end Query

end FilterQuery

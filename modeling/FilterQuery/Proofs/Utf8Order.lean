import Mathlib

/-!
# UTF-8 keeps the order of code points

Texts compared byte by byte in UTF-8 come in the order of their code points compared one
by one. The first byte of an encoding gives its length (`0xxxxxxx`, `110xxxxx`, `1110xxxx`,
`11110xxx`, in increasing order), and the bytes of encodings of one length hold the code
point's digits in base 64, the first digit first. So the encoding of a smaller code point
is smaller at the first byte where the two encodings differ, which lies within both: neither
encoding is a prefix of the other, and whatever follows each one cannot change the verdict.

## Key results
- `utf8EncodeChar_append_lt`: a smaller code point is encoded first, whatever follows
- `flatMap_utf8EncodeChar_lt`: the bytes of texts in the order of their code points
- `compareOfLessAndEq_flatMap_utf8EncodeChar`: comparing two texts' bytes is comparing their
  code points
-/

namespace FilterQuery.Text

section Bytes

variable {a b : Nat} {as bs x y : List UInt8}

/-- Byte strings compared from their first bytes: a smaller first byte decides, an equal one
    leaves the rest to decide. -/
theorem bytes_cons_lt (ha : a < 256) (hb : b < 256) (hle : a ≤ b)
    (hrest : a = b → as ++ x < bs ++ y) :
    (UInt8.ofNat a :: as) ++ x < (UInt8.ofNat b :: bs) ++ y := by
  rcases Nat.lt_or_eq_of_le hle with hlt | rfl
  · refine List.cons_lt_cons_iff.2 (.inl ?_)
    rw [UInt8.lt_iff_toNat_lt, UInt8.toNat_ofNat', UInt8.toNat_ofNat']
    omega
  · exact List.cons_lt_cons_iff.2 (.inr ⟨rfl, hrest rfl⟩)

/-- A smaller first byte decides alone. -/
theorem bytes_head_lt (ha : a < 256) (hb : b < 256) (hlt : a < b) :
    (UInt8.ofNat a :: as) ++ x < (UInt8.ofNat b :: bs) ++ y :=
  bytes_cons_lt ha hb hlt.le fun h => absurd h hlt.ne

end Bytes

theorem val_toNat_lt (c : Char) : c.val.toNat < 0x110000 := by
  have := c.valid
  simp only [UInt32.isValidChar, Nat.isValidChar] at this
  omega

/-- The UTF-8 bytes of a smaller code point come first, whatever follows each. -/
theorem utf8EncodeChar_append_lt {c d : Char} (h : c < d) (x y : List UInt8) :
    String.utf8EncodeChar c ++ x < String.utf8EncodeChar d ++ y := by
  have hv : c.val.toNat < d.val.toNat := Char.lt_def.1 h
  have hd := val_toNat_lt d
  simp only [String.utf8EncodeChar]
  generalize c.val.toNat = v at hv ⊢
  generalize d.val.toNat = w at hv hd ⊢
  -- the cases go by the length of `c`'s encoding, then of `d`'s; a longer encoding has the
  -- greater first byte, and encodings of one length are compared digit by digit
  split_ifs
  · exact bytes_head_lt (by omega) (by omega) hv
  · exact bytes_head_lt (by omega) (by omega) (by omega)
  · exact bytes_head_lt (by omega) (by omega) (by omega)
  · exact bytes_head_lt (by omega) (by omega) (by omega)
  · omega
  · exact bytes_cons_lt (by omega) (by omega) (by omega) fun _ =>
      bytes_head_lt (by omega) (by omega) (by omega)
  · exact bytes_head_lt (by omega) (by omega) (by omega)
  · exact bytes_head_lt (by omega) (by omega) (by omega)
  · omega
  · omega
  · exact bytes_cons_lt (by omega) (by omega) (by omega) fun _ =>
      bytes_cons_lt (by omega) (by omega) (by omega) fun _ =>
        bytes_head_lt (by omega) (by omega) (by omega)
  · exact bytes_head_lt (by omega) (by omega) (by omega)
  · omega
  · omega
  · omega
  · exact bytes_cons_lt (by omega) (by omega) (by omega) fun _ =>
      bytes_cons_lt (by omega) (by omega) (by omega) fun _ =>
        bytes_cons_lt (by omega) (by omega) (by omega) fun _ =>
          bytes_head_lt (by omega) (by omega) (by omega)

/-- Texts in the order of their code points have their UTF-8 bytes in that order. -/
theorem flatMap_utf8EncodeChar_lt {l₁ l₂ : List Char} (h : l₁ < l₂) :
    l₁.flatMap String.utf8EncodeChar < l₂.flatMap String.utf8EncodeChar := by
  induction h with
  | @nil c l =>
    obtain ⟨b, bs, hb⟩ := List.exists_cons_of_ne_nil (String.utf8EncodeChar_ne_nil (c := c))
    rw [List.flatMap_nil, List.flatMap_cons, hb, List.cons_append]
    exact List.nil_lt_cons _ _
  | rel hcd => exact utf8EncodeChar_append_lt hcd _ _
  | cons _ ih => exact List.append_left_lt ih

/-- Comparing two texts byte by byte in UTF-8 is comparing them code point by code point. -/
theorem compareOfLessAndEq_flatMap_utf8EncodeChar (l₁ l₂ : List Char) :
    compareOfLessAndEq (l₁.flatMap String.utf8EncodeChar) (l₂.flatMap String.utf8EncodeChar) =
      compareOfLessAndEq l₁ l₂ := by
  rcases lt_trichotomy l₁ l₂ with h | rfl | h
  · rw [compareOfLessAndEq_eq_lt.2 h, compareOfLessAndEq_eq_lt.2 (flatMap_utf8EncodeChar_lt h)]
  · simp [compareOfLessAndEq, List.lt_irrefl]
  · -- the greater text has the greater bytes, so neither comparison is `lt` or `eq`
    have hbytes := flatMap_utf8EncodeChar_lt h
    rw [compareOfLessAndEq, compareOfLessAndEq, if_neg (List.lt_asymm hbytes),
      if_neg (List.lt_asymm h), if_neg (fun he => List.lt_irrefl _ (he ▸ hbytes)),
      if_neg (fun he => List.lt_irrefl _ (he ▸ h))]

end FilterQuery.Text

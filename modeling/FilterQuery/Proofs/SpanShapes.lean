import FilterQuery.Proofs.GuardSpans
import FilterQuery.Proofs.NormalForm

/-!
# The spans the parser cuts

The parser cuts two kinds of span out of a filter, and each later step relies on its shape.

* A quoted span that a placeholder looks up is handed to `unquote`, which drops its first and
  last characters: they are one quote character, opening and closing it
  (`originals_isSpan`).
* After an opening parenthesis, `closeParen 0 []` cuts the text at the matching closing one.
  The inner text is balanced in the sense of `ClosesBy 0`: no prefix of it closes more
  parentheses than it opens, and the whole closes as many as it opens. So the count of open
  parentheses, one for the opening parenthesis and then up at each `(` and down at each
  `)`, stays positive inside the span and reaches zero at its closing parenthesis, never going
  below (`closeParen_closesBy`).

The characters cut off on both sides, the quote and the parentheses, are whole characters of
the text.

## Key results
- `originals_isSpan`: every span the guard records is a whole quoted span
- `closeParen_closesBy`: the text up to the matching parenthesis is balanced
-/

namespace FilterQuery.Query

/-! ## Balanced text -/

/-- `s` closes `depth` parentheses more than it opens, and none of its prefixes closes more
    than `depth` over what it opens. -/
structure ClosesBy (depth : Nat) (s : List Char) : Prop where
  prefix_le : ∀ p, p <+: s → p.count ')' ≤ depth + p.count '('
  total : s.count ')' = depth + s.count '('

namespace ClosesBy

theorem nil : ClosesBy 0 [] where
  prefix_le p hp := by simp [List.prefix_nil.1 hp]
  total := rfl

/-- A character in front of a text that closes `depth'` parentheses more than it opens gives
    one that closes `depth` more, when the character makes up the difference. -/
theorem cons {depth depth' : Nat} {c : Char} {s : List Char} (h : ClosesBy depth' s)
    (hd : depth' + [c].count ')' = depth + [c].count '(') : ClosesBy depth (c :: s) where
  prefix_le p hp := by
    -- a prefix of `c :: s` is empty, or `c` before a prefix of `s`
    rcases List.prefix_cons_iff.1 hp with rfl | ⟨t, rfl, ht⟩
    · simp
    · have := h.prefix_le t ht
      simp only [List.count_cons, List.count_nil] at hd ⊢
      omega
  total := by
    have := h.total
    simp only [List.count_cons, List.count_nil] at hd ⊢
    omega

end ClosesBy

/-- `closeParen` stops at the parenthesis that closes the `depth` parentheses opened before,
    and the text it passes closes exactly those. -/
theorem closeParen_closesBy {depth : Nat} {acc cs inner after : List Char}
    (h : closeParen depth acc cs = some (inner, after)) :
    ∃ mid, inner = acc.reverse ++ mid ∧ cs = mid ++ ')' :: after ∧ ClosesBy depth mid := by
  -- on the text, with the depth and the accumulator generalised: each character the scan
  -- passes is put in front of the text the rest of the scan passes
  induction cs generalizing depth acc with
  | nil => simp [closeParen] at h
  | cons c rest ih =>
    simp only [closeParen] at h
    by_cases hopen : c = '('
    · -- one parenthesis more to close after it
      rw [if_pos hopen] at h
      obtain ⟨mid, rfl, rfl, hmid⟩ := ih h
      exact ⟨c :: mid, by simp, rfl, hmid.cons (by simp [hopen])⟩
    · rw [if_neg hopen] at h
      by_cases hclose : c = ')'
      · rw [if_pos hclose] at h
        subst hclose
        cases depth with
        | zero =>
          -- the matching parenthesis
          cases h
          exact ⟨[], by simp, rfl, ClosesBy.nil⟩
        | succ d =>
          -- it closes one of those opened inside
          obtain ⟨mid, rfl, rfl, hmid⟩ := ih h
          exact ⟨')' :: mid, by simp, rfl, hmid.cons (by simp)⟩
      · rw [if_neg hclose] at h
        obtain ⟨mid, rfl, rfl, hmid⟩ := ih h
        exact ⟨c :: mid, by simp, rfl, hmid.cons (by simp [hopen, hclose])⟩

/-! ## Quoted spans -/

/-- Every span the guard records is a whole quoted span. -/
theorem originals_isSpan {text quotes : List Char} {maxLen : Nat} {g : Guarded}
    (h : guard text quotes maxLen = .ok g) : ∀ o ∈ g.originals, IsSpan quotes o := by
  obtain ⟨chunks, hseg, -, horig⟩ := guard_segments h
  intro o ho
  rw [horig, spansOf, List.mem_filterMap] at ho
  obtain ⟨x, hx, hspan⟩ := ho
  cases x with
  | plain c => cases hspan
  | quoted s =>
    cases hspan
    exact hseg.1 _ hx

/-! ## What the parser relies on -/

/-- The spans the parser cuts are whole. A quoted span that a placeholder of the guarded text
    looks up, which the clause reader hands to `unquote`, is a quote character, a body and
    the same quote character. After an opening parenthesis, the splitter's `closeParen 0 []`
    cuts the text into a balanced inner text, the closing parenthesis and the rest. -/
theorem parser_spans_whole :
    (∀ (text quotes : List Char) (maxLen : Nat) (g : Guarded) (w o : List Char),
      guard text quotes maxLen = .ok g → g.lookup? w = some o →
        ∃ q ∈ quotes, ∃ body, o = q :: (body ++ [q])) ∧
    (∀ rest inner after : List Char, closeParen 0 [] rest = some (inner, after) →
      rest = inner ++ ')' :: after ∧ ClosesBy 0 inner) := by
  refine ⟨fun text quotes maxLen g w o hg hw => ?_, fun rest inner after h => ?_⟩
  · obtain ⟨q, hq, -, body, -, rfl⟩ := originals_isSpan hg o (Guarded.mem_originals_of_lookup? hw)
    exact ⟨q, hq, body, rfl⟩
  · obtain ⟨mid, hinner, hrest, hmid⟩ := closeParen_closesBy h
    rw [List.reverse_nil, List.nil_append] at hinner
    subst hinner
    exact ⟨hrest, hmid⟩

theorem parser_spans_whole_quoted_group :
    (∃ q ∈ ['\''], ∃ body, ['\'', 'x', '\''] = q :: (body ++ [q])) ∧
      ("(b = 1) OR c) AND d".toList = "(b = 1) OR c".toList ++ ')' :: " AND d".toList ∧
        ClosesBy 0 "(b = 1) OR c".toList) :=
  ⟨parser_spans_whole.1 "a = 'x'".toList ['\''] 8 ⟨"a = b0b".toList, ['b'], [['\'', 'x', '\'']]⟩
      ['b', '0', 'b'] ['\'', 'x', '\''] rfl rfl,
    parser_spans_whole.2 _ _ _ rfl⟩

end FilterQuery.Query

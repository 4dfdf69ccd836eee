import FilterQuery.Proofs.GuardSpans

/-!
# Guarding is reversible

`Guarded.unguard` puts back every quoted span that `guard` replaced, `Guarded.lookup?` reads
back the span of each placeholder, and the guarded text holds no quote character that could
be mistaken for the start of a span.

The scan of `unguard` looks for the marker anywhere, so it can meet an occurrence that starts
in the text before a placeholder and runs into the placeholder's own marker (with a marker
such as `aa` after a text ending in `a`). Such an occurrence is never taken for a
placeholder: the marker does not occur in the input, so the occurrence is cut short by the
placeholder's marker and is followed by one of its letters, never by a digit.

## Key results

- `restore_placeholder`: a placeholder of a known span is replaced by the span
- `restore_guardedText_run`, `restore_guardedText`: restoring the guarded text of a run of a
  reading gives back the run's text
- `lookup?_placeholder`: a placeholder looks up its own span
- `guard_round_trip`: unguarding restores the input, each placeholder names the span of its
  index, and no quote character is left in the guarded text
-/

namespace FilterQuery.Query

/-- The index written by `Nat.toDigits` is read back when it fits in 64 bits, and refused
    otherwise. -/
theorem indexValue?_toDigits (n : Nat) :
    indexValue? (Nat.toDigits 10 n) = if n < Nat.pow 2 64 then some n else none := by
  have hfold : (Nat.toDigits 10 n).foldl (fun acc c => acc * 10 + (c.toNat - '0'.toNat)) 0 =
      Nat.ofDigitChars 10 (Nat.toDigits 10 n) 0 := by
    simp only [Nat.ofDigitChars, Nat.mul_comm]
  rw [indexValue?]
  rw [hfold, Nat.ofDigitChars_ten_toDigits]

theorem all_isDigit_toDigits (n : Nat) : ∀ c ∈ Nat.toDigits 10 n, c.isDigit :=
  fun _ hc => Nat.isDigit_of_mem_toDigits (by decide) (by decide) hc

/-- Reading a marker that starts with a run of plain characters: when the marker does not
    occur among them, the occurrence is cut short by the next placeholder's marker, and what
    follows it is a letter of that marker. -/
theorem drop_marker_of_prefix {m P T : List Char} (hpre : m <+: P ++ T) (hfree : ¬ m <:+: P)
    (hP : P ≠ []) (hT : T = [] ∨ m <+: T) : ∃ x xs, (P ++ T).drop m.length = x :: xs ∧ x ∈ m := by
  have hlt : P.length < m.length := by
    refine Nat.lt_of_not_le fun hle => hfree ?_
    exact (List.prefix_of_prefix_length_le hpre (List.prefix_append P T) hle).isInfix
  rcases hT with rfl | ⟨T', rfl⟩
  · have := hpre.length_le
    simp only [List.append_nil] at this
    omega
  · have hdrop : (P ++ (m ++ T')).drop m.length = m.drop (m.length - P.length) ++ T' := by
      rw [List.drop_append, List.drop_eq_nil_of_le (by omega), List.nil_append, List.drop_append,
        show m.length - P.length - m.length = 0 by omega, List.drop_zero]
    have hlen : 0 < (m.drop (m.length - P.length)).length := by
      have := List.length_pos_iff.2 hP
      simp only [List.length_drop]
      omega
    obtain ⟨x, xs, hxs⟩ := List.exists_cons_of_length_pos hlen
    refine ⟨x, xs ++ T', by rw [hdrop, hxs, List.cons_append], ?_⟩
    exact List.mem_of_mem_drop (hxs ▸ List.mem_cons_self)

namespace Guarded

/-- After a placeholder is put back, `restore` skips what is left of it. -/
theorem restore_skip (g : Guarded) : ∀ xs ys : List Char,
    g.restore xs.length (xs ++ ys) = g.restore 0 ys
  | [], _ => rfl
  | _ :: xs, ys => by
    simp only [List.length_cons, List.cons_append, restore]
    exact restore_skip g xs ys

/-- A text that starts with no digit names no span. -/
theorem indexAfterMarker_of_not_digit (g : Guarded) {x : Char} (xs : List Char)
    (hx : x.isDigit = false) : g.indexAfterMarker (x :: xs) = none := by
  simp [indexAfterMarker, hx]

/-- The digits of a placeholder, followed by the marker, name the span of that index. -/
theorem indexAfterMarker_toDigits {g : Guarded} (hm : g.marker ≠ [])
    (hletters : ∀ c ∈ g.marker, c ∈ markerAlphabet) {n : Nat} (hn : n < g.originals.length)
    (hsmall : n < Nat.pow 2 64) (rest : List Char) :
    g.indexAfterMarker (Nat.toDigits 10 n ++ (g.marker ++ rest)) = some (n, rest) := by
  obtain ⟨x, xs, hxs⟩ := List.exists_cons_of_ne_nil hm
  have hx : x.isDigit = false := isDigit_of_mem_markerAlphabet (hletters x (by simp [hxs]))
  have hdigits := all_isDigit_toDigits n
  have htake : (Nat.toDigits 10 n ++ (g.marker ++ rest)).takeWhile Char.isDigit =
      Nat.toDigits 10 n := by
    rw [List.takeWhile_append_of_pos hdigits, hxs]
    simp [hx]
  have hdrop : (Nat.toDigits 10 n ++ (g.marker ++ rest)).dropWhile Char.isDigit =
      g.marker ++ rest := by
    rw [List.dropWhile_append_of_pos hdigits, hxs]
    simp [hx]
  simp [indexAfterMarker, htake, hdrop, Nat.toDigits_ne_nil, indexValue?_toDigits, hsmall, hn]

/-- A placeholder of a known span is replaced by the span. -/
theorem restore_placeholder {g : Guarded} (hm : g.marker ≠ [])
    (hletters : ∀ c ∈ g.marker, c ∈ markerAlphabet) {n : Nat} (hn : n < g.originals.length)
    (hsmall : n < Nat.pow 2 64) (rest : List Char) :
    g.restore 0 (placeholder g.marker n ++ rest) = g.originals[n]?.getD [] ++ g.restore 0 rest := by
  obtain ⟨x, xs, hxs⟩ := List.exists_cons_of_ne_nil hm
  have hsplit : placeholder g.marker n ++ rest =
      x :: (xs ++ Nat.toDigits 10 n ++ g.marker ++ rest) := by
    simp [placeholder, hxs]
  have hread : g.indexAfterMarker ((placeholder g.marker n ++ rest).drop g.marker.length) =
      some (n, rest) := by
    simp only [placeholder, List.append_assoc, List.drop_left]
    exact indexAfterMarker_toDigits hm hletters hn hsmall rest
  rw [hsplit] at hread ⊢
  have hcond : (!g.marker.isEmpty &&
      g.marker.isPrefixOf (x :: (xs ++ Nat.toDigits 10 n ++ g.marker ++ rest))) = true := by
    rw [hxs]
    simp
  have hskip : (xs ++ Nat.toDigits 10 n ++ g.marker ++ rest).length - rest.length =
      (xs ++ Nat.toDigits 10 n ++ g.marker).length := by
    simp only [List.length_append]
    omega
  rw [restore, if_pos hcond, hread]
  dsimp only
  rw [hskip, restore_skip]

end Guarded

@[simp] theorem flatMap_text_map_plain (ps : List Char) :
    (ps.map Chunk.plain).flatMap Chunk.text = ps := by
  induction ps with
  | nil => rfl
  | cons c ps ih => simp [Chunk.text, ih]

/-- A reading starts with a run of plain characters, up to its first span or its end. -/
theorem exists_plain_run : ∀ chunks : List Chunk, ∃ (ps : List Char) (rest : List Chunk),
    chunks = ps.map .plain ++ rest ∧ (rest = [] ∨ ∃ s r, rest = .quoted s :: r)
  | [] => ⟨[], [], rfl, .inl rfl⟩
  | .plain c :: r =>
    let ⟨ps, rest, h, hr⟩ := exists_plain_run r
    ⟨c :: ps, rest, by simp [h], hr⟩
  | .quoted s :: r => ⟨[], .quoted s :: r, rfl, .inr ⟨s, r, rfl⟩⟩

/-- Every span of a reading has at least one character, so a reading has no more spans than
    its text has characters. -/
theorem length_spansOf_le {quotes : List Char} :
    ∀ {chunks : List Chunk}, (∀ x ∈ chunks, x.Valid quotes) →
      (spansOf chunks).length ≤ (chunks.flatMap Chunk.text).length
  | [], _ => by simp
  | .plain c :: rest, h => by
    have := length_spansOf_le (fun x hx => h x (List.mem_cons_of_mem _ hx))
    simp only [spansOf_plain, List.flatMap_cons, Chunk.text, List.length_append]
    omega
  | .quoted s :: rest, h => by
    have := length_spansOf_le (fun x hx => h x (List.mem_cons_of_mem _ hx))
    obtain ⟨q, -, s', rfl⟩ := IsSpan.head_mem (h _ List.mem_cons_self)
    simp only [spansOf_quoted, List.flatMap_cons, Chunk.text, List.length_append,
      List.length_cons]
    omega

namespace Guarded

/-- Restoring the guarded text of a run of a reading gives back the run's text, provided the
    marker does not occur in it. The run's spans are the originals from index `pre.length` on;
    the spans after the run follow them. -/
theorem restore_guardedText_run {g : Guarded} (hm : g.marker ≠ [])
    (hletters : ∀ c ∈ g.marker, c ∈ markerAlphabet) (hsmall : g.originals.length ≤ Nat.pow 2 64) :
    ∀ (chunks : List Chunk) (pre post : List (List Char)), g.originals = pre ++ spansOf chunks ++ post →
      ¬ g.marker <:+: chunks.flatMap Chunk.text →
      g.restore 0 (guardedText g.marker pre.length chunks) = chunks.flatMap Chunk.text
  | [], _, _, _, _ => by simp [guardedText, restore]
  | .plain c :: rest, pre, post, horig, hfree => by
    have hfree' : ¬ g.marker <:+: rest.flatMap Chunk.text := fun h =>
      hfree (h.trans (List.suffix_append [c] _).isInfix)
    -- an occurrence of the marker that starts at a plain character is no placeholder
    have hstep : g.restore 0 (c :: guardedText g.marker pre.length rest) =
        c :: g.restore 0 (guardedText g.marker pre.length rest) := by
      rw [restore]
      split
      · rename_i hcond
        obtain ⟨ps, rest', rfl, hrest'⟩ := exists_plain_run rest
        have hG : c :: guardedText g.marker pre.length (ps.map .plain ++ rest') =
            (c :: ps) ++ guardedText g.marker pre.length rest' := by
          simp [guardedText_append]
        have hpre : g.marker <+: (c :: ps) ++ guardedText g.marker pre.length rest' := by
          rw [← hG]
          exact List.isPrefixOf_iff_prefix.1 (Bool.and_eq_true_iff.1 hcond).2
        have hfreeP : ¬ g.marker <:+: c :: ps := by
          intro h
          apply hfree
          refine h.trans (List.IsPrefix.isInfix ⟨rest'.flatMap Chunk.text, ?_⟩)
          simp [Chunk.text]
        have hT : guardedText g.marker pre.length rest' = [] ∨
            g.marker <+: guardedText g.marker pre.length rest' := by
          rcases hrest' with rfl | ⟨s, r, rfl⟩
          · exact .inl rfl
          · refine .inr ⟨Nat.toDigits 10 pre.length ++ g.marker ++
              guardedText g.marker (pre.length + 1) r, ?_⟩
            simp [guardedText, placeholder]
        obtain ⟨x, xs, hdrop, hx⟩ := drop_marker_of_prefix hpre hfreeP (by simp) hT
        rw [hG, hdrop, indexAfterMarker_of_not_digit g xs
          (isDigit_of_mem_markerAlphabet (hletters x hx))]
      · rfl
    rw [guardedText, hstep, restore_guardedText_run hm hletters hsmall rest pre post horig hfree']
    rfl
  | .quoted s :: rest, pre, post, horig, hfree => by
    have hfree' : ¬ g.marker <:+: rest.flatMap Chunk.text := fun h =>
      hfree (h.trans (List.suffix_append s _).isInfix)
    have hn : pre.length < g.originals.length := by rw [horig]; simp
    have hget : g.originals[pre.length]? = some s := by rw [horig]; simp
    have hrest := restore_guardedText_run hm hletters hsmall rest (pre ++ [s]) post
      (by rw [horig]; simp) hfree'
    rw [List.length_append, List.length_singleton] at hrest
    rw [guardedText, restore_placeholder hm hletters hn (by omega), hget, Option.getD_some, hrest]
    rfl

/-- Restoring a guarded text gives back the text of the reading it came from, provided the
    marker does not occur in that text. The reading's spans are the originals from index
    `pre.length` on. -/
theorem restore_guardedText {g : Guarded} (hm : g.marker ≠ [])
    (hletters : ∀ c ∈ g.marker, c ∈ markerAlphabet) (hsmall : g.originals.length ≤ Nat.pow 2 64)
    (chunks : List Chunk) (pre : List (List Char)) (horig : g.originals = pre ++ spansOf chunks)
    (hfree : ¬ g.marker <:+: chunks.flatMap Chunk.text) :
    g.restore 0 (guardedText g.marker pre.length chunks) = chunks.flatMap Chunk.text :=
  restore_guardedText_run hm hletters hsmall chunks pre [] (by rw [horig, List.append_nil]) hfree

end Guarded

namespace Guarded

/-- A placeholder looks up the span of its index, when the index fits in 64 bits. -/
theorem lookup?_placeholder {g : Guarded} (hm : g.marker ≠ []) (i : Nat) :
    g.lookup? (placeholder g.marker i) =
      if i < Nat.pow 2 64 then g.originals[i]? else none := by
  have hbody : (placeholder g.marker i).drop g.marker.length = Nat.toDigits 10 i ++ g.marker := by
    simp [placeholder]
  have hds : (Nat.toDigits 10 i ++ g.marker).take
      ((Nat.toDigits 10 i ++ g.marker).length - g.marker.length) = Nat.toDigits 10 i := by
    simp
  have hprefix : g.marker.isPrefixOf (placeholder g.marker i) := by
    simp [placeholder]
  have hall : (Nat.toDigits 10 i).all Char.isDigit := List.all_eq_true.2 (all_isDigit_toDigits i)
  rw [lookup?, if_neg (by simp [hm, hprefix])]
  dsimp only
  rw [hbody, if_neg (by simp), hds, if_neg (by simp [Nat.toDigits_ne_nil, hall]),
    indexValue?_toDigits]
  split <;> rfl

end Guarded

/-- Guarding is reversible. When `guard` succeeds on a text (of a length a program can hold):
    unguarding the guarded text gives the text back; the originals are exactly the quoted spans
    of the text, left to right, and the placeholder of index `i` looks up the `i`-th of them;
    and when no quote character is a lower-case ASCII letter or a digit, no quote character is
    left in the guarded text. -/
theorem guard_round_trip {text quotes : List Char} {maxLen : Nat} {g : Guarded}
    (hlen : text.length < Nat.pow 2 64) (h : guard text quotes maxLen = .ok g) :
    g.unguard g.text = text ∧
    (∀ spans, QuotedSpans quotes text spans ↔ spans = g.originals) ∧
    (∀ i < g.originals.length, g.lookup? (placeholder g.marker i) = g.originals[i]?) ∧
    ((∀ q ∈ quotes, q.isLower = false ∧ q.isDigit = false) → ∀ c ∈ g.text, c ∉ quotes) := by
  obtain ⟨chunks, hseg, htext, horig⟩ := guard_segments h
  have hcount : g.originals.length ≤ text.length := by
    rw [horig, hseg.2]
    exact length_spansOf_le hseg.1
  -- the marker is empty exactly when nothing was replaced; otherwise it is free in the text
  have hmarker : g.originals ≠ [] →
      g.marker ≠ [] ∧ (∀ c ∈ g.marker, c ∈ markerAlphabet) ∧ ¬ g.marker <:+: text := by
    intro hne
    rcases guard_marker h with ⟨-, hnil⟩ | hfree
    · exact absurd hnil hne
    · exact freeMarker?_spec hfree
  refine ⟨?_, ?_, ?_, ?_⟩
  · rw [Guarded.unguard]
    split
    · rename_i hempty
      have hnil : spansOf chunks = [] := by
        rw [← horig]
        exact List.isEmpty_iff.1 hempty
      rw [htext, guardedText_of_spansOf_eq_nil hnil, ← hseg.2]
    · rename_i hne
      obtain ⟨hm, hletters, hfree⟩ := hmarker (fun hnil => hne (by simp [hnil]))
      rw [htext, hseg.2]
      exact Guarded.restore_guardedText hm hletters (by omega) chunks [] (by simp [horig])
        (hseg.2 ▸ hfree)
  · intro spans
    rw [quotedSpans_iff hseg, horig]
  · intro i hi
    obtain ⟨hm, -, -⟩ := hmarker (List.ne_nil_of_length_pos (by omega))
    rw [Guarded.lookup?_placeholder hm, if_pos (by omega)]
  · intro hq c hc hcq
    rw [htext] at hc
    rcases mem_guardedText hc with hplain | hletter | hdigit
    · exact (hseg.1 _ hplain) hcq
    · rcases guard_marker h with ⟨hmnil, -⟩ | hfree
      · simp [hmnil] at hletter
      · have := isLower_of_mem_markerAlphabet ((freeMarker?_spec hfree).2.1 c hletter)
        simp [(hq c hcq).1] at this
    · simp [(hq c hcq).2] at hdigit

/-- The round trip on a filter whose span holds a connective: the span is hidden behind the
    marker `b`, the first letter absent from the text. -/
theorem guard_round_trip_keyword_span :
    "it = 'A and B' or x = 1".toList.length < Nat.pow 2 64 ∧
    guard "it = 'A and B' or x = 1".toList ['\'', '"'] 4 =
      .ok ⟨"it = b0b or x = 1".toList, ['b'], ["'A and B'".toList]⟩ ∧
    (Guarded.unguard ⟨"it = b0b or x = 1".toList, ['b'], ["'A and B'".toList]⟩
        "it = b0b or x = 1".toList = "it = 'A and B' or x = 1".toList ∧
      (∀ spans, QuotedSpans ['\'', '"'] "it = 'A and B' or x = 1".toList spans ↔
        spans = ["'A and B'".toList]) ∧
      (∀ i < 1, Guarded.lookup? ⟨"it = b0b or x = 1".toList, ['b'], ["'A and B'".toList]⟩
        (placeholder ['b'] i) = ["'A and B'".toList][i]?) ∧
      ((∀ q ∈ ['\'', '"'], q.isLower = false ∧ q.isDigit = false) →
        ∀ c ∈ "it = b0b or x = 1".toList, c ∉ ['\'', '"'])) :=
  ⟨by decide, rfl, @guard_round_trip _ _ 4 _ (by decide) rfl⟩

end FilterQuery.Query

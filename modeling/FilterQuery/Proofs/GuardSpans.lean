import FilterQuery.Proofs.MarkerSearch

/-!
# What the guard reads

A declarative reading of a text as the guard sees it: a sequence of *chunks*, each a
character outside quotes or a whole quoted span. A span opens at a quote character (never
the backslash, which always escapes) and closes at the first occurrence of the same
character that no backslash escapes. The guarded text replaces the `i`-th span by the
`i`-th placeholder.

The scanner `scanSpans` computes exactly this reading, and a text has only one reading, so
"the `i`-th quoted span of a text" is well defined.

## Key results

- `scanSpans_inside_sound`: inside a span opened by `q`, the scanner reads a span body up to
  the first unescaped `q`
- `scanSpans_outside_sound`: a successful scan is a chunk reading, with the guarded text and
  the spans it produces
- `scanSpans_segments`: the other way round, the scan of a text that starts with a reading
  goes through it to the outside of every span
- `guard_segments`: a guarded text is the chunk reading of its input with the spans numbered
- `segments_unique`: a text has at most one chunk reading
- `freeMarker?_spec`: a marker is a non-empty word over `a`–`z` that does not occur in the text
-/

namespace FilterQuery.Query

/-- The body of a span opened by `q`: characters other than `\` and `q`, and backslashes that
    each escape the character after them. -/
inductive SpanBody (q : Char) : List Char → Prop
  | nil : SpanBody q []
  | plain {c : Char} {cs : List Char} : c ≠ '\\' → c ≠ q → SpanBody q cs → SpanBody q (c :: cs)
  | escape {c : Char} {cs : List Char} : SpanBody q cs → SpanBody q ('\\' :: c :: cs)

/-- A quoted span: a quote character other than the backslash, a body, and the same quote
    closing it. -/
def IsSpan (quotes s : List Char) : Prop :=
  ∃ q ∈ quotes, q ≠ '\\' ∧ ∃ body, SpanBody q body ∧ s = q :: (body ++ [q])

/-- One piece of a text as the guard reads it. -/
inductive Chunk where
  /-- A character outside every span. -/
  | plain (c : Char)
  /-- A whole quoted span, quotes included. -/
  | quoted (span : List Char)

namespace Chunk

/-- The characters of the input a chunk stands for. -/
def text : Chunk → List Char
  | plain c => [c]
  | quoted s => s

/-- A chunk the guard reads as such: a character that is no quote, or a quoted span. -/
def Valid (quotes : List Char) : Chunk → Prop
  | plain c => c ∉ quotes
  | quoted s => IsSpan quotes s

/-- The span of a quoted chunk. -/
def span? : Chunk → Option (List Char)
  | plain _ => none
  | quoted s => some s

end Chunk

/-- `chunks` is a reading of `text`: valid chunks whose characters make up the text. -/
def Segments (quotes text : List Char) (chunks : List Chunk) : Prop :=
  (∀ x ∈ chunks, x.Valid quotes) ∧ text = chunks.flatMap Chunk.text

/-- The quoted spans of a reading, left to right. -/
def spansOf (chunks : List Chunk) : List (List Char) := chunks.filterMap Chunk.span?

/-- The guarded text of a reading whose first span is numbered `n`: each span is replaced by
    its placeholder. -/
def guardedText (marker : List Char) : Nat → List Chunk → List Char
  | _, [] => []
  | n, .plain c :: rest => c :: guardedText marker n rest
  | n, .quoted _ :: rest => placeholder marker n ++ guardedText marker (n + 1) rest

/-- `spans` are the quoted spans of `text`, left to right. -/
def QuotedSpans (quotes text : List Char) (spans : List (List Char)) : Prop :=
  ∃ chunks, Segments quotes text chunks ∧ spansOf chunks = spans

/-! ## Readings -/

@[simp] theorem spansOf_nil : spansOf [] = [] := rfl

@[simp] theorem spansOf_plain (c : Char) (rest : List Chunk) :
    spansOf (.plain c :: rest) = spansOf rest := rfl

@[simp] theorem spansOf_quoted (s : List Char) (rest : List Chunk) :
    spansOf (.quoted s :: rest) = s :: spansOf rest := rfl

theorem segments_nil_iff {quotes text : List Char} : Segments quotes text [] ↔ text = [] := by
  simp [Segments]

theorem segments_cons_iff {quotes text : List Char} {x : Chunk} {rest : List Chunk} :
    Segments quotes text (x :: rest) ↔
      x.Valid quotes ∧ ∃ tail, text = x.text ++ tail ∧ Segments quotes tail rest := by
  simp only [Segments, List.mem_cons, forall_eq_or_imp, List.flatMap_cons]
  constructor
  · rintro ⟨⟨hx, hrest⟩, rfl⟩
    exact ⟨hx, _, rfl, hrest, rfl⟩
  · rintro ⟨hx, tail, rfl, hrest, rfl⟩
    exact ⟨⟨hx, hrest⟩, rfl⟩

/-- A text without quote characters reads as its characters. -/
theorem segments_map_plain {quotes text : List Char} (h : ∀ c ∈ text, c ∉ quotes) :
    Segments quotes text (text.map .plain) := by
  refine ⟨?_, ?_⟩
  · intro x hx
    obtain ⟨c, hc, rfl⟩ := List.mem_map.1 hx
    exact h c hc
  · induction text with
    | nil => rfl
    | cons c rest ih =>
      simp only [List.map_cons, List.flatMap_cons, Chunk.text, List.singleton_append]
      rw [← ih fun d hd => h d (List.mem_cons_of_mem c hd)]

@[simp] theorem guardedText_map_plain (marker : List Char) (n : Nat) (text : List Char) :
    guardedText marker n (text.map .plain) = text := by
  induction text with
  | nil => rfl
  | cons c rest ih => simp [guardedText, ih]

@[simp] theorem spansOf_map_plain (text : List Char) : spansOf (text.map .plain) = [] := by
  induction text with
  | nil => rfl
  | cons c rest ih => simpa using ih

theorem guardedText_append (marker : List Char) (n : Nat) (xs ys : List Chunk) :
    guardedText marker n (xs ++ ys) =
      guardedText marker n xs ++ guardedText marker (n + (spansOf xs).length) ys := by
  induction xs generalizing n with
  | nil => rfl
  | cons x xs ih =>
    cases x with
    | plain c => simp [guardedText, ih]
    | quoted s => simp [guardedText, ih, Nat.add_assoc, Nat.add_comm 1]

/-! ## The scanner -/

section Scan

variable {quotes marker : List Char}

/-- Inside a span opened by `q`, a successful scan reads a span body up to the first unescaped
    `q` (the pending backslash of an escaped state put back in front), records the span and
    its placeholder, and goes on outside. -/
theorem scanSpans_inside_sound {q : Char} :
    ∀ {cs spanRev : List Char} {escaped : Bool} {out : List Char} {origs : List (List Char)}
      {r : List Char × List (List Char)},
      scanSpans quotes marker cs (.inside q spanRev escaped) out origs = .ok r →
      q ≠ '\\' ∧ ∃ body rest, SpanBody q (if escaped then '\\' :: body else body) ∧
        cs = body ++ q :: rest ∧
        scanSpans quotes marker rest .outside ((placeholder marker origs.length).reverse ++ out)
          ((spanRev.reverse ++ body ++ [q]) :: origs) = .ok r
  | [], _, _, _, _, _, h => by simp [scanSpans] at h
  | c :: rest, spanRev, true, out, origs, r, h => by
    rw [scanSpans, if_pos rfl] at h
    obtain ⟨hq, body, rest', hbody, rfl, hscan⟩ := scanSpans_inside_sound h
    refine ⟨hq, c :: body, rest', .escape hbody, rfl, ?_⟩
    simpa using hscan
  | c :: rest, spanRev, false, out, origs, r, h => by
    rw [scanSpans, if_neg Bool.false_ne_true] at h
    by_cases hslash : c = '\\'
    · rw [if_pos hslash] at h
      obtain ⟨hq, body, rest', hbody, rfl, hscan⟩ := scanSpans_inside_sound h
      subst hslash
      exact ⟨hq, '\\' :: body, rest', hbody, rfl, by simpa using hscan⟩
    · rw [if_neg hslash] at h
      by_cases hclose : c = q
      · rw [if_pos hclose] at h
        subst hclose
        exact ⟨hslash, [], rest, .nil, rfl, by simpa using h⟩
      · rw [if_neg hclose] at h
        obtain ⟨hq, body, rest', hbody, rfl, hscan⟩ := scanSpans_inside_sound h
        exact ⟨hq, c :: body, rest', .plain hslash hclose hbody, rfl, by simpa using hscan⟩

/-- A successful scan from outside any span is a reading of the text: the output is the
    guarded text of the reading after what was written before, and the originals are its
    spans after those found before. -/
theorem scanSpans_outside_sound :
    ∀ {cs out : List Char} {origs : List (List Char)} {out' : List Char}
      {origs' : List (List Char)},
      scanSpans quotes marker cs .outside out origs = .ok (out', origs') →
      ∃ chunks, Segments quotes cs chunks ∧
        out' = out.reverse ++ guardedText marker origs.length chunks ∧
        origs' = origs.reverse ++ spansOf chunks
  | [], out, origs, out', origs', h => by
    simp only [scanSpans, Except.ok.injEq, Prod.mk.injEq] at h
    obtain ⟨rfl, rfl⟩ := h
    exact ⟨[], segments_nil_iff.2 rfl, by simp [guardedText], by simp⟩
  | c :: rest, out, origs, out', origs', h => by
    rw [scanSpans] at h
    by_cases hc : c ∈ quotes
    · rw [if_pos hc] at h
      obtain ⟨hq, body, rest', hbody, hrest, hscan⟩ := scanSpans_inside_sound h
      have : rest'.length < rest.length + 1 := by
        rw [hrest]; simp only [List.length_append, List.length_cons]; omega
      obtain ⟨chunks, hseg, rfl, rfl⟩ := scanSpans_outside_sound hscan
      refine ⟨.quoted (c :: (body ++ [c])) :: chunks, ?_, ?_, ?_⟩
      · refine segments_cons_iff.2 ⟨⟨c, hc, hq, body, by simpa using hbody, rfl⟩, rest', ?_, hseg⟩
        simp [Chunk.text, hrest]
      · simp [guardedText, placeholder]
      · simp
    · rw [if_neg hc] at h
      obtain ⟨chunks, hseg, rfl, rfl⟩ := scanSpans_outside_sound h
      refine ⟨.plain c :: chunks, segments_cons_iff.2 ⟨hc, rest, rfl, hseg⟩, ?_, by simp⟩
      simp [guardedText]
termination_by cs => cs.length

/-- What was written before does not change the scan: it stays in front of the output. -/
theorem scanSpans_out_append :
    ∀ (cs : List Char) (st : ScanState) (out out₀ : List Char) (origs : List (List Char)),
      scanSpans quotes marker cs st (out ++ out₀) origs =
        (scanSpans quotes marker cs st out origs).map fun r => (out₀.reverse ++ r.1, r.2)
  | [], .outside, out, out₀, origs => by simp [scanSpans, Except.map]
  | [], .inside _ _ _, _, _, _ => rfl
  | c :: rest, .outside, out, out₀, origs => by
    simp only [scanSpans]
    split
    · exact scanSpans_out_append rest _ out out₀ origs
    · exact scanSpans_out_append rest .outside (c :: out) out₀ origs
  | c :: rest, .inside q spanRev escaped, out, out₀, origs => by
    simp only [scanSpans]
    split
    · exact scanSpans_out_append rest _ out out₀ origs
    · split
      · exact scanSpans_out_append rest _ out out₀ origs
      · split
        · rw [← List.append_assoc]
          exact scanSpans_out_append rest .outside _ out₀ _
        · exact scanSpans_out_append rest _ out out₀ origs

theorem scanSpans_out (cs : List Char) (st : ScanState) (out : List Char)
    (origs : List (List Char)) :
    scanSpans quotes marker cs st out origs =
      (scanSpans quotes marker cs st [] origs).map fun r => (out.reverse ++ r.1, r.2) := by
  simpa using scanSpans_out_append cs st [] out origs

/-- Inside a span opened by `q`, the scanner reads a span body and its closing quote, records
    the span and goes on outside. -/
theorem scanSpans_spanBody {q : Char} (hq : q ≠ '\\') {body : List Char} (hbody : SpanBody q body)
    (rest spanRev out : List Char) (origs : List (List Char)) :
    scanSpans quotes marker (body ++ q :: rest) (.inside q spanRev false) out origs =
      scanSpans quotes marker rest .outside ((placeholder marker origs.length).reverse ++ out)
        ((q :: (body.reverse ++ spanRev)).reverse :: origs) := by
  induction hbody generalizing spanRev with
  | nil => simp [scanSpans, hq]
  | plain hslash hclose _ ih =>
    simp only [List.cons_append, scanSpans, Bool.false_eq_true, ↓reduceIte, if_neg hslash,
      if_neg hclose]
    rw [ih]
    simp
  | escape _ ih =>
    simp only [List.cons_append, scanSpans, Bool.false_eq_true, ↓reduceIte]
    rw [ih]
    simp

/-- The scanner computes the reading of a text: after the chunks of a reading it is outside
    every span, having written their guarded text and recorded their spans. -/
theorem scanSpans_segments {pre : List Char} {chunks : List Chunk}
    (hpre : Segments quotes pre chunks) (rest out : List Char) (origs : List (List Char)) :
    scanSpans quotes marker (pre ++ rest) .outside out origs =
      scanSpans quotes marker rest .outside
        ((guardedText marker origs.length chunks).reverse ++ out) ((spansOf chunks).reverse ++ origs) := by
  induction chunks generalizing pre out origs with
  | nil => rw [segments_nil_iff.1 hpre]; rfl
  | cons x chunks ih =>
    obtain ⟨hx, tail, rfl, htail⟩ := segments_cons_iff.1 hpre
    cases x with
    | plain c =>
      have hc : c ∉ quotes := hx
      simp only [Chunk.text, List.cons_append, List.nil_append, scanSpans, if_neg hc]
      rw [ih htail]
      simp [guardedText]
    | quoted s =>
      obtain ⟨q, hmem, hq, body, hbody, rfl⟩ := hx
      simp only [Chunk.text, List.cons_append, List.nil_append, List.append_assoc, scanSpans,
        if_pos hmem]
      rw [scanSpans_spanBody hq hbody, ih htail]
      simp [guardedText]

end Scan

/-- The text a guard produces is the guarded text of a reading of its input, and its
    originals are the spans of that reading. A text without quotes reads as its characters,
    with no marker. -/
theorem guard_segments {text quotes : List Char} {maxLen : Nat} {g : Guarded}
    (h : guard text quotes maxLen = .ok g) :
    ∃ chunks, Segments quotes text chunks ∧ g.text = guardedText g.marker 0 chunks ∧
      g.originals = spansOf chunks := by
  unfold guard at h
  split at h
  · rename_i hnone
    cases h
    have hplain : ∀ c ∈ text, c ∉ quotes := by
      intro c hc hq
      simp only [Bool.not_eq_true', List.any_eq_false] at hnone
      exact hnone c hc (by simpa using hq)
    exact ⟨text.map .plain, segments_map_plain hplain, by simp, by simp⟩
  · split at h
    · cases h
    · rename_i marker _
      cases hscan : scanSpans quotes marker text .outside [] [] with
      | error e => exact absurd h (by simp [hscan, Functor.map, Except.map])
      | ok r =>
        obtain ⟨out, origs⟩ := r
        simp only [hscan] at h
        cases h
        obtain ⟨chunks, hseg, rfl, rfl⟩ := scanSpans_outside_sound hscan
        exact ⟨chunks, hseg, by simp, by simp⟩

/-! ## Uniqueness of the reading -/

/-- Two span bodies followed by the closing quote split a text at the same place: the first
    unescaped quote ends both. -/
theorem spanBody_close_unique {q : Char} (hq : q ≠ '\\') :
    ∀ {b₁ b₂ t₁ t₂ : List Char}, SpanBody q b₁ → SpanBody q b₂ →
      b₁ ++ q :: t₁ = b₂ ++ q :: t₂ → b₁ = b₂ ∧ t₁ = t₂
  | _, _, _, _, .nil, .nil, h => ⟨rfl, by simpa using h⟩
  | _, _, _, _, .nil, .plain _ hne _, h => absurd (List.cons.inj h).1 (Ne.symm hne)
  | _, _, _, _, .nil, .escape _, h => absurd (List.cons.inj h).1 hq
  | _, _, _, _, .plain _ hne _, .nil, h => absurd (List.cons.inj h).1 hne
  | _, _, _, _, .plain _ _ hb₁, .plain _ _ hb₂, h => by
    simp only [List.cons_append, List.cons.injEq] at h
    obtain ⟨rfl, h⟩ := h
    obtain ⟨rfl, rfl⟩ := spanBody_close_unique hq hb₁ hb₂ h
    exact ⟨rfl, rfl⟩
  | _, _, _, _, .plain hslash _ _, .escape _, h => absurd (List.cons.inj h).1 hslash
  | _, _, _, _, .escape _, .nil, h => absurd (List.cons.inj h).1 (Ne.symm hq)
  | _, _, _, _, .escape _, .plain hslash _ _, h => absurd (List.cons.inj h).1 (Ne.symm hslash)
  | _, _, _, _, .escape hb₁, .escape hb₂, h => by
    simp only [List.cons_append, List.cons.injEq, true_and] at h
    obtain ⟨rfl, h⟩ := h
    obtain ⟨rfl, rfl⟩ := spanBody_close_unique hq hb₁ hb₂ h
    exact ⟨rfl, rfl⟩

/-- A span is determined by the text it starts. -/
theorem isSpan_prefix_unique {quotes s₁ s₂ t₁ t₂ : List Char} (h₁ : IsSpan quotes s₁)
    (h₂ : IsSpan quotes s₂) (h : s₁ ++ t₁ = s₂ ++ t₂) : s₁ = s₂ ∧ t₁ = t₂ := by
  obtain ⟨q₁, -, hq₁, b₁, hb₁, rfl⟩ := h₁
  obtain ⟨q₂, -, -, b₂, hb₂, rfl⟩ := h₂
  simp only [List.cons_append, List.append_assoc, List.cons.injEq] at h
  obtain ⟨rfl, h⟩ := h
  obtain ⟨rfl, rfl⟩ := spanBody_close_unique hq₁ hb₁ hb₂ h
  exact ⟨rfl, rfl⟩

/-- A quoted span starts with one of the quote characters. -/
theorem IsSpan.head_mem {quotes s : List Char} (h : IsSpan quotes s) :
    ∃ q ∈ quotes, ∃ rest, s = q :: rest := by
  obtain ⟨q, hq, -, body, -, rfl⟩ := h
  exact ⟨q, hq, _, rfl⟩

/-- A text has at most one reading. -/
theorem segments_unique {quotes : List Char} :
    ∀ {text : List Char} {c₁ c₂ : List Chunk},
      Segments quotes text c₁ → Segments quotes text c₂ → c₁ = c₂
  | _, [], [], _, _ => rfl
  | _, [], x :: c₂, h₁, h₂ => by
    obtain ⟨hx, tail, htext, -⟩ := segments_cons_iff.1 h₂
    rw [segments_nil_iff.1 h₁] at htext
    cases x with
    | plain c => simp [Chunk.text] at htext
    | quoted s =>
      obtain ⟨q, -, rest, rfl⟩ := IsSpan.head_mem hx
      simp [Chunk.text] at htext
  | _, x :: c₁, [], h₁, h₂ => by
    obtain ⟨hx, tail, htext, -⟩ := segments_cons_iff.1 h₁
    rw [segments_nil_iff.1 h₂] at htext
    cases x with
    | plain c => simp [Chunk.text] at htext
    | quoted s =>
      obtain ⟨q, -, rest, rfl⟩ := IsSpan.head_mem hx
      simp [Chunk.text] at htext
  | _, x :: c₁, y :: c₂, h₁, h₂ => by
    obtain ⟨hx, t₁, rfl, hrest₁⟩ := segments_cons_iff.1 h₁
    obtain ⟨hy, t₂, htext, hrest₂⟩ := segments_cons_iff.1 h₂
    -- a character outside quotes never starts a span, so both readings start alike
    cases x with
    | plain c =>
      cases y with
      | plain d =>
        simp only [Chunk.text, List.singleton_append, List.cons.injEq] at htext
        obtain ⟨rfl, rfl⟩ := htext
        rw [segments_unique hrest₁ hrest₂]
      | quoted s =>
        obtain ⟨q, hq, rest, rfl⟩ := IsSpan.head_mem hy
        simp only [Chunk.text, List.cons_append, List.cons.injEq] at htext
        exact absurd (htext.1 ▸ hq) hx
    | quoted s =>
      cases y with
      | plain d =>
        obtain ⟨q, hq, rest, rfl⟩ := IsSpan.head_mem hx
        simp only [Chunk.text, List.cons_append, List.cons.injEq] at htext
        exact absurd (htext.1.symm ▸ hq) hy
      | quoted s' =>
        obtain ⟨rfl, rfl⟩ := isSpan_prefix_unique hx hy htext
        rw [segments_unique hrest₁ hrest₂]

/-- The quoted spans of a text are those of any of its readings. -/
theorem quotedSpans_iff {quotes text : List Char} {chunks : List Chunk}
    (h : Segments quotes text chunks) (spans : List (List Char)) :
    QuotedSpans quotes text spans ↔ spans = spansOf chunks := by
  constructor
  · rintro ⟨chunks', h', rfl⟩
    rw [segments_unique h' h]
  · rintro rfl
    exact ⟨chunks, h, rfl⟩

/-! ## The marker -/

/-- Every word of `n` letters has `n` letters from `a` to `z`. -/
theorem mem_markerWords {n : Nat} {w : List Char} (h : w ∈ markerWords n) :
    w.length = n ∧ ∀ c ∈ w, c ∈ markerAlphabet :=
  mem_markerWords_iff.1 h

theorem isLower_of_mem_markerAlphabet {c : Char} (h : c ∈ markerAlphabet) : c.isLower :=
  List.all_eq_true.1 (show markerAlphabet.all Char.isLower = true from rfl) c h

theorem isDigit_of_mem_markerAlphabet {c : Char} (h : c ∈ markerAlphabet) : c.isDigit = false := by
  have := List.all_eq_true.1 (show markerAlphabet.all (fun c => !c.isDigit) = true from rfl) c h
  simpa using this

/-- A marker is a non-empty word over `a`–`z` that does not occur in the text. -/
theorem freeMarker?_spec {text : List Char} {maxLen : Nat} {m : List Char}
    (h : freeMarker? text maxLen = some m) :
    m ≠ [] ∧ (∀ c ∈ m, c ∈ markerAlphabet) ∧ ¬ m <:+: text := by
  rw [freeMarker?_eq_find] at h
  obtain ⟨k, -, hk⟩ := List.exists_of_findSome?_eq_some h
  obtain ⟨hlen, hchars⟩ := mem_markerWords (List.mem_of_find?_eq_some hk)
  have hfree := List.find?_some hk
  refine ⟨?_, hchars, ?_⟩
  · intro hnil
    simp [hnil] at hlen
  · intro hinf
    rw [← Text.occursIn_iff_infix] at hinf
    simp [hinf] at hfree

/-- Either the guard replaced nothing and has no marker, or its marker is the free marker of
    the text. -/
theorem guard_marker {text quotes : List Char} {maxLen : Nat} {g : Guarded}
    (h : guard text quotes maxLen = .ok g) :
    (g.marker = [] ∧ g.originals = []) ∨ freeMarker? text maxLen = some g.marker := by
  unfold guard at h
  split at h
  · cases h
    exact .inl ⟨rfl, rfl⟩
  · split at h
    · cases h
    · rename_i marker hmarker
      cases hscan : scanSpans quotes marker text .outside [] [] with
      | error e => exact absurd h (by simp [hscan, Functor.map, Except.map])
      | ok r =>
        simp only [hscan] at h
        cases h
        exact .inr hmarker

/-- A reading without spans has itself as its guarded text. -/
theorem guardedText_of_spansOf_eq_nil {marker : List Char} {n : Nat} :
    ∀ {chunks : List Chunk}, spansOf chunks = [] → guardedText marker n chunks = chunks.flatMap Chunk.text
  | [], _ => rfl
  | .plain c :: rest, h => by
    rw [guardedText, guardedText_of_spansOf_eq_nil (by simpa using h)]
    rfl
  | .quoted _ :: _, h => by simp at h

/-- Every character of a guarded text is a plain character of the reading, a letter of the
    marker or a digit. -/
theorem mem_guardedText {marker : List Char} {c : Char} :
    ∀ {n : Nat} {chunks : List Chunk}, c ∈ guardedText marker n chunks →
      Chunk.plain c ∈ chunks ∨ c ∈ marker ∨ c.isDigit
  | _, [], h => by simp [guardedText] at h
  | n, .plain d :: rest, h => by
    rcases List.mem_cons.1 h with rfl | h
    · exact .inl List.mem_cons_self
    · rcases mem_guardedText h with h | h
      · exact .inl (List.mem_cons_of_mem _ h)
      · exact .inr h
  | n, .quoted _ :: rest, h => by
    rcases List.mem_append.1 h with h | h
    · simp only [placeholder, List.mem_append] at h
      rcases h with (h | h) | h
      · exact .inr (.inl h)
      · exact .inr (.inr (Nat.isDigit_of_mem_toDigits (by decide) (by decide) h))
      · exact .inr (.inl h)
    · rcases mem_guardedText h with h | h
      · exact .inl (List.mem_cons_of_mem _ h)
      · exact .inr h

end FilterQuery.Query

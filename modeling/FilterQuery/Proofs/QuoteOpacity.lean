import FilterQuery.Query.Build
import FilterQuery.Proofs.GuardRoundTrip
import FilterQuery.Proofs.SplitSymbols
import FilterQuery.Proofs.SwappedClause

/-!
# Quoted spans are opaque to parsing

Two filter texts that differ in one quoted span, `pre ++ q₁ ++ post` and `pre ++ q₂ ++ post`,
parse alike: both fail or both succeed, and on success the two trees are the fills of one
`Hole`, so they are equal except for the one literal that came from the span, which is the
content of `q₁` in the first and the content of `q₂` in the second (`parse_swap_span`).

The guard writes both texts as the same symbols, each with its own marker
(`guardedText_eq_expandSyms`), and its originals differ only at the span's slot; the
splitter cuts both into the same pieces (`splitLevel_expands`); each clause is read alike
(`readClause_swap`). What is left is the fold of the pieces: joining the tree built so far to
the next one, or negating a group, keeps the fills of one hole, since the slots of a text are
distinct and so at most one of the two joined trees holds the swapped slot.

## Key results

- `buildPieces_swap`, `buildPiece_swap`: the fold of the pieces of the two texts
- `parse_swap_span`: a filter text parses alike whatever quoted span stands at one place
-/

namespace FilterQuery.Query

variable {dates : DateRecognizer}

/-! ## The pieces of a split text -/

/-- A piece that is not an empty clause is read and joined to what came before. -/
theorem buildPieces_cons {g : Guarded} {like : LikeSyntax} {p : Piece}
    (hp : ∀ c, p ≠ .clause c []) (rest : List Piece) (acc : Option Predicate) :
    buildPieces dates g like (p :: rest) acc = buildPiece dates g like p >>= fun current =>
      buildPieces dates g like rest (some (match acc with
        | none => current
        | some previous => Predicate.combine p.conn [previous, current])) := by
  cases p with
  | clause c text =>
    cases text with
    | nil => exact absurd rfl (hp c)
    | cons ch text => rfl
  | group c negated pieces => rfl

theorem SymPiece.slotsAll_cons (p : SymPiece) (ps : List SymPiece) :
    SymPiece.slotsAll (p :: ps) = p.texts.flatMap slotsOf ++ SymPiece.slotsAll ps := by
  rw [SymPiece.slotsAll, SymPiece.textsAll, List.flatMap_append, SymPiece.slotsAll]

/-- The connective of a piece does not depend on the marker it is written with. -/
theorem SymPiece.conn_expand (m m' : List Char) (p : SymPiece) :
    (p.expand m).conn = (p.expand m').conn := by
  cases p <;> rfl

/-- A piece of symbols that is not an empty clause is not one when written out. -/
theorem SymPiece.expand_ne_empty {m : List Char} (hm : MarkerOk m) {p : SymPiece}
    (hp : ¬ ∃ c, p = .clause c []) (c : Connective) : p.expand m ≠ .clause c [] := by
  cases p with
  | clause c' t =>
    intro h
    simp only [SymPiece.expand, Piece.clause.injEq, expandSyms_eq_nil_iff hm] at h
    exact hp ⟨c', by rw [h.2]⟩
  | group c' negated ps => simp [SymPiece.expand]

namespace SpanSwap

variable {S : SpanSwap} {like : LikeSyntax}

/-- Texts in which neither marker occurs outside the placeholders. -/
def FreeIn (S : SpanSwap) (ts : List (List Sym)) : Prop :=
  ∀ t ∈ ts, MarkerFree S.g₁.marker t ∧ MarkerFree S.g₂.marker t

/-- Joining the tree built so far to the next one, of which at most one holds the swapped
    slot. -/
theorem Fills.combine (conn : Connective) {ks ks' : List Nat} {p₁ p₂ c₁ c₂ : Predicate}
    (hp : S.Fills like ks p₁ p₂) (hc : S.Fills like ks' c₁ c₂) (hk : S.k ∈ ks → S.k ∉ ks') :
    S.Fills like (ks ++ ks') (Predicate.combine conn [p₁, c₁])
      (Predicate.combine conn [p₂, c₂]) := by
  obtain ⟨H₁, hH₁, rfl, rfl⟩ := hp
  obtain ⟨H₂, hH₂, rfl, rfl⟩ := hc
  -- the two holes are not both open: each open one holds the swapped slot
  have hopen : ¬ (H₁.isOpen ∧ H₂.isOpen) := fun ⟨h₁, h₂⟩ => hk (hH₁ h₁) (hH₂ h₂)
  obtain ⟨H, hH, hfill⟩ := Hole.combine_pair conn hopen
  refine ⟨H, fun h => ?_, hfill _, hfill _⟩
  rcases hH h with h | h
  · exact List.mem_append_left _ (hH₁ h)
  · exact List.mem_append_right _ (hH₂ h)

theorem Fills.negate {ks : List Nat} {p₁ p₂ : Predicate} (h : S.Fills like ks p₁ p₂) :
    S.Fills like ks p₁.negate p₂.negate := by
  obtain ⟨H, hH, rfl, rfl⟩ := h
  obtain ⟨H', hH', hfill⟩ := Hole.negate_fill H
  exact ⟨H', fun h => hH (hH' h), hfill _, hfill _⟩

/-- The tree built so far after one more piece: the piece alone if it is the first, else the
    two joined. -/
theorem Fills.next (conn : Connective) {ks ks' : List Nat} {acc₁ acc₂ : Option Predicate}
    {c₁ c₂ : Predicate} (hc : S.Fills like ks' c₁ c₂) (hk : S.k ∈ ks → S.k ∉ ks') :
    Option.Rel (S.Fills like ks) acc₁ acc₂ → S.Fills like (ks ++ ks')
      (match acc₁ with
        | none => c₁
        | some previous => Predicate.combine conn [previous, c₁])
      (match acc₂ with
        | none => c₂
        | some previous => Predicate.combine conn [previous, c₂]) := by
  intro hacc
  cases hacc with
  | none => exact hc.mono (List.subset_append_right _ _)
  | some hp => exact hp.combine conn hc hk

mutual

/-- The pieces of the two texts folded onto trees built so far from the slots `ksA`: both
    folds fail together, and when they succeed they give the fills of one hole. -/
theorem buildPieces_swap : ∀ (P : List SymPiece) {ksA : List Nat} {acc₁ acc₂ : Option Predicate},
    Option.Rel (S.Fills like ksA) acc₁ acc₂ → S.FreeIn (SymPiece.textsAll P) →
    (ksA ++ SymPiece.slotsAll P).Nodup →
    Paired (S.Fills like (ksA ++ SymPiece.slotsAll P))
      (buildPieces dates S.g₁ like (SymPiece.expandAll S.g₁.marker P) acc₁)
      (buildPieces dates S.g₂ like (SymPiece.expandAll S.g₂.marker P) acc₂)
  | [], ksA, acc₁, acc₂, hacc, _, _ => by
    cases hacc with
    | none => exact Fills.same _ _
    | some hp => simpa [SymPiece.expandAll, buildPieces] using hp
  | p :: rest, ksA, acc₁, acc₂, hacc, hfree, hnodup => by
    rw [SymPiece.textsAll] at hfree
    have hfreeP : S.FreeIn p.texts := fun t ht => hfree t (List.mem_append_left _ ht)
    have hfreeR : S.FreeIn (SymPiece.textsAll rest) := fun t ht =>
      hfree t (List.mem_append_right _ ht)
    rw [SymPiece.slotsAll_cons] at hnodup ⊢
    by_cases hempty : ∃ c, p = .clause c []
    · -- an empty clause holds no slot and is dropped by both folds
      obtain ⟨c, rfl⟩ := hempty
      simp only [SymPiece.texts, List.flatMap_singleton, slotsOf_nil, List.nil_append]
        at hnodup ⊢
      simpa [SymPiece.expandAll, SymPiece.expand, buildPieces] using
        buildPieces_swap rest hacc hfreeR hnodup
    · rw [SymPiece.expandAll, SymPiece.expandAll,
        buildPieces_cons (SymPiece.expand_ne_empty S.marker₁ hempty),
        buildPieces_cons (SymPiece.expand_ne_empty S.marker₂ hempty),
        SymPiece.conn_expand S.g₂.marker S.g₁.marker p]
      -- the slots read so far, those of the piece and those of the rest are distinct
      have hsplit := List.nodup_append.1 hnodup
      have hnodupP : (p.texts.flatMap slotsOf).Nodup := (List.nodup_append.1 hsplit.2.1).1
      have hk : S.k ∈ ksA → S.k ∉ p.texts.flatMap slotsOf := fun hA hP =>
        hsplit.2.2 _ hA _ (List.mem_append_left _ hP) rfl
      refine Paired.bind (buildPiece_swap p hfreeP hnodupP) fun c₁ c₂ hc => ?_
      rw [← List.append_assoc] at hnodup ⊢
      exact buildPieces_swap rest (.some (Fills.next _ hc hk hacc)) hfreeR hnodup

/-- One piece of the two texts: a clause, or a group folded from nothing and negated when it
    is a `NOT` group. -/
theorem buildPiece_swap : ∀ (p : SymPiece), S.FreeIn p.texts →
    (p.texts.flatMap slotsOf).Nodup →
    Paired (S.Fills like (p.texts.flatMap slotsOf))
      (buildPiece dates S.g₁ like (p.expand S.g₁.marker))
          (buildPiece dates S.g₂ like (p.expand S.g₂.marker))
  | .clause c t, hfree, hnodup => by
    simp only [SymPiece.texts, List.flatMap_singleton] at hfree hnodup ⊢
    obtain ⟨h₁, h₂⟩ := hfree t List.mem_cons_self
    exact readClause_swap h₁ h₂ hnodup
  | .group c negated ps, hfree, hnodup => by
    rw [SymPiece.expand, SymPiece.expand, buildPiece, buildPiece]
    refine Paired.bind (buildPieces_swap ps (.none : Option.Rel (S.Fills like []) none none) hfree
      hnodup) fun p₁ p₂ hp => ?_
    cases negated
    · exact hp
    · exact hp.negate

end

/-- The split and the fold of the two texts, written as the same symbols `a`: both fail together,
    and when they succeed they give the fills of one hole. -/
theorem split_build_swap (opts : ParseOptions) {a : List Sym}
    (htext₁ : S.g₁.text = expandSyms S.g₁.marker a) (htext₂ : S.g₂.text = expandSyms S.g₂.marker a)
    (hfree₁ : MarkerFree S.g₁.marker a) (hfree₂ : MarkerFree S.g₂.marker a)
    (hnodup : (slotsOf a).Nodup) :
    Paired (S.Fills opts.like (slotsOf a))
      (split S.g₁.text opts.maxDepth >>= build dates S.g₁ opts.like)
      (split S.g₂.text opts.maxDepth >>= build dates S.g₂ opts.like) := by
  have h₁ := (splitLevel_expands S.marker₁ opts.maxDepth).1 0 a
  have h₂ := (splitLevel_expands S.marker₂ opts.maxDepth).1 0 a
  rw [htext₁, htext₂]
  unfold split
  cases hsplit : splitSyms opts.maxDepth 0 a with
  | none =>
    -- both texts fail to split
    rw [hsplit] at h₁ h₂
    obtain ⟨e₁, he₁⟩ := h₁.eq_error
    obtain ⟨e₂, he₂⟩ := h₂.eq_error
    rw [he₁, he₂]
    trivial
  | some P =>
    rw [hsplit] at h₁ h₂
    rw [h₁.eq_ok, h₂.eq_ok, except_ok_bind, except_ok_bind]
    -- the pieces hold the slots of the text, and their clause texts are parts of it
    obtain ⟨hslots, htexts⟩ := (splitSyms_texts opts.maxDepth).1 0 a P hsplit
    have hfree : S.FreeIn (SymPiece.textsAll P) := fun t ht =>
      ⟨hfree₁.mono (htexts t ht), hfree₂.mono (htexts t ht)⟩
    have hpair := @buildPieces_swap dates S opts.like P [] none none .none hfree
      (by rw [List.nil_append, hslots]; exact hnodup)
    rw [List.nil_append, hslots] at hpair
    exact hpair

end SpanSwap

/-! ## The guard's reading of the two texts -/

/-- A span between two readings makes a reading of the whole text. -/
theorem segments_span {quotes pre q post : List Char} {cPre cPost : List Chunk}
    (hpre : Segments quotes pre cPre) (hq : IsSpan quotes q) (hpost : Segments quotes post cPost) :
    Segments quotes (pre ++ q ++ post) (cPre ++ .quoted q :: cPost) := by
  refine ⟨fun x hx => ?_, ?_⟩
  · rcases List.mem_append.1 hx with hx | hx
    · exact hpre.1 x hx
    · rcases List.mem_cons.1 hx with rfl | hx
      · exact hq
      · exact hpost.1 x hx
  · rw [hpre.2, hpost.2]
    simp [Chunk.text]

/-- The placeholders of a reading's symbols are numbered one after the other. -/
theorem slotsOf_symsOf : ∀ (n : Nat) (chunks : List Chunk),
    slotsOf (symsOf n chunks) = List.range' n (spansOf chunks).length
  | _, [] => rfl
  | n, .plain c :: rest => by simp [symsOf, slotsOf_symsOf n rest]
  | n, .quoted _ :: rest => by simp [symsOf, slotsOf_symsOf (n + 1) rest, List.range'_succ]

/-- What the guard makes of a text with a span between two readings: the reading's symbols,
    written with a marker the guard may choose that occurs in no plain run of them, and the spans
    of the reading as originals. -/
theorem guard_span {quotes pre q post : List Char} {maxLen : Nat} {g : Guarded}
    {cPre cPost : List Chunk} (hpre : Segments quotes pre cPre) (hq : IsSpan quotes q)
    (hpost : Segments quotes post cPost) (hg : guard (pre ++ q ++ post) quotes maxLen = .ok g) :
    MarkerOk g.marker ∧ MarkerFree g.marker (symsOf 0 (cPre ++ .quoted q :: cPost)) ∧
      g.text = expandSyms g.marker (symsOf 0 (cPre ++ .quoted q :: cPost)) ∧
      g.originals = spansOf cPre ++ q :: spansOf cPost := by
  have hseg := segments_span hpre hq hpost
  obtain ⟨chunks, hchunks, htext, horig⟩ := guard_segments hg
  obtain rfl := segments_unique hchunks hseg
  have horig' : g.originals = spansOf cPre ++ q :: spansOf cPost := by
    rw [horig]
    simp [spansOf, List.filterMap_append, Chunk.span?]
  -- a text with a span gets a marker, and the marker is free in the text
  rcases guard_marker hg with ⟨-, hnil⟩ | hfree
  · simp [horig'] at hnil
  · obtain ⟨hne, hletters, hnot⟩ := freeMarker?_spec hfree
    rw [hseg.2] at hnot
    exact ⟨⟨hne, hletters⟩, markerFree_symsOf hnot, by rw [htext, guardedText_eq_expandSyms],
      horig'⟩

/-- Originals that differ in one place give the same span at every other index. -/
theorem slotOriginal_swap (xs ys : List (List Char)) (q₁ q₂ : List Char) (j : Nat) :
    slotOriginal (xs ++ q₁ :: ys) j = slotOriginal (xs ++ q₂ :: ys) j ∨
      (j = xs.length ∧ slotOriginal (xs ++ q₁ :: ys) j = some q₁ ∧
        slotOriginal (xs ++ q₂ :: ys) j = some q₂) := by
  unfold slotOriginal
  split_ifs with hj
  · rcases Nat.lt_trichotomy j xs.length with hlt | rfl | hgt
    · left
      rw [List.getElem?_append_left hlt, List.getElem?_append_left hlt]
    · right
      simp
    · left
      obtain ⟨d, rfl⟩ : ∃ d, j = xs.length + (d + 1) := ⟨j - xs.length - 1, by omega⟩
      rw [List.getElem?_append_right (by omega), List.getElem?_append_right (by omega)]
      simp
  · exact .inl rfl

/-! ## Parsing the two texts -/

/-- Quoted spans are opaque to parsing. Take a text `pre ++ q₁ ++ post` in which `q₁` is a
    quoted span of the guard's reading, and a second span `q₂` opened by the same quote; both
    have non-empty contents. When the guard succeeds on both texts, parsing succeeds on both or
    on neither, and the two trees are the fills of one hole with the contents of `q₁` and `q₂`:
    equal except for the one literal that came from the span, whether a text value, a field
    name or a `LIKE` pattern. -/
theorem parse_swap_span (opts : ParseOptions) {pre q₁ q₂ post : List Char}
    {cPre cPost : List Chunk} (hpre : Segments opts.quotes pre cPre)
    (hpost : Segments opts.quotes post cPost) (hq₁ : IsSpan opts.quotes q₁)
    (hq₂ : IsSpan opts.quotes q₂) (hhead : q₁.head? = q₂.head?) (hu₁ : unquote q₁ ≠ [])
    (hu₂ : unquote q₂ ≠ []) {g₁ g₂ : Guarded}
    (hg₁ : guard (pre ++ q₁ ++ post) opts.quotes opts.placeholderMaxLen = .ok g₁)
    (hg₂ : guard (pre ++ q₂ ++ post) opts.quotes opts.placeholderMaxLen = .ok g₂) :
    ((∃ t₁, parse opts (String.ofList (pre ++ q₁ ++ post)) = .ok t₁) ↔
      (∃ t₂, parse opts (String.ofList (pre ++ q₂ ++ post)) = .ok t₂)) ∧
    ∀ t₁ t₂, parse opts (String.ofList (pre ++ q₁ ++ post)) = .ok t₁ →
      parse opts (String.ofList (pre ++ q₂ ++ post)) = .ok t₂ →
      ∃ H : Hole, t₁ = H.fill opts.like (String.ofList (unquote q₁)) ∧
        t₂ = H.fill opts.like (String.ofList (unquote q₂)) := by
  obtain ⟨hm₁, hfree₁, htext₁, horig₁⟩ := guard_span hpre hq₁ hpost hg₁
  obtain ⟨hm₂, hfree₂, htext₂, horig₂⟩ := guard_span hpre hq₂ hpost hg₂
  -- both texts are the same symbols: a span is one slot whatever it holds
  have hsyms : symsOf 0 (cPre ++ .quoted q₂ :: cPost) = symsOf 0 (cPre ++ .quoted q₁ :: cPost) := by
    simp [symsOf_append, symsOf]
  rw [hsyms] at hfree₂ htext₂
  let S : SpanSwap := ⟨g₁, g₂, (spansOf cPre).length, q₁, q₂, hm₁, hm₂,
    fun j => by rw [horig₁, horig₂]; exact slotOriginal_swap _ _ q₁ q₂ j, hhead, hu₁, hu₂⟩
  have hnodup : (slotsOf (symsOf 0 (cPre ++ .quoted q₁ :: cPost))).Nodup := by
    rw [slotsOf_symsOf]
    exact List.nodup_range'
  have hpair : Paired (S.Fills opts.like (slotsOf (symsOf 0 (cPre ++ .quoted q₁ :: cPost))))
      (parse opts (String.ofList (pre ++ q₁ ++ post)))
      (parse opts (String.ofList (pre ++ q₂ ++ post))) := by
    simp only [parse, String.toList_ofList, hg₁, hg₂, except_ok_bind]
    exact SpanSwap.split_build_swap opts htext₁ htext₂ hfree₁ hfree₂ hnodup
  refine ⟨hpair.ok_iff, fun t₁ t₂ h₁ h₂ => ?_⟩
  obtain ⟨H, -, rfl, rfl⟩ := hpair.rel_of_ok h₁ h₂
  exact ⟨H, rfl, rfl⟩

/-- Opacity on a comparison joined to a second clause: the two texts get the markers `b` and
    `a`, and both parse or neither. -/
theorem parse_swap_span_comparison :
    Segments ({} : ParseOptions).quotes "f = ".toList ("f = ".toList.map .plain) ∧
    Segments ({} : ParseOptions).quotes " or g = 2".toList (" or g = 2".toList.map .plain) ∧
    IsSpan ({} : ParseOptions).quotes "'a'".toList ∧
    IsSpan ({} : ParseOptions).quotes "'xy'".toList ∧
    "'a'".toList.head? = "'xy'".toList.head? ∧ unquote "'a'".toList ≠ [] ∧
    unquote "'xy'".toList ≠ [] ∧
    guard ("f = ".toList ++ "'a'".toList ++ " or g = 2".toList) ({} : ParseOptions).quotes 4 =
      .ok ⟨"f = b0b or g = 2".toList, ['b'], ["'a'".toList]⟩ ∧
    guard ("f = ".toList ++ "'xy'".toList ++ " or g = 2".toList) ({} : ParseOptions).quotes 4 =
      .ok ⟨"f = a0a or g = 2".toList, ['a'], ["'xy'".toList]⟩ ∧
    (((∃ t₁, parse {} (String.ofList ("f = ".toList ++ "'a'".toList ++ " or g = 2".toList)) =
        .ok t₁) ↔
      (∃ t₂, parse {} (String.ofList ("f = ".toList ++ "'xy'".toList ++ " or g = 2".toList)) =
        .ok t₂)) ∧
    ∀ t₁ t₂, parse {} (String.ofList ("f = ".toList ++ "'a'".toList ++ " or g = 2".toList)) =
        .ok t₁ →
      parse {} (String.ofList ("f = ".toList ++ "'xy'".toList ++ " or g = 2".toList)) = .ok t₂ →
      ∃ H : Hole, t₁ = H.fill .regex (String.ofList (unquote "'a'".toList)) ∧
        t₂ = H.fill .regex (String.ofList (unquote "'xy'".toList))) := by
  have hpre : Segments ({} : ParseOptions).quotes "f = ".toList ("f = ".toList.map .plain) :=
    segments_map_plain (by simp)
  have hpost :
      Segments ({} : ParseOptions).quotes " or g = 2".toList (" or g = 2".toList.map .plain) :=
    segments_map_plain (by simp)
  have hq₁ : IsSpan ({} : ParseOptions).quotes "'a'".toList :=
    ⟨'\'', by simp, by decide, ['a'], .plain (by decide) (by decide) .nil, rfl⟩
  have hq₂ : IsSpan ({} : ParseOptions).quotes "'xy'".toList :=
    ⟨'\'', by simp, by decide, ['x', 'y'],
      .plain (by decide) (by decide) (.plain (by decide) (by decide) .nil), rfl⟩
  have hu₁ : unquote "'a'".toList ≠ [] := by decide
  have hu₂ : unquote "'xy'".toList ≠ [] := by decide
  have hg₁ : guard ("f = ".toList ++ "'a'".toList ++ " or g = 2".toList)
      ({} : ParseOptions).quotes 4 = .ok ⟨"f = b0b or g = 2".toList, ['b'], ["'a'".toList]⟩ := rfl
  have hg₂ : guard ("f = ".toList ++ "'xy'".toList ++ " or g = 2".toList)
      ({} : ParseOptions).quotes 4 = .ok ⟨"f = a0a or g = 2".toList, ['a'], ["'xy'".toList]⟩ :=
    rfl
  exact ⟨hpre, hpost, hq₁, hq₂, rfl, hu₁, hu₂, hg₁, hg₂,
    parse_swap_span {} hpre hpost hq₁ hq₂ rfl hu₁ hu₂ hg₁ hg₂⟩

end FilterQuery.Query

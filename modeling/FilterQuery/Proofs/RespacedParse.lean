import FilterQuery.Proofs.RespacedSplit
import FilterQuery.Proofs.QuoteOpacity
import Mathlib.Data.List.Find

/-!
# Parsing does not count white space outside quotes

Replacing a run of white space that stands outside every quoted span of a filter text by any
other non-empty run of white space changes nothing: the two texts both fail to parse, or parse
to the same predicate (`parse_respace`). White space here is the Unicode `White_Space`
property, the no-break space and the ideographic space included, and the quote characters must
not be white space.

Each stage is compared on the two texts:
* the guard writes the run unchanged into the guarded text, chooses the same marker (a marker
  has no white space, so it occurs in one text exactly when it occurs in the other), and
  records the same spans (`guard_respace`); the two guarded texts have the same squash;
* the splitter gives pieces that differ only in the white space of their clause texts
  (`split_respace`);
* the lexer reads the same tokens from texts with the same squash (`lexTokens_respace`), so a
  clause reads to the same predicate, and errors only name the text they were found in
  (`readClause_respace`).

The clause readers never look at the guarded text itself, only at its marker and spans
(`readClause_withText`), so the two guarded texts may be used interchangeably after the split.

## Key results
- `lexTokens_respace`: the tokens of two texts with the same squash
- `buildPieces_respace`: the predicates of pieces that differ only in white space
- `guard_respace`: guarding two texts that differ in one run of white space
- `parse_respace`: parsing two such texts
-/

namespace FilterQuery.Query

variable {dates : DateRecognizer}

open Text (squash isWhiteSpace)

/-- Results that fail together and are equal when they succeed succeed with the same value. -/
theorem Paired.eq_ok_iff {ε α : Type} {x₁ x₂ : Except ε α} (h : Paired Eq x₁ x₂) (a : α) :
    x₁ = .ok a ↔ x₂ = .ok a := by
  cases x₁ with
  | error e₁ =>
    cases x₂ with
    | error e₂ => simp
    | ok b => cases h
  | ok a₁ =>
    cases x₂ with
    | error e₂ => cases h
    | ok b =>
      cases (h : a₁ = b)
      rfl

/-! ## Tokens -/

/-- Leading white space is skipped. -/
theorem lexTokens_dropWhile_ws (s : List Char) (acc : List Token) :
    lexTokens s acc = lexTokens (s.dropWhile isWhiteSpace) acc := by
  induction s with
  | nil => rfl
  | cons c s ih =>
    cases hc : isWhiteSpace c
    · rw [List.dropWhile_cons_of_neg (by simp [hc])]
    · rw [lexTokens_whiteSpace hc, ih, List.dropWhile_cons_of_pos (by simp [hc])]

/-- A look at the next character, when it is no white space, sees the same in texts with the
    same squash. -/
theorem ite_head?_congr {α : Type} {c : Char} (hc : isWhiteSpace c = false) {a b : List Char}
    (h : squash a = squash b) (F G : List Char → α)
    (hF : a.head? = some c → F a.tail = F b.tail) (hG : G a = G b) :
    (if a.head? = some c then F a.tail else G a) = (if b.head? = some c then F b.tail else G b) := by
  by_cases ha : a.head? = some c
  · rw [if_pos ha, if_pos (Text.head?_eq_some_of_squash_eq hc h ha), hF ha]
  · rw [if_neg ha, if_neg fun hb => ha (Text.head?_eq_some_of_squash_eq hc h.symm hb), hG]

/-- Texts with the same squash have the same tokens: the lexer drops white space and stops a
    word at it, whatever its kind and length. -/
theorem lexTokens_respace : ∀ (a b : List Char) (acc : List Token), squash a = squash b →
    lexTokens a acc = lexTokens b acc
  | [], b, acc, h => by rw [Text.eq_nil_of_squash_eq h]
  | c :: a, b, acc, h => by
    cases hc : isWhiteSpace c
    · obtain ⟨b, rfl, hab⟩ := Text.squash_eq_squash_cons hc h
      have htail : ∀ {d : Char}, isWhiteSpace d = false → a.head? = some d →
          squash a.tail = squash b.tail := fun hd hh => Text.squash_tail_eq hd hab hh
      by_cases hl : c = '('
      · subst hl
        rw [lexTokens_lparen, lexTokens_lparen]
        exact lexTokens_respace a b _ hab
      by_cases hr : c = ')'
      · subst hr
        rw [lexTokens_rparen, lexTokens_rparen]
        exact lexTokens_respace a b _ hab
      by_cases hcomma : c = ','
      · subst hcomma
        rw [lexTokens_comma, lexTokens_comma]
        exact lexTokens_respace a b _ hab
      by_cases heq : c = '='
      · subst heq
        rw [lexTokens_equals, lexTokens_equals]
        exact ite_head?_congr (by decide) hab (fun r => lexTokens r (.op .eq :: acc))
          (fun r => lexTokens r (.op .eq :: acc))
          (fun hh => lexTokens_respace _ _ _ (htail (by decide) hh)) (lexTokens_respace a b _ hab)
      by_cases hbang : c = '!'
      · subst hbang
        rw [lexTokens_bang, lexTokens_bang]
        exact ite_head?_congr (by decide) hab (fun r => lexTokens r (.op .ne :: acc))
          (fun _ => .error (.bare .bangWithoutEquals))
          (fun hh => lexTokens_respace _ _ _ (htail (by decide) hh)) rfl
      by_cases hlt : c = '<'
      · subst hlt
        rw [lexTokens_less, lexTokens_less]
        exact ite_head?_congr (by decide) hab (fun r => lexTokens r (.op .le :: acc))
          (fun r => if r.head? = some '>' then lexTokens r.tail (.op .ne :: acc)
            else lexTokens r (.op .lt :: acc))
          (fun hh => lexTokens_respace _ _ _ (htail (by decide) hh))
          (ite_head?_congr (by decide) hab (fun r => lexTokens r (.op .ne :: acc))
            (fun r => lexTokens r (.op .lt :: acc))
            (fun hh => lexTokens_respace _ _ _ (htail (by decide) hh))
            (lexTokens_respace a b _ hab))
      by_cases hgt : c = '>'
      · subst hgt
        rw [lexTokens_greater, lexTokens_greater]
        exact ite_head?_congr (by decide) hab (fun r => lexTokens r (.op .ge :: acc))
          (fun r => lexTokens r (.op .gt :: acc))
          (fun hh => lexTokens_respace _ _ _ (htail (by decide) hh)) (lexTokens_respace a b _ hab)
      -- a word, which ends at the same place in both texts
      have hw : isWordDelimiter c = false := by
        simp [isWordDelimiter, hc, hl, hr, hcomma, heq, hbang, hlt, hgt]
      have hp : ∀ d, (!isWordDelimiter d) = true → isWhiteSpace d = false := fun d hd => by
        cases hd' : isWhiteSpace d
        · rfl
        · simp [isWordDelimiter, hd'] at hd
      obtain ⟨htake, hdrop⟩ := Text.takeWhile_eq_of_squash_eq hp hab
      have := (List.dropWhile_sublist (fun d => !isWordDelimiter d) (l := a)).length_le
      rw [lexTokens_word hw, lexTokens_word hw, htake]
      exact lexTokens_respace _ _ _ hdrop
    · -- a run of white space on each side, skipped whole
      obtain ⟨d, b, rfl, hd, hab⟩ := Text.squash_eq_squash_cons_ws hc h
      have := (List.dropWhile_sublist isWhiteSpace (l := a)).length_le
      rw [lexTokens_whiteSpace hc, lexTokens_whiteSpace hd, lexTokens_dropWhile_ws a,
        lexTokens_dropWhile_ws b]
      exact lexTokens_respace _ _ acc hab
termination_by a => a.length
decreasing_by all_goals simp only [List.length_cons, List.length_tail] at *; omega

theorem tokenize_respace {a b : List Char} (h : squash a = squash b) : tokenize a = tokenize b :=
  lexTokens_respace a b [] h

/-! ## The readers do not look at the guarded text -/

section WithText

variable (g : Guarded) (t : List Char)

theorem indexAfterMarker_withText :
    ({ g with text := t } : Guarded).indexAfterMarker = g.indexAfterMarker := rfl

theorem restore_withText : ({ g with text := t } : Guarded).restore = g.restore := by
  funext n cs
  induction cs generalizing n with
  | nil => cases n <;> rfl
  | cons c rest ih =>
    cases n with
    | zero => simp only [Guarded.restore, ih, indexAfterMarker_withText]
    | succ n => simp only [Guarded.restore, ih]

theorem unguard_withText : ({ g with text := t } : Guarded).unguard = g.unguard := by
  funext cs
  simp only [Guarded.unguard, restore_withText]

theorem readListValues_withText : readListValues dates
    { g with text := t } = readListValues dates g := by
  funext fuel
  induction fuel with
  | zero => rfl
  | succ fuel ih =>
    funext ts acc
    simp only [readListValues, ih]
    rfl

theorem readClauseTokens_withText (like : LikeSyntax) :
    readClauseTokens dates { g with text := t } like = readClauseTokens dates g like := by
  funext ts
  unfold readClauseTokens readClauseTokens.readGeneral readKeywordOperator readIn readField
  rw [unguard_withText, readListValues_withText]
  rfl

/-- A clause is read from the marker and the spans of a guarded text, never from its text. -/
theorem readClause_withText (like : LikeSyntax) :
    readClause dates { g with text := t } like = readClause dates g like := by
  funext cs
  unfold readClause
  rw [readClauseTokens_withText, unguard_withText]

end WithText

/-! ## Folding pieces that differ only in white space -/

theorem Piece.conn_respace (p : Piece) : p.respace.conn = p.conn := by
  cases p <;> rfl

theorem Piece.respace_eq_clause {p : Piece} {c : Connective} {text : List Char}
    (h : p.respace = .clause c text) : ∃ text', p = .clause c text' ∧ squash text' = text := by
  cases p with
  | clause c' text' =>
    simp only [Piece.respace, Piece.clause.injEq] at h
    obtain ⟨rfl, rfl⟩ := h
    exact ⟨text', rfl, rfl⟩
  | group => simp [Piece.respace] at h

theorem Piece.respace_eq_group {p : Piece} {c : Connective} {negated : Bool} {ps : List Piece}
    (h : p.respace = .group c negated ps) :
    ∃ ps', p = .group c negated ps' ∧ Piece.respaceAll ps' = ps := by
  cases p with
  | clause => simp [Piece.respace] at h
  | group c' negated' ps' =>
    simp only [Piece.respace, Piece.group.injEq] at h
    obtain ⟨rfl, rfl, rfl⟩ := h
    exact ⟨ps', rfl, rfl⟩

section Build

variable (g : Guarded) (t : List Char) (like : LikeSyntax)

/-- Clause texts with the same squash are read to the same predicate, or both refused. -/
theorem readClause_respace {text₁ text₂ : List Char} (h : squash text₁ = squash text₂) :
    Paired Eq (readClause dates g like text₁)
        (readClause dates { g with text := t } like text₂) := by
  rw [readClause_withText g t]
  unfold readClause
  rw [tokenize_respace h]
  cases tokenize text₂ >>= readClauseTokens dates g like with
  | ok p => exact rfl
  | error e => trivial

mutual

/-- Pieces that differ only in white space fold to the same predicate, or both fail. -/
theorem buildPieces_respace : ∀ (ps₁ ps₂ : List Piece) (acc : Option Predicate),
    PiecesRespaced ps₁ ps₂ →
    Paired Eq (buildPieces dates g like ps₁ acc)
        (buildPieces dates { g with text := t } like ps₂ acc)
  | [], ps₂, acc, h => by
    have hnil : ps₂ = [] := Piece.respaceAll_eq_nil_iff.1 h.symm
    subst hnil
    exact rfl
  | _ :: _, [], _, h => by simp [PiecesRespaced] at h
  | p₁ :: rest₁, p₂ :: rest₂, acc, h => by
    simp only [PiecesRespaced, Piece.respaceAll_cons, List.cons.injEq] at h
    obtain ⟨hp, hrest⟩ := h
    by_cases hempty : ∃ c, p₁ = .clause c []
    · -- an empty clause on one side is one on the other, and both folds drop it
      obtain ⟨c, rfl⟩ := hempty
      obtain ⟨text, rfl, htext⟩ := Piece.respace_eq_clause hp.symm
      obtain rfl := Text.eq_nil_of_squash_eq htext.symm
      rw [buildPieces.eq_2, buildPieces.eq_2]
      exact buildPieces_respace rest₁ rest₂ acc hrest
    · have hempty₂ : ∀ c, p₂ ≠ .clause c [] := by
        rintro c rfl
        obtain ⟨text, rfl, htext⟩ := Piece.respace_eq_clause hp
        exact hempty ⟨c, by rw [Text.squash_eq_nil_iff.1 htext]⟩
      have hconn : p₁.conn = p₂.conn := by
        rw [← Piece.conn_respace, hp, Piece.conn_respace]
      rw [buildPieces_cons (fun c h' => hempty ⟨c, h'⟩) rest₁, buildPieces_cons hempty₂ rest₂, hconn]
      refine Paired.bind (buildPiece_respace p₁ p₂ hp) fun c₁ c₂ hc => ?_
      subst hc
      exact buildPieces_respace rest₁ rest₂ _ hrest

/-- One piece: a clause read from texts of the same squash, or a group folded from pieces
    that differ only in white space. -/
theorem buildPiece_respace : ∀ (p₁ p₂ : Piece), p₁.respace = p₂.respace →
    Paired Eq (buildPiece dates g like p₁) (buildPiece dates { g with text := t } like p₂)
  | .clause c text₁, p₂, h => by
    obtain ⟨text₂, rfl, htext⟩ := Piece.respace_eq_clause h.symm
    exact readClause_respace g t like htext.symm
  | .group c negated ps₁, p₂, h => by
    obtain ⟨ps₂, rfl, hps⟩ := Piece.respace_eq_group h.symm
    refine Paired.bind (buildPieces_respace ps₁ ps₂ none hps.symm) fun a b hab => ?_
    subst hab
    exact rfl

end

end Build

/-! ## The guard -/

/-- Two guarded texts with the same marker and spans whose texts have the same squash. -/
structure Guarded.Respaced (g₁ g₂ : Guarded) : Prop where
  marker : g₁.marker = g₂.marker
  originals : g₁.originals = g₂.originals
  text : squash g₁.text = squash g₂.text

section Guard

variable {pre w w' post : List Char}

/-- A word that occurs in a text after characters it does not hold occurs in the rest. -/
theorem infix_of_infix_append_of_not_mem {m v rest : List Char} (hv : ∀ c ∈ v, c ∉ m)
    (h : m <:+: v ++ rest) : m = [] ∨ m <:+: rest := by
  induction v with
  | nil => exact .inr h
  | cons y v ih =>
    rw [List.cons_append, ← List.nil_append (y :: _)] at h
    rcases infix_or_infix_of_not_mem (hv y List.mem_cons_self) h with h | h
    · exact .inl (List.eq_nil_of_infix_nil h)
    · exact ih (fun c hc => hv c (List.mem_cons_of_mem y hc)) h

/-- A word without white space that occurs around a run of white space occurs on one side of
    it. -/
theorem infix_run_iff {m : List Char} (hm : ∀ c ∈ m, isWhiteSpace c = false) (hw : w ≠ [])
    (hws : ∀ c ∈ w, isWhiteSpace c = true) : m <:+: pre ++ w ++ post ↔ m <:+: pre ∨ m <:+: post := by
  have hnot : ∀ c ∈ w, c ∉ m := fun c hc hcm => by
    have := hm c hcm
    rw [hws c hc] at this
    exact Bool.noConfusion this
  constructor
  · intro h
    obtain ⟨x, w₀, rfl⟩ := List.exists_cons_of_ne_nil hw
    rw [List.append_assoc, List.cons_append] at h
    rcases infix_or_infix_of_not_mem (hnot x List.mem_cons_self) h with h | h
    · exact .inl h
    · rcases infix_of_infix_append_of_not_mem (fun c hc => hnot c (List.mem_cons_of_mem x hc)) h
        with rfl | h
      · exact .inl List.nil_infix
      · exact .inr h
  · rintro (h | h)
    · exact h.trans ((List.prefix_append pre w).trans (List.prefix_append _ post)).isInfix
    · exact h.trans (List.suffix_append _ post).isInfix

/-- A word without white space occurs in one text exactly when it occurs in the other. -/
theorem occursIn_respace {m : List Char} (hm : ∀ c ∈ m, isWhiteSpace c = false) (hw : w ≠ [])
    (hw' : w' ≠ []) (hws : ∀ c ∈ w, isWhiteSpace c = true) (hws' : ∀ c ∈ w', isWhiteSpace c = true) :
    Text.occursIn m (pre ++ w ++ post) = Text.occursIn m (pre ++ w' ++ post) := by
  apply Bool.eq_iff_iff.2
  rw [Text.occursIn_iff_infix, Text.occursIn_iff_infix, infix_run_iff hm hw hws,
    infix_run_iff hm hw' hws']

/-- The guard chooses the same marker for both texts. -/
theorem freeMarker?_respace (hw : w ≠ []) (hw' : w' ≠ []) (hws : ∀ c ∈ w, isWhiteSpace c = true)
    (hws' : ∀ c ∈ w', isWhiteSpace c = true) (maxLen : Nat) :
    freeMarker? (pre ++ w ++ post) maxLen = freeMarker? (pre ++ w' ++ post) maxLen := by
  rw [freeMarker?_eq_find, freeMarker?_eq_find]
  congr 1
  funext k
  exact List.find?_congr fun m hm => by
    rw [occursIn_respace (fun c hc => isWhiteSpace_of_mem (.inl ((mem_markerWords hm).2 c hc)))
      hw hw' hws hws']

/-- Characters that are no quote are written out as they are. -/
theorem scanSpans_plain {quotes marker v : List Char} (hv : ∀ c ∈ v, c ∉ quotes)
    (rest out : List Char) (origs : List (List Char)) :
    scanSpans quotes marker (v ++ rest) .outside out origs =
      scanSpans quotes marker rest .outside (v.reverse ++ out) origs := by
  rw [scanSpans_segments (segments_map_plain hv)]
  simp

/-- Guarding two texts that differ in one run of white space outside every span: both fail,
    or both give the same marker and spans, and texts of the same squash. -/
theorem guard_respace {quotes : List Char} (hq : ∀ q ∈ quotes, isWhiteSpace q = false)
    {chunks : List Chunk} (hpre : Segments quotes pre chunks) (hw : w ≠ []) (hw' : w' ≠ [])
    (hws : ∀ c ∈ w, isWhiteSpace c = true) (hws' : ∀ c ∈ w', isWhiteSpace c = true)
    (maxLen : Nat) :
    Paired Guarded.Respaced (guard (pre ++ w ++ post) quotes maxLen)
      (guard (pre ++ w' ++ post) quotes maxLen) := by
  -- white space is no quote
  have hnq : ∀ {v : List Char}, (∀ c ∈ v, isWhiteSpace c = true) → ∀ c ∈ v, c ∉ quotes :=
    fun hv c hc hcq => by
      have := hq c hcq
      rw [hv c hc] at this
      exact Bool.noConfusion this
  have hany : (pre ++ w ++ post).any (· ∈ quotes) = (pre ++ w' ++ post).any (· ∈ quotes) := by
    have hrun : ∀ {v : List Char}, (∀ c ∈ v, isWhiteSpace c = true) →
        v.any (· ∈ quotes) = false := fun hv =>
      List.any_eq_false.2 fun c hc => by simpa using hnq hv c hc
    simp only [List.any_append, hrun hws, hrun hws']
  unfold guard
  rw [hany, freeMarker?_respace hw hw' hws hws' maxLen]
  split
  · exact ⟨rfl, rfl, Text.squash_respace pre hw hw' hws hws' post⟩
  · split
    · trivial
    · -- both scans read the spans of `pre`, write the run out, and then read `post` alike
      rename_i marker _
      have hscan : ∀ {v : List Char}, (∀ c ∈ v, isWhiteSpace c = true) →
          scanSpans quotes marker (pre ++ v ++ post) .outside [] [] =
            (scanSpans quotes marker post .outside [] (spansOf chunks).reverse).map
              fun r => (guardedText marker 0 chunks ++ v ++ r.1, r.2) := by
        intro v hv
        rw [List.append_assoc, scanSpans_segments hpre, scanSpans_plain (hnq hv), scanSpans_out]
        simp
      rw [hscan hws, hscan hws']
      cases scanSpans quotes marker post .outside [] (spansOf chunks).reverse with
      | error e => trivial
      | ok r => exact ⟨rfl, rfl, Text.squash_respace _ hw hw' hws hws' _⟩

end Guard

/-! ## Parsing -/

/-- Replacing a run of white space outside every quoted span of a filter text by another
    non-empty run of white space does not change what the text parses to, nor whether it
    parses. The text before the run, `pre`, reads as whole characters and quoted spans, so the
    run stands outside every span. -/
theorem parse_respace {opts : ParseOptions} (hq : ∀ q ∈ opts.quotes, isWhiteSpace q = false)
    {pre : List Char} {chunks : List Chunk} (hpre : Segments opts.quotes pre chunks)
    {w w' : List Char} (hw : w ≠ []) (hw' : w' ≠ []) (hws : ∀ c ∈ w, isWhiteSpace c = true)
    (hws' : ∀ c ∈ w', isWhiteSpace c = true) (post : List Char) (t : Predicate) :
    parse opts (String.ofList (pre ++ w ++ post)) = .ok t ↔
      parse opts (String.ofList (pre ++ w' ++ post)) = .ok t := by
  have hparse : Paired Eq (parse opts (String.ofList (pre ++ w ++ post)))
      (parse opts (String.ofList (pre ++ w' ++ post))) := by
    unfold parse
    rw [String.toList_ofList, String.toList_ofList]
    refine Paired.bind (guard_respace hq hpre hw hw' hws hws' _) fun g₁ g₂ hg => ?_
    -- the two guarded texts differ only in their text
    obtain ⟨t₁, m₁, o₁⟩ := g₁
    obtain ⟨t₂, m₂, o₂⟩ := g₂
    obtain ⟨hm, ho, htext⟩ := hg
    dsimp only at hm ho htext
    subst hm ho
    exact Paired.bind (split_respace htext _) fun ps₁ ps₂ hps =>
      buildPieces_respace ⟨t₁, m₁, o₁⟩ t₂ opts.like ps₁ ps₂ none hps
  exact hparse.eq_ok_iff t

/-- A space before a quoted span replaced by an ideographic space and a tab: the span keeps
    its own two spaces. -/
theorem parse_respace_ideographic :
    (∀ q ∈ ({} : ParseOptions).quotes, isWhiteSpace q = false) ∧
    Segments ({} : ParseOptions).quotes "name =".toList ("name =".toList.map .plain) ∧
    (parse {} (String.ofList ("name =".toList ++ [' '] ++ "'a  b' AND x > 1".toList)) =
        .ok (.junction .and [.compare "name" .eq (.text "a  b"), .compare "x" .gt (.int 1)]) ↔
      parse {} (String.ofList ("name =".toList ++ ['　', '\t'] ++ "'a  b' AND x > 1".toList)) =
        .ok (.junction .and [.compare "name" .eq (.text "a  b"), .compare "x" .gt (.int 1)])) := by
  have hq : ∀ q ∈ ({} : ParseOptions).quotes, isWhiteSpace q = false := by simp [isWhiteSpace]
  have hpre : Segments ({} : ParseOptions).quotes "name =".toList ("name =".toList.map .plain) :=
    segments_map_plain (by simp)
  exact ⟨hq, hpre, parse_respace hq hpre (by simp) (by simp) (by simp [isWhiteSpace])
    (by simp [isWhiteSpace]) _ _⟩

end FilterQuery.Query

import FilterQuery.Proofs.QuoteOpacity

/-!
# What syntax errors quote

A syntax error may carry a *fragment*, the piece of text it is about. Each stage of reading a
filter quotes the text it reads. The guard quotes its input: a span that is never closed, up
to the end. The splitter quotes the guarded text: an unmatched parenthesis and what follows
it, a parenthesized group, the text before a stray `)`, the text after a group. The clause
reader quotes nothing itself, and `readClause` gives its errors the clause text, trimmed and
with its quoted spans put back.

So every fragment is a part of the input, except the splitter's, which is a part of the
guarded text and shows the placeholder of every span it covers: `('x' = 1` is refused for its
unclosed parenthesis with the fragment `(a0a = 1`.

A clause text puts back into a part of the input because the splitter never cuts a
placeholder: a clause text is the expansion of a run of the symbols of the guard's reading
(`splitLevel_expands`, `splitSyms_texts`), and restoring the expansion of a run gives the
run's own text (`restore_guardedText_run`).

## Key results

- `guard_fragments`: the guard quotes its input
- `walkLevel_fragments`, `split_fragments`: the splitter quotes the text it splits
- `lexTokens_error`, `readClauseTokens_fragments`: the clause reader quotes nothing
- `readClause_fragments`: the error of a clause quotes the clause, unguarded
- `unguard_expandSyms_of_infix`: a run of the guard's reading unguards to a part of the input
- `parse_error_fragment`: a fragment of `parse` is a part of the input, or the splitter's part
  of the guarded text
-/

namespace FilterQuery.Text

/-- Trimming keeps a part of the text. -/
theorem trim_isInfix (s : List Char) : trim s <:+: s := by
  have h₁ : s.dropWhile isWhiteSpace <:+ s := List.dropWhile_suffix _
  have h₂ := List.dropWhile_suffix isWhiteSpace (l := (s.dropWhile isWhiteSpace).reverse)
  have h₃ : trim s <+: s.dropWhile isWhiteSpace := by
    rw [← List.reverse_suffix, trim, List.reverse_reverse]
    exact h₂
  exact h₃.isInfix.trans h₁.isInfix

end FilterQuery.Text

namespace FilterQuery.Query

variable {dates : DateRecognizer}

/-! ## Fragments of a computation that fails -/

/-- Every syntax error of `r` that carries a fragment carries one that `P` accepts. With
    `P` false, no error of `r` carries a fragment. -/
def AllFragments {α : Type} (P : String → Prop) (r : Except QueryError α) : Prop :=
  ∀ issue f, r = .error (.malformed issue (some f)) → P f

namespace AllFragments

variable {α β : Type} {P Q : String → Prop}

@[simp] theorem ok (a : α) : AllFragments P (.ok a : Except QueryError α) := by
  intro _ _ h
  cases h

@[simp] theorem bare (issue : SyntaxIssue) :
    AllFragments P (.error (.bare issue) : Except QueryError α) := by
  intro _ _ h
  cases h

@[simp] theorem pure (a : α) : AllFragments P (Pure.pure a : Except QueryError α) := ok a

@[simp] theorem throw_bare (issue : SyntaxIssue) :
    AllFragments P (throw (.bare issue) : Except QueryError α) := bare issue

theorem at_ {issue : SyntaxIssue} {f : String} (h : P f) :
    AllFragments P (.error (.at_ issue f) : Except QueryError α) := by
  intro _ _ he
  cases he
  exact h

theorem mono (hPQ : ∀ f, P f → Q f) {r : Except QueryError α} (h : AllFragments P r) :
    AllFragments Q r :=
  fun issue f hr => hPQ f (h issue f hr)

/-- A computation and its continuation quote what both quote. -/
theorem bind {x : Except QueryError α} {k : α → Except QueryError β} (hx : AllFragments P x)
    (hk : ∀ a, x = .ok a → AllFragments P (k a)) : AllFragments P (x >>= k) := by
  cases x with
  | error e =>
    intro issue f h
    exact hx issue f (congrArg Except.error (Except.error.inj h))
  | ok a => exact hk a rfl

end AllFragments

/-! ## The guard quotes its input -/

/-- The span the scan is inside, as read so far. -/
def ScanState.openSpan : ScanState → List Char
  | .outside => []
  | .inside _ spanRev _ => spanRev.reverse

/-- The scan quotes the span it is inside when the text ends. The invariant: the open span,
    followed by the rest of the text, is a part of the text. -/
theorem scanSpans_fragments (quotes marker text : List Char) :
    ∀ (cs : List Char) (st : ScanState) (out : List Char) (origs : List (List Char)),
      st.openSpan ++ cs <:+: text →
      AllFragments (fun f => f.toList <:+: text) (scanSpans quotes marker cs st out origs)
  | [], .outside, out, origs, _ => by
    rw [scanSpans]
    exact AllFragments.ok _
  | [], .inside q spanRev escaped, out, origs, h => by
    rw [scanSpans]
    exact AllFragments.at_ (by simpa [ScanState.openSpan] using h)
  | c :: rest, st, out, origs, h => by
    have hrest : rest <:+: text :=
      ((List.suffix_cons c rest).trans (List.suffix_append _ _)).isInfix.trans h
    cases st with
    | outside =>
      rw [scanSpans]
      split_ifs
      · exact scanSpans_fragments quotes marker text rest _ out origs
          (by simpa [ScanState.openSpan] using h)
      · exact scanSpans_fragments quotes marker text rest _ _ origs hrest
    | inside q spanRev escaped =>
      -- the open span takes `c`, or `c` closes it and the scan goes on outside
      have hmore : ScanState.openSpan (.inside q (c :: spanRev) false) ++ rest <:+: text := by
        simpa [ScanState.openSpan] using h
      have hmore' : ScanState.openSpan (.inside q (c :: spanRev) true) ++ rest <:+: text := by
        simpa [ScanState.openSpan] using h
      rw [scanSpans]
      split_ifs
      · exact scanSpans_fragments quotes marker text rest _ out origs hmore
      · exact scanSpans_fragments quotes marker text rest _ out origs hmore'
      · exact scanSpans_fragments quotes marker text rest _ _ _ hrest
      · exact scanSpans_fragments quotes marker text rest _ out origs hmore

/-- The guard quotes its input. -/
theorem guard_fragments (text quotes : List Char) (maxLen : Nat) :
    AllFragments (fun f => f.toList <:+: text) (guard text quotes maxLen) := by
  unfold guard
  split
  · exact AllFragments.ok _
  · split
    · intro _ _ h
      cases h
    · exact AllFragments.bind
        (scanSpans_fragments quotes _ text text .outside [] [] (List.infix_refl text))
        fun _ _ => AllFragments.ok _

/-! ## The splitter quotes the text it splits -/

/-- `closeParen` cuts the text at the matching parenthesis. -/
theorem closeParen_eq {depth : Nat} {acc cs inner after : List Char}
    (h : closeParen depth acc cs = some (inner, after)) : acc.reverse ++ cs = inner ++ ')' :: after := by
  induction cs generalizing depth acc with
  | nil => simp [closeParen] at h
  | cons c rest ih =>
    simp only [closeParen] at h
    by_cases h₁ : c = '('
    · rw [if_pos h₁] at h
      simpa using ih h
    · rw [if_neg h₁] at h
      by_cases h₂ : c = ')'
      · rw [if_pos h₂] at h
        subst h₂
        cases depth with
        | zero => cases h; rfl
        | succ d => simpa using ih h
      · rw [if_neg h₂] at h
        simpa using ih h

/-- A keyword and the text after it make up the text it was found in. -/
theorem keywordAt_eq {prev : Option Char} {cs word after : List Char} {k : Keyword}
    (h : keywordAt prev cs = some (k, word, after)) : cs = word ++ after := by
  unfold keywordAt at h
  dsimp only at h
  split at h
  · cases h
  · split at h
    · cases h; exact (List.takeWhile_append_dropWhile ..).symm
    · split at h
      · cases h; exact (List.takeWhile_append_dropWhile ..).symm
      · split at h
        · cases h; exact (List.takeWhile_append_dropWhile ..).symm
        · cases h

namespace Level

/-- Ending a clause quotes the text gathered since the last piece. -/
theorem finishClause_fragments (l : Level) :
    AllFragments (fun f => f.toList <:+: l.currentRev.reverse) l.finishClause := by
  unfold finishClause
  dsimp only
  split_ifs
  · exact AllFragments.ok _
  · exact AllFragments.at_ (by simpa [currentText] using Text.trim_isInfix _)
  · exact AllFragments.ok _

/-- A clause that ends leaves no text gathered. -/
theorem currentRev_of_finishClause {l l' : Level} (h : l.finishClause = .ok l') : l'.currentRev = [] := by
  unfold finishClause at h
  dsimp only at h
  split_ifs at h <;> cases h <;> rfl

theorem finish_fragments (l : Level) :
    AllFragments (fun f => f.toList <:+: l.currentRev.reverse) l.finish := by
  unfold finish
  split
  · exact AllFragments.ok _
  · exact AllFragments.bind (finishClause_fragments l) fun _ _ => AllFragments.ok _

end Level

/-- The walks of the text `cs` at depth `depth` quote the level's text, from every state whose
    gathered clause text, followed by `cs`, is a part of it. -/
def WalkQuotes (maxDepth depth : Nat) (cs : List Char) : Prop :=
  ∀ (whole : List Char) (l : Level) (prev : Option Char), l.currentRev.reverse ++ cs <:+: whole →
    AllFragments (fun f => f.toList <:+: whole) (walkLevel maxDepth depth whole l prev cs)

section Walk

variable {maxDepth depth : Nat}

/-- A level whose walk quotes its text splits quoting its text. -/
theorem splitLevel_fragments_of_walk {text : List Char} (h : WalkQuotes maxDepth depth text) :
    AllFragments (fun f => f.toList <:+: text) (splitLevel maxDepth depth text) := by
  rw [splitLevel]
  split
  · exact AllFragments.ok _
  · exact h text {} none (by simp)

/-- An opening parenthesis with no partner is refused, quoting it and the rest of the level. -/
theorem walkLevel_unclosed {whole : List Char} {l : Level} {prev : Option Char} {rest : List Char}
    (hc : closeParen 0 [] rest = none) :
    walkLevel maxDepth depth whole l prev ('(' :: rest) =
      .error (.at_ .unclosedParen (String.ofList ('(' :: rest))) := by
  rw [walkLevel.eq_2]
  split
  · rfl
  · rename_i heq
    rw [hc] at heq
    cases heq

theorem walkQuotes_nil : WalkQuotes maxDepth depth [] := by
  intro whole l prev h
  rw [walkLevel.eq_1]
  exact (Level.finish_fragments l).mono fun f hf => hf.trans (by simpa using h)

/-- A stray `)` quotes the level's text up to it. -/
theorem walkQuotes_close (rest : List Char) : WalkQuotes maxDepth depth (')' :: rest) := by
  intro whole l prev _
  rw [walkLevel.eq_3]
  exact AllFragments.at_ (by simpa using (List.take_prefix _ whole).isInfix)

/-- A character that is no parenthesis is gathered, or is a keyword that ends the clause
    gathered so far, which quotes it; the walk goes on after it. -/
theorem walkQuotes_cons {c : Char} {rest : List Char} (hl : c ≠ '(') (hr : c ≠ ')')
    (ih : ∀ after, after.length < (c :: rest).length → WalkQuotes maxDepth depth after) :
    WalkQuotes maxDepth depth (c :: rest) := by
  intro whole l prev h
  have hgather : ∀ (word after : List Char), c :: rest = word ++ after →
      (word.reverse ++ l.currentRev).reverse ++ after <:+: whole := by
    intro word after heq
    simpa [heq] using h
  cases hk : keywordAt prev (c :: rest) with
  | none =>
    rw [walkLevel_cons_of_keywordAt_none hl hr hk]
    refine ih rest (by simp) whole _ _ ?_
    exact hgather [c] rest rfl
  | some r =>
    obtain ⟨k, word, after⟩ := r
    have heq := keywordAt_eq hk
    have hlen := length_keywordAt hk
    -- a connective that ends the clause: `finishClause` quotes the gathered text, or the walk
    -- goes on after the keyword with nothing gathered
    have hfail : ∀ e, l.finishClause = .error e →
        AllFragments (fun f => f.toList <:+: whole) (.error e : Except QueryError (List Piece)) := by
      intro e hf issue f he
      cases he
      exact (l.finishClause_fragments issue f hf).trans ((List.prefix_append _ _).isInfix.trans h)
    have hnext : ∀ l', l.finishClause = .ok l' → ∀ c', AllFragments (fun f => f.toList <:+: whole)
        (walkLevel maxDepth depth whole { l' with pending := some c' } word.getLast? after) := by
      intro l' hf c'
      have hafter : after <:+: whole :=
        (List.suffix_append word after).isInfix.trans (heq ▸ (List.suffix_append _ _).isInfix.trans h)
      exact ih after hlen whole _ _ (by simpa [Level.currentRev_of_finishClause hf] using hafter)
    rw [walkLevel_keyword hl hr hk]
    rcases k with (_ | _) | _
    · dsimp only
      split_ifs
      · refine ih after hlen whole _ _ ?_
        exact hgather word after heq
      · split
        · exact hfail _ ‹_›
        · exact hnext _ ‹_› _
    · dsimp only
      split
      · exact hfail _ ‹_›
      · exact hnext _ ‹_› _
    · refine ih after hlen whole _ _ ?_
      exact hgather word after heq

/-- An opening parenthesis with no partner quotes itself and the rest of the level. A matched
    pair quotes itself when it is refused as a group; it is split as a group, which quotes its
    own text, or is gathered into the clause text. -/
theorem walkQuotes_open {rest : List Char}
    (ih : ∀ cs, cs.length < ('(' :: rest).length → ∀ d, WalkQuotes maxDepth d cs) :
    WalkQuotes maxDepth depth ('(' :: rest) := by
  intro whole l prev h
  have hcs : '(' :: rest <:+: whole := (List.suffix_append _ _).isInfix.trans h
  cases hc : closeParen 0 [] rest with
  | none =>
    rw [walkLevel_unclosed hc]
    exact AllFragments.at_ (by simpa using hcs)
  | some r =>
    obtain ⟨inner, after⟩ := r
    have hrest := closeParen_eq hc
    simp only [List.reverse_nil, List.nil_append] at hrest
    subst hrest
    have hspan : '(' :: inner ++ [')'] <:+: whole := by
      refine List.IsInfix.trans ⟨[], after, ?_⟩ hcs
      simp
    have hinner : inner <:+: whole :=
      (List.infix_cons (List.prefix_append inner [')']).isInfix).trans hspan
    have hafter : after <:+: whole := by
      refine List.IsInfix.trans ⟨'(' :: inner ++ [')'], [], ?_⟩ hcs
      simp
    rw [walkLevel_open_some hc]
    split_ifs
    · exact AllFragments.at_ (by simpa using hspan)
    · exact AllFragments.at_ (by simpa using hspan)
    · have hsplit := splitLevel_fragments_of_walk
        (ih inner (by simp only [List.length_cons, List.length_append]; omega) (depth + 1))
      cases hs : splitLevel maxDepth (depth + 1) inner with
      | error e =>
        intro issue f he
        cases he
        exact (hsplit issue f hs).trans hinner
      | ok pieces =>
        cases pieces with
        | nil => exact AllFragments.at_ (by simpa using hspan)
        | cons p ps =>
          exact ih after (by simp only [List.length_cons, List.length_append]; omega) depth whole _ _
            (by simpa using hafter)
    · exact ih after (by simp only [List.length_cons, List.length_append]; omega) depth whole _ _
        (by simpa using h)

end Walk

/-- The splitter's walk of a level quotes the level's text: every fragment is the clause text
    gathered after a group, an unmatched parenthesis and the rest of the level, a refused
    group, the text before a stray `)`, or a fragment of a group's own level. -/
theorem walkLevel_fragments (maxDepth : Nat) : ∀ (depth : Nat) (cs : List Char),
    WalkQuotes maxDepth depth cs
  | depth, [] => walkQuotes_nil
  | depth, c :: rest => by
    by_cases hl : c = '('
    · subst hl
      exact walkQuotes_open fun cs hcs d => walkLevel_fragments maxDepth d cs
    · by_cases hr : c = ')'
      · subst hr
        exact walkQuotes_close rest
      · exact walkQuotes_cons hl hr fun after hafter => walkLevel_fragments maxDepth depth after
termination_by _ cs => cs.length
decreasing_by all_goals simp only [List.length_cons] at *; omega

/-- The splitter quotes the text it splits. -/
theorem split_fragments (text : List Char) (maxDepth : Nat) :
    AllFragments (fun f => f.toList <:+: text) (split text maxDepth) :=
  splitLevel_fragments_of_walk (walkLevel_fragments maxDepth 0 text)

/-! ## The clause reader quotes nothing -/

/-- The lexer refuses only a `!` that no `=` follows. -/
theorem lexTokens_error : ∀ (cs : List Char) (acc : List Token) {e : QueryError},
    lexTokens cs acc = .error e → e = .bare .bangWithoutEquals
  | [], acc, e, h => by
    rw [lexTokens_nil] at h
    cases h
  | c :: rest, acc, e, h => by
    have := (List.dropWhile_sublist (fun d => !isWordDelimiter d) (l := rest)).length_le
    cases hws : Text.isWhiteSpace c
    · by_cases hl : c = '('
      · subst hl
        rw [lexTokens_lparen] at h
        exact lexTokens_error rest _ h
      by_cases hr : c = ')'
      · subst hr
        rw [lexTokens_rparen] at h
        exact lexTokens_error rest _ h
      by_cases hcomma : c = ','
      · subst hcomma
        rw [lexTokens_comma] at h
        exact lexTokens_error rest _ h
      by_cases heq : c = '='
      · subst heq
        rw [lexTokens_equals] at h
        split_ifs at h
        · exact lexTokens_error rest.tail _ h
        · exact lexTokens_error rest _ h
      by_cases hbang : c = '!'
      · subst hbang
        rw [lexTokens_bang] at h
        split_ifs at h
        · exact lexTokens_error rest.tail _ h
        · cases h
          rfl
      by_cases hlt : c = '<'
      · subst hlt
        rw [lexTokens_less] at h
        split_ifs at h
        · exact lexTokens_error rest.tail _ h
        · exact lexTokens_error rest.tail _ h
        · exact lexTokens_error rest _ h
      by_cases hgt : c = '>'
      · subst hgt
        rw [lexTokens_greater] at h
        split_ifs at h
        · exact lexTokens_error rest.tail _ h
        · exact lexTokens_error rest _ h
      -- a word
      have hw : isWordDelimiter c = false := by
        simp [isWordDelimiter, hws, hl, hr, hcomma, heq, hbang, hlt, hgt]
      rw [lexTokens_word hw] at h
      exact lexTokens_error _ _ h
    · rw [lexTokens_whiteSpace hws] at h
      exact lexTokens_error rest acc h
termination_by cs => cs.length
decreasing_by all_goals simp only [List.length_cons, List.length_tail] at *; omega

theorem tokenize_fragments (cs : List Char) : AllFragments (fun _ => False) (tokenize cs) := by
  intro issue f h
  cases lexTokens_error cs [] h

theorem takeWords_fragments (stop : Token → Bool) :
    ∀ (ts : List Token) (acc : List (List Char)),
      AllFragments (fun _ => False) (takeWords stop ts acc)
  | [], acc => by
    rw [takeWords]
    exact AllFragments.ok _
  | t :: rest, acc => by
    rw [takeWords.eq_def]
    dsimp only
    split_ifs
    · exact AllFragments.ok _
    · cases t with
      | word w => exact takeWords_fragments stop rest _
      | _ => exact AllFragments.bare _

section Readers

variable (g : Guarded)

theorem read_fragments (cs : List Char) : AllFragments (fun _ => False)
    (Literal.read dates g cs) := by
  unfold Literal.read
  -- every branch gives a literal or an error without a fragment
  repeat' split
  all_goals first | exact AllFragments.ok _ | exact AllFragments.bare _

theorem readValue_fragments (stop : Token → Bool) (ts : List Token) :
    AllFragments (fun _ => False) (readValue dates g stop ts) :=
  AllFragments.bind (takeWords_fragments stop ts []) fun _ _ =>
    AllFragments.bind (read_fragments g _) fun _ _ => AllFragments.ok _

theorem readField_fragments (ts : List Token) : AllFragments (fun _ => False) (readField g ts) := by
  unfold readField
  dsimp only
  repeat' split
  all_goals first | exact AllFragments.ok _ | exact AllFragments.bare _

theorem readBetween_fragments (field : String) (negated : Bool) (ts : List Token) :
    AllFragments (fun _ => False) (readBetween dates g field negated ts) := by
  unfold readBetween
  dsimp only
  repeat' split
  all_goals first | exact AllFragments.ok _ | exact AllFragments.bare _

theorem readListValues_fragments : ∀ (fuel : Nat) (ts : List Token) (acc : List Literal),
    AllFragments (fun _ => False) (readListValues dates g fuel ts acc)
  | 0, ts, acc => by
    rw [readListValues]
    exact AllFragments.bare _
  | fuel + 1, ts, acc => by
    rw [readListValues]
    -- a missing value is reported as an empty entry; the list goes on after a comma
    split
    · exact AllFragments.bind (AllFragments.bare _) fun _ h => by cases h
    · refine AllFragments.bind (readValue_fragments g _ ts) fun p _ => ?_
      obtain ⟨v, rest⟩ := p
      dsimp only
      split
      · exact readListValues_fragments fuel _ _
      · exact AllFragments.ok _
      · exact AllFragments.bare _

theorem readIn_fragments (field : String) (negated : Bool) (ts : List Token) :
    AllFragments (fun _ => False) (readIn dates g field negated ts) := by
  unfold readIn
  split
  · exact AllFragments.ok _
  · exact AllFragments.bind (readListValues_fragments g _ _ _) fun _ _ => AllFragments.ok _
  · exact AllFragments.bare _

theorem readLike_fragments (like : LikeSyntax) (field : String) (negated : Bool)
    (ts : List Token) : AllFragments (fun _ => False) (readLike dates g like field negated ts) := by
  unfold readLike
  refine AllFragments.bind (readValue_fragments g _ ts) fun p _ => ?_
  obtain ⟨v, rest⟩ := p
  dsimp only
  split
  · exact AllFragments.ok _
  · exact AllFragments.bare _

theorem readKeywordOperator_fragments (like : LikeSyntax) (field : String) (keyword : Token)
    (negated : Bool) (ts : List Token) :
    AllFragments (fun _ => False) (readKeywordOperator dates g like field keyword negated ts) := by
  unfold readKeywordOperator
  split_ifs
  · exact readBetween_fragments g field negated ts
  · exact readIn_fragments g field negated ts
  · exact readLike_fragments g like field negated ts
  · exact AllFragments.bare _
  · exact AllFragments.bare _

theorem readIsNull_fragments (field : String) (ts : List Token) :
    AllFragments (fun _ => False) (readIsNull field ts) := by
  unfold readIsNull
  dsimp only
  repeat' split
  all_goals first | exact AllFragments.ok _ | exact AllFragments.bare _

theorem readComparison_fragments (field : String) (op : CompareOp) (ts : List Token) :
    AllFragments (fun _ => False) (readComparison dates g field op ts) := by
  unfold readComparison
  refine AllFragments.bind (readValue_fragments g _ ts) fun p _ => ?_
  obtain ⟨v, rest⟩ := p
  dsimp only
  split <;> exact AllFragments.ok _

/-- The clause reader reports no fragment of its own. -/
theorem readClauseTokens_fragments (like : LikeSyntax) (ts : List Token) :
    AllFragments (fun _ => False) (readClauseTokens dates g like ts) := by
  have hgeneral : AllFragments (fun _ => False) (readClauseTokens.readGeneral dates g like ts) := by
    unfold readClauseTokens.readGeneral
    refine AllFragments.bind (readField_fragments g ts) fun p _ => ?_
    obtain ⟨field, rest⟩ := p
    dsimp only
    -- each branch reads what follows the field, and then nothing may be left
    repeat' split
    all_goals refine AllFragments.bind ?_ fun p _ => by split <;> simp
    · exact AllFragments.bare _
    · exact readComparison_fragments g _ _ _
    · exact readIsNull_fragments _ _
    · exact readKeywordOperator_fragments g like _ _ true _
    · exact AllFragments.bare _
    · exact readKeywordOperator_fragments g like _ _ false _
  unfold readClauseTokens
  split
  · exact AllFragments.ok _
  · split_ifs
    · exact AllFragments.ok _
    · exact AllFragments.ok _
    · exact hgeneral
  · exact hgeneral

/-- The error of a clause quotes the clause text, trimmed and with its quoted spans put back. -/
theorem readClause_fragments (like : LikeSyntax) (text : List Char) :
    AllFragments (fun f => f = String.ofList (g.unguard (Text.trim text)))
        (readClause dates g like text) := by
  have hbare : AllFragments (fun _ => False) (tokenize text >>= readClauseTokens dates g like) :=
    AllFragments.bind (tokenize_fragments text) fun ts _ => readClauseTokens_fragments g like ts
  intro issue f h
  unfold readClause at h
  split at h
  · cases h
  · rename_i e he
    cases e with
    | malformed i fragment =>
      cases fragment with
      | none =>
        simp only [QueryError.orFragment, Except.error.injEq, QueryError.malformed.injEq,
          Option.some.injEq] at h
        exact h.2.symm
      | some x => exact (hbare i x he).elim
    | placeholderExhausted n => simp [QueryError.orFragment] at h

end Readers

/-! ## The fold of the pieces quotes their clauses -/

section Build

variable {g : Guarded} {like : LikeSyntax} {m : List Char} {Q : String → Prop}

mutual

/-- The fold of pieces written with a marker quotes what the errors of their clauses quote. -/
theorem buildPieces_fragments : ∀ (P : List SymPiece) (acc : Option Predicate),
    (∀ t ∈ SymPiece.textsAll P, AllFragments Q (readClause dates g like (expandSyms m t))) →
    AllFragments Q (buildPieces dates g like (SymPiece.expandAll m P) acc)
  | [], acc, _ => by
    rw [SymPiece.expandAll, buildPieces]
    exact AllFragments.ok _
  | p :: rest, acc, h => by
    rw [SymPiece.textsAll] at h
    have hp : ∀ t ∈ p.texts, AllFragments Q (readClause dates g like (expandSyms m t)) :=
      fun t ht => h t (List.mem_append_left _ ht)
    have hrest : ∀ t ∈ SymPiece.textsAll rest, AllFragments Q
        (readClause dates g like (expandSyms m t)) :=
      fun t ht => h t (List.mem_append_right _ ht)
    rw [SymPiece.expandAll]
    by_cases hempty : ∃ c, p.expand m = .clause c []
    · -- an empty clause is dropped
      obtain ⟨c, hc⟩ := hempty
      rw [hc, buildPieces]
      exact buildPieces_fragments rest acc hrest
    · rw [buildPieces_cons fun c hc => hempty ⟨c, hc⟩]
      exact AllFragments.bind (buildPiece_fragments p hp) fun _ _ =>
        buildPieces_fragments rest _ hrest

/-- A piece written with a marker: a clause, or a group folded from nothing. -/
theorem buildPiece_fragments : ∀ (p : SymPiece),
    (∀ t ∈ p.texts, AllFragments Q (readClause dates g like (expandSyms m t))) →
    AllFragments Q (buildPiece dates g like (p.expand m))
  | .clause c t, h => by
    rw [SymPiece.expand, buildPiece]
    exact h t (by simp [SymPiece.texts])
  | .group c negated ps, h => by
    rw [SymPiece.texts] at h
    rw [SymPiece.expand, buildPiece]
    exact AllFragments.bind (buildPieces_fragments ps none h) fun _ _ => AllFragments.ok _

end

end Build

/-! ## Runs of the guard's reading -/

/-- A prefix of a reading's symbols is the symbols of a prefix of its chunks. -/
theorem prefix_symsOf : ∀ {n : Nat} {chunks : List Chunk} {b : List Sym},
    b <+: symsOf n chunks → ∃ mid rest, chunks = mid ++ rest ∧ b = symsOf n mid
  | _, chunks, [], _ => ⟨[], chunks, rfl, rfl⟩
  | _, [], _ :: _, h => by simp [symsOf] at h
  | n, .plain c :: rest, s :: b, h => by
    simp only [symsOf, List.cons_prefix_cons] at h
    obtain ⟨rfl, h⟩ := h
    obtain ⟨mid, rest', rfl, rfl⟩ := prefix_symsOf h
    exact ⟨.plain c :: mid, rest', rfl, rfl⟩
  | n, .quoted q :: rest, s :: b, h => by
    simp only [symsOf, List.cons_prefix_cons] at h
    obtain ⟨rfl, h⟩ := h
    obtain ⟨mid, rest', rfl, rfl⟩ := prefix_symsOf h
    exact ⟨.quoted q :: mid, rest', rfl, rfl⟩

/-- A run of a reading's symbols is the symbols of a run of its chunks, numbered on from the
    spans before it. -/
theorem infix_symsOf : ∀ {n : Nat} {chunks : List Chunk} {b : List Sym},
    b <:+: symsOf n chunks →
      ∃ pre mid post, chunks = pre ++ mid ++ post ∧ b = symsOf (n + (spansOf pre).length) mid
  | n, [], b, h => by
    simp only [symsOf, List.infix_nil] at h
    subst h
    exact ⟨[], [], [], rfl, rfl⟩
  | n, .plain c :: rest, b, h => by
    rcases List.infix_cons_iff.1 (show b <:+: .char c :: symsOf n rest from h) with h' | h'
    · obtain ⟨mid, post, hc, rfl⟩ := prefix_symsOf (show b <+: symsOf n (.plain c :: rest) from h')
      exact ⟨[], mid, post, by simp [hc], by simp⟩
    · obtain ⟨pre, mid, post, rfl, rfl⟩ := infix_symsOf h'
      exact ⟨.plain c :: pre, mid, post, rfl, by simp⟩
  | n, .quoted q :: rest, b, h => by
    rcases List.infix_cons_iff.1 (show b <:+: .slot n :: symsOf (n + 1) rest from h) with h' | h'
    · obtain ⟨mid, post, hc, rfl⟩ := prefix_symsOf (show b <+: symsOf n (.quoted q :: rest) from h')
      exact ⟨[], mid, post, by simp [hc], by simp⟩
    · obtain ⟨pre, mid, post, rfl, rfl⟩ := infix_symsOf h'
      exact ⟨.quoted q :: pre, mid, post, rfl, by simp [Nat.add_assoc, Nat.add_comm 1]⟩

/-- The one-letter marker `a`. -/
theorem markerOk_a : MarkerOk ['a'] :=
  ⟨List.cons_ne_nil _ _, fun c hc => by
    rw [List.mem_singleton.1 hc]
    exact List.mem_of_elem_eq_true (show markerAlphabet.elem 'a' = true from rfl)⟩

/-- What the guard makes of a text: a reading of it, whose symbols written with a marker `m`
    are the guarded text. `m` is the guard's marker when the text has spans; a text without
    spans has no placeholder to write, and any marker will do (`a` here). -/
theorem guard_symbols {text quotes : List Char} {maxLen : Nat} {g : Guarded}
    (hg : guard text quotes maxLen = .ok g) :
    ∃ chunks m, Segments quotes text chunks ∧ g.originals = spansOf chunks ∧ MarkerOk m ∧
      (g.originals ≠ [] → m = g.marker) ∧ g.text = expandSyms m (symsOf 0 chunks) := by
  obtain ⟨chunks, hseg, htext, horig⟩ := guard_segments hg
  by_cases hnil : g.originals = []
  · have hspans : spansOf chunks = [] := horig ▸ hnil
    refine ⟨chunks, ['a'], hseg, horig, markerOk_a, fun h => absurd hnil h, ?_⟩
    rw [htext, guardedText_of_spansOf_eq_nil hspans, ← guardedText_eq_expandSyms]
    exact (guardedText_of_spansOf_eq_nil hspans).symm
  · rcases guard_marker hg with ⟨-, h⟩ | hfree
    · exact absurd h hnil
    · obtain ⟨hne, hletters, -⟩ := freeMarker?_spec hfree
      exact ⟨chunks, g.marker, hseg, horig, ⟨hne, hletters⟩, fun _ => rfl,
        by rw [htext, guardedText_eq_expandSyms]⟩

/-- A run of the guard's reading, written with the marker, unguards to a part of the input:
    restoring the run's placeholders gives the run's own text. -/
theorem unguard_expandSyms_of_infix {text quotes : List Char} {maxLen : Nat} {g : Guarded}
    (hlen : text.length < Nat.pow 2 64) (hg : guard text quotes maxLen = .ok g)
    {chunks : List Chunk} (hseg : Segments quotes text chunks) (horig : g.originals = spansOf chunks)
    {m : List Char} (hm : g.originals ≠ [] → m = g.marker) {b : List Sym}
    (hb : b <:+: symsOf 0 chunks) : g.unguard (expandSyms m b) <:+: text := by
  have hcount : g.originals.length ≤ Nat.pow 2 64 := by
    have := length_spansOf_le hseg.1
    rw [← hseg.2] at this
    rw [horig]
    omega
  obtain ⟨pre, mid, post, rfl, rfl⟩ := infix_symsOf hb
  have hmid : mid.flatMap Chunk.text <:+: text := by
    rw [hseg.2]
    exact ⟨pre.flatMap Chunk.text, post.flatMap Chunk.text, by simp⟩
  have hspans : g.originals = spansOf pre ++ spansOf mid ++ spansOf post := by
    rw [horig]
    simp [spansOf, List.filterMap_append]
  rw [← guardedText_eq_expandSyms, Nat.zero_add]
  by_cases hnil : g.originals = []
  · -- nothing was replaced, and the run has no placeholder
    have hmidnil : spansOf mid = [] := by
      rw [hnil] at hspans
      have hall : spansOf pre = [] ∧ spansOf mid = [] ∧ spansOf post = [] := by simpa using hspans
      exact hall.2.1
    rw [Guarded.unguard, if_pos (by simp [hnil]), guardedText_of_spansOf_eq_nil hmidnil]
    exact hmid
  · obtain rfl := hm hnil
    rcases guard_marker hg with ⟨-, h⟩ | hfree
    · exact absurd h hnil
    · obtain ⟨hne, hletters, hnot⟩ := freeMarker?_spec hfree
      rw [Guarded.unguard, if_neg (by simpa using hnil),
        Guarded.restore_guardedText_run hne hletters hcount mid (spansOf pre) (spansOf post) hspans
          fun h => hnot (h.trans hmid)]
      exact hmid

/-- The fold of the pieces of a guarded text quotes the text the guard read: each clause text
    is the expansion of a run of the guard's reading (`splitSyms_texts`), and its error quotes
    the run unguarded. -/
theorem build_fragments {text quotes : List Char} {maxLen maxDepth : Nat} {g : Guarded}
    {pieces : List Piece} (like : LikeSyntax) (hlen : text.length < Nat.pow 2 64)
    (hg : guard text quotes maxLen = .ok g) (hs : split g.text maxDepth = .ok pieces) :
    AllFragments (fun f => f.toList <:+: text) (build dates g like pieces) := by
  obtain ⟨chunks, m, hseg, horig, hm, hmg, htext⟩ := guard_symbols hg
  have hexp := (splitLevel_expands hm maxDepth).1 0 (symsOf 0 chunks)
  unfold split at hs
  rw [← htext, hs] at hexp
  cases hP : splitSyms maxDepth 0 (symsOf 0 chunks) with
  | none =>
    rw [hP] at hexp
    exact absurd hexp (by simp [Expands])
  | some P =>
    rw [hP, expands_ok_some] at hexp
    subst hexp
    obtain ⟨-, htexts⟩ := (splitSyms_texts maxDepth).1 0 _ P hP
    refine buildPieces_fragments P none fun t ht => (readClause_fragments g like _).mono ?_
    intro f hf
    rw [hf, String.toList_ofList, trim_expandSyms hm]
    exact unguard_expandSyms_of_infix hlen hg hseg horig hmg
      ((trimSyms_isInfix t).trans (htexts t ht))

/-! ## What `parse` quotes -/

/-- What a syntax error of `parse` quotes. A fragment is a part of the input, unless the
    splitter raised the error: then it is a part of the guarded text, where each quoted span
    it covers stands as its placeholder. -/
theorem parse_error_fragment {opts : ParseOptions} {s : String} (hlen : s.length < Nat.pow 2 64)
    {issue : SyntaxIssue} {f : String} (h : parse opts s = .error (.malformed issue (some f))) :
    f.toList <:+: s.toList ∨
      ∃ g, guard s.toList opts.quotes opts.placeholderMaxLen = .ok g ∧
        split g.text opts.maxDepth = .error (.malformed issue (some f)) ∧ f.toList <:+: g.text := by
  unfold parse at h
  cases hg : guard s.toList opts.quotes opts.placeholderMaxLen with
  | error e =>
    -- the guard refused the text
    rw [hg] at h
    have he : e = .malformed issue (some f) := Except.error.inj h
    exact .inl (guard_fragments _ _ _ issue f (by rw [hg, he]))
  | ok g =>
    rw [hg, except_ok_bind] at h
    cases hs : split g.text opts.maxDepth with
    | error e =>
      -- the splitter refused the guarded text
      rw [hs] at h
      have he : e = .malformed issue (some f) := Except.error.inj h
      subst he
      exact .inr ⟨g, rfl, hs, split_fragments g.text opts.maxDepth issue f hs⟩
    | ok pieces =>
      -- a clause was refused
      rw [hs, except_ok_bind] at h
      exact .inl (build_fragments opts.like (by rw [String.length_toList]; exact hlen) hg hs issue f h)

/-- A text whose guarded text opens a parenthesis it never closes is refused, quoting the
    guarded text from the parenthesis on. -/
theorem parse_of_unclosed {opts : ParseOptions} {s : String} {g : Guarded} {rest : List Char}
    (hg : guard s.toList opts.quotes opts.placeholderMaxLen = .ok g) (htext : g.text = '(' :: rest)
    (hc : closeParen 0 [] rest = none) :
    parse opts s = .error (.at_ .unclosedParen (String.ofList ('(' :: rest))) := by
  have hblank : Text.isBlank ('(' :: rest) = false := by
    simp [Text.isBlank, show Text.isWhiteSpace '(' = false by decide]
  unfold parse
  rw [hg, except_ok_bind, split, htext, splitLevel, if_neg (by simp [hblank]), walkLevel_unclosed hc]
  rfl

/-- The fragment of an unclosed parenthesis before a comparison of a quoted field: it is the
    guarded text from the parenthesis on, with the placeholder of the span. -/
theorem parse_error_fragment_open_comparison :
    "(x = 'y'".length < Nat.pow 2 64 ∧
      parse {} "(x = 'y'" = .error (.malformed .unclosedParen (some "(x = a0a")) ∧
      ("(x = a0a".toList <:+: "(x = 'y'".toList ∨
        ∃ g, guard "(x = 'y'".toList ({} : ParseOptions).quotes
            ({} : ParseOptions).placeholderMaxLen = .ok g ∧
          split g.text ({} : ParseOptions).maxDepth =
            .error (.malformed .unclosedParen (some "(x = a0a")) ∧
          "(x = a0a".toList <:+: g.text) := by
  have hlen : "(x = 'y'".length < Nat.pow 2 64 := by decide +kernel
  have h : parse {} "(x = 'y'" = .error (.malformed .unclosedParen (some "(x = a0a")) :=
    parse_of_unclosed (g := ⟨"(x = a0a".toList, ['a'], ["'y'".toList]⟩) rfl rfl rfl
  exact ⟨hlen, h, parse_error_fragment hlen h⟩

/-- A fragment that is no part of the input: `('x' = 1` is refused for its unclosed
    parenthesis with the fragment `(a0a = 1`, the guarded text from the parenthesis on. -/
theorem parse_unclosed_fragment_guarded :
    parse {} "('x' = 1" = .error (.malformed .unclosedParen (some "(a0a = 1")) ∧
      ¬ "(a0a = 1".toList <:+: "('x' = 1".toList :=
  ⟨parse_of_unclosed (g := ⟨"(a0a = 1".toList, ['a'], ["'x'".toList]⟩) rfl rfl rfl,
    by decide +kernel⟩

end FilterQuery.Query

import FilterQuery.Proofs.SwappedClause

/-!
# The grammar of a clause

The clause reader accepts exactly the token lists of the clause grammar, and reads each to the
leaf its derivation names:

    clause  → (no token) | "1" | "TRUE" | "0" | "FALSE"
            | field "IS" ["NOT"] ("NULL" | "NONE")
            | field ["NOT"] "BETWEEN" value "AND" value
            | field ["NOT"] "IN" "(" [value ("," value)*] ")"
            | field ["NOT"] "LIKE" value
            | field op value

Keywords are words read in any ASCII case (`Token.isKeyword`); an operator is one `op` token.
A field is the placeholder of a span not opened by a single quote, whose content is not empty,
or a word that starts with a letter or `_` and does not hold the marker (`FieldWord`). A value
is a non-empty run of words that `Literal.read` accepts once joined by spaces (`ValueWords`);
the low end of a `BETWEEN` is a run without the word `AND`, and a `LIKE` value is a text.
`= NULL` and `!= NULL` read as null tests (`comparisonLeaf`).

`Clause` is the grammar as an inductive relation, one constructor per form;
`readClauseTokens_eq_ok_iff` says the reader succeeds exactly on its derivations, and
`readClause_eq_ok_iff` the same of a clause text and its tokens.

## Key results
- `takeWords_eq_ok_iff`, `readValue_eq_ok_iff`: a value is a run of words up to its stop token
- `readField_eq_ok_iff`: the field that starts a clause
- `readListValues_sound`, `readListValues_complete`: the values of an `IN` list
- `readGeneral_eq_ok_iff`: a clause that starts with a field
- `readClauseTokens_eq_ok_iff`, `readClause_eq_ok_iff`: the reader accepts exactly the grammar
-/

namespace FilterQuery.Text

/-- A word is at most one keyword. -/
theorem isWord_eq_false_of_isWord {w : List Char} {k₁ k₂ : String} (h : isWord w k₁ = true)
    (hne : k₁.toList.map asciiLower ≠ k₂.toList.map asciiLower) : isWord w k₂ = false := by
  simp only [isWord, eqIgnoreCase, beq_iff_eq] at h ⊢
  rw [h]
  simpa using hne

/-- A keyword other than `IS` and `NOT` is neither of them. -/
theorem isWord_is_not_of_isWord {w : List Char} {k : String} (h : isWord w k = true)
    (his : k.toList.map asciiLower ≠ "is".toList.map asciiLower)
    (hnot : k.toList.map asciiLower ≠ "not".toList.map asciiLower) :
    isWord w "is" = false ∧ isWord w "not" = false :=
  ⟨isWord_eq_false_of_isWord h his, isWord_eq_false_of_isWord h hnot⟩

end FilterQuery.Text

namespace FilterQuery.Query

variable {dates : DateRecognizer}

theorem bind_eq_ok_iff {ε α β : Type} {x : Except ε α} {f : α → Except ε β} {b : β} :
    (x >>= f) = .ok b ↔ ∃ a, x = .ok a ∧ f a = .ok b := by
  cases x with
  | error e =>
    constructor
    · intro h
      cases h
    · rintro ⟨a, ha, -⟩
      cases ha
  | ok a =>
    constructor
    · intro h
      exact ⟨a, rfl, h⟩
    · rintro ⟨a', ha', h⟩
      cases ha'
      exact h

/-! ## The grammar -/

section Grammar

variable (dates) (g : Guarded) (like : LikeSyntax)

/-- A run of words that reads as a value: not empty, and accepted by `Literal.read` once joined
    by spaces. -/
def ValueWords (ws : List (List Char)) (v : Literal) : Prop :=
  ws ≠ [] ∧ Literal.read dates g (joinWords ws) = .ok v

/-- The word that starts a clause and the field it names: the placeholder of a span not opened
    by a single quote, with content, or a word that starts with a letter or `_` and does not
    hold the marker. -/
inductive FieldWord : List Char → String → Prop
  | quoted {w quoted : List Char} (hl : g.lookup? w = some quoted) (hq : quoted.head? ≠ some '\'')
      (hne : unquote quoted ≠ []) : FieldWord w (String.ofList (unquote quoted))
  | bare {c : Char} {rest : List Char} (hc : (Text.isAlphabetic c || c = '_') = true)
      (ht : g.touches (c :: rest) = false) : FieldWord (c :: rest) (String.ofList (c :: rest))

/-- The tokens inside the parentheses of a non-empty `IN` list, with its values: values
    separated by commas. -/
inductive ListBody : List Token → List Literal → Prop
  | last {ws : List (List Char)} {v : Literal} (hv : ValueWords dates g ws v) :
      ListBody (ws.map .word) [v]
  | cons {ws : List (List Char)} {v : Literal} {ts : List Token} {vs : List Literal}
      (hv : ValueWords dates g ws v) (rest : ListBody ts vs) :
      ListBody (ws.map .word ++ .comma :: ts) (v :: vs)

/-- A keyword operator and what follows it, from the keyword on, with the leaf it reads to
    (negated after `NOT`). -/
inductive KeywordForm (field : String) (negated : Bool) : List Token → Predicate → Prop
  | between {kw andWord : List Char} {low high : List (List Char)} {lo hi : Literal}
      (hk : Text.isWord kw "between" = true) (hlo : ValueWords dates g low lo)
      (hno : ∀ w ∈ low, Text.isWord w "and" = false) (hand : Text.isWord andWord "and" = true)
      (hhi : ValueWords dates g high hi) :
      KeywordForm field negated (.word kw :: low.map .word ++ .word andWord :: high.map .word)
        (.between field lo hi negated)
  | inEmpty {kw : List Char} (hk : Text.isWord kw "in" = true) :
      KeywordForm field negated [.word kw, .lparen, .rparen] (.member field [] negated)
  | inList {kw : List Char} {body : List Token} {vs : List Literal}
      (hk : Text.isWord kw "in" = true) (hb : ListBody dates g body vs) :
      KeywordForm field negated (.word kw :: .lparen :: body ++ [.rparen])
        (.member field vs negated)
  | like {kw : List Char} {ws : List (List Char)} {s : String}
      (hk : Text.isWord kw "like" = true) (hv : ValueWords dates g ws (.text s)) :
      KeywordForm field negated (.word kw :: ws.map .word)
        (.like field (likePattern like s) negated)

/-- Whether a word is `NULL` or `NONE`, in any ASCII case. -/
def isNullWord (w : List Char) : Bool := Text.isWord w "null" || Text.isWord w "none"

/-- What follows the field of a clause, with the leaf it reads to. -/
inductive Tail (field : String) : List Token → Predicate → Prop
  | compare {o : CompareOp} {ws : List (List Char)} {v : Literal} (hv : ValueWords dates g ws v) :
      Tail field (.op o :: ws.map .word) (comparisonLeaf o field v)
  | isNull {is n : List Char} (hi : Text.isWord is "is" = true) (hn : isNullWord n = true) :
      Tail field [.word is, .word n] (.isNull field false)
  | isNotNull {is nt n : List Char} (hi : Text.isWord is "is" = true)
      (hnot : Text.isWord nt "not" = true) (hn : isNullWord n = true) :
      Tail field [.word is, .word nt, .word n] (.isNull field true)
  | keyword {ts : List Token} {p : Predicate} (h : KeywordForm dates g like field false ts p) :
      Tail field ts p
  | notKeyword {nt : List Char} {ts : List Token} {p : Predicate}
      (hnot : Text.isWord nt "not" = true) (h : KeywordForm dates g like field true ts p) :
      Tail field (.word nt :: ts) p

/-- The clause grammar: the tokens of a clause and the tree they read to. -/
inductive Clause : List Token → Predicate → Prop
  | empty : Clause [] (.const true)
  | constTrue {w : List Char} (h : w = ['1'] ∨ Text.isWord w "true" = true) :
      Clause [.word w] (.const true)
  | constFalse {w : List Char} (h : w = ['0'] ∨ Text.isWord w "false" = true) :
      Clause [.word w] (.const false)
  | leaf {w : List Char} {field : String} {ts : List Token} {p : Predicate}
      (hf : FieldWord g w field) (ht : Tail dates g like field ts p) : Clause (.word w :: ts) p

end Grammar

/-! ## Keywords -/

/-- A token that is a keyword is a word. -/
theorem Token.eq_word_of_isKeyword {t : Token} {k : String} (h : t.isKeyword k = true) :
    ∃ w, t = .word w ∧ Text.isWord w k = true := by
  cases t with
  | word w => exact ⟨w, rfl, h⟩
  | _ => cases h

/-! ## Words and values -/

theorem takeWords_eq_ok_iff {stop : Token → Bool} (ts : List Token) {acc ws : List (List Char)}
    {rest : List Token} :
    takeWords stop ts acc = .ok (ws, rest) ↔
      ∃ run, ts = run.map .word ++ rest ∧ ws = acc.reverse ++ run ∧
        (∀ w ∈ run, stop (.word w) = false) ∧ ∀ t ∈ rest.head?, stop t = true := by
  induction ts generalizing acc with
  | nil =>
    simp only [takeWords, Except.ok.injEq, Prod.mk.injEq]
    constructor
    · rintro ⟨rfl, rfl⟩
      exact ⟨[], by simp⟩
    · rintro ⟨run, hts, rfl, -, -⟩
      simp only [List.nil_eq, List.append_eq_nil_iff, List.map_eq_nil_iff] at hts
      obtain ⟨rfl, rfl⟩ := hts
      simp
  | cons t ts ih =>
    rw [takeWords.eq_def]
    dsimp only
    by_cases hstop : stop t = true
    · -- the run ends at this token
      rw [if_pos hstop]
      simp only [Except.ok.injEq, Prod.mk.injEq]
      constructor
      · rintro ⟨rfl, rfl⟩
        exact ⟨[], by simp [hstop]⟩
      · rintro ⟨run, hts, rfl, hrun, -⟩
        cases run with
        | nil => simp_all
        | cons w run =>
          simp only [List.map_cons, List.cons_append, List.cons.injEq] at hts
          obtain ⟨rfl, -⟩ := hts
          simp [hrun w (by simp)] at hstop
    · rw [if_neg hstop]
      cases t with
      | word w =>
        -- the word joins the run
        dsimp only
        rw [ih]
        constructor
        · rintro ⟨run, rfl, rfl, hrun, hrest⟩
          refine ⟨w :: run, rfl, by simp, ?_, hrest⟩
          simpa [hstop] using hrun
        · rintro ⟨run, hts, rfl, hrun, hrest⟩
          cases run with
          | nil =>
            simp only [List.map_nil, List.nil_append] at hts
            subst hts
            simp [hstop] at hrest
          | cons w' run =>
            simp only [List.map_cons, List.cons_append, List.cons.injEq, Token.word.injEq] at hts
            obtain ⟨rfl, rfl⟩ := hts
            exact ⟨run, rfl, by simp, fun w hw => hrun w (by simp [hw]), hrest⟩
      | _ =>
        -- a token that is neither a word nor a stop is refused
        constructor
        · intro h
          cases h
        · rintro ⟨run, hts, -, -, hrest⟩
          cases run with
          | nil =>
            simp only [List.map_nil, List.nil_append] at hts
            subst hts
            simp [hstop] at hrest
          | cons w' run => simp at hts

theorem ne_nil_of_read_joinWords {g : Guarded} {ws : List (List Char)} {v : Literal}
    (h : Literal.read dates g (joinWords ws) = .ok v) : ws ≠ [] := by
  rintro rfl
  rw [joinWords] at h
  unfold Literal.read at h
  simp at h

section Readers

variable (g : Guarded)

theorem readValue_eq_ok_iff {stop : Token → Bool} {ts : List Token} {v : Literal}
    {rest : List Token} :
    readValue dates g stop ts = .ok (v, rest) ↔
      ∃ ws, ts = ws.map .word ++ rest ∧ (∀ w ∈ ws, stop (.word w) = false) ∧
        (∀ t ∈ rest.head?, stop t = true) ∧ ValueWords dates g ws v := by
  unfold readValue
  rw [bind_eq_ok_iff]
  constructor
  · rintro ⟨⟨ws, rest'⟩, htake, hread⟩
    dsimp only at hread
    obtain ⟨v', hv', hret⟩ := bind_eq_ok_iff.1 hread
    cases hret
    obtain ⟨run, hts, hws, hrun, hrest⟩ := (takeWords_eq_ok_iff ts).1 htake
    rw [List.reverse_nil, List.nil_append] at hws
    subst hws
    exact ⟨ws, hts, hrun, hrest, ne_nil_of_read_joinWords hv', hv'⟩
  · rintro ⟨ws, hts, hrun, hrest, -, hv⟩
    refine ⟨(ws, rest), (takeWords_eq_ok_iff ts).2 ⟨ws, hts, by simp, hrun, hrest⟩, ?_⟩
    dsimp only
    rw [hv]
    rfl

/-- A value with no stop token runs to the end of the tokens. -/
theorem readValue_last_eq_ok_iff {ts : List Token} {v : Literal} {rest : List Token} :
    readValue dates g (fun _ => false) ts = .ok (v, rest) ↔
      rest = [] ∧ ∃ ws, ts = ws.map .word ∧ ValueWords dates g ws v := by
  rw [readValue_eq_ok_iff]
  constructor
  · rintro ⟨ws, hts, -, hrest, hv⟩
    cases rest with
    | nil => exact ⟨rfl, ws, by simpa using hts, hv⟩
    | cons t rest => simp at hrest
  · rintro ⟨rfl, ws, rfl, hv⟩
    exact ⟨ws, by simp, by simp, by simp, hv⟩

/-- A placeholder of a span holds the marker. -/
theorem Guarded.touches_of_lookup? {w o : List Char} (h : g.lookup? w = some o) :
    g.touches w = true := by
  have hne : g.marker.isEmpty = false := by
    unfold Guarded.lookup? at h
    split at h
    · cases h
    · rename_i hm
      simp only [Bool.or_eq_true, Bool.not_eq_true', not_or] at hm
      exact Bool.eq_false_iff.2 hm.1
  obtain ⟨ds, rfl, -, -⟩ := Guarded.lookup?_eq_some h
  simp only [Guarded.touches, hne, Bool.not_false, Bool.true_and]
  exact (Text.occursIn_iff_infix _ _).2 (List.prefix_append _ _).isInfix

theorem readField_eq_ok_iff {ts : List Token} {field : String} {rest : List Token} :
    readField g ts = .ok (field, rest) ↔ ∃ w, ts = .word w :: rest ∧ FieldWord g w field := by
  constructor
  · intro h
    unfold readField at h
    split at h
    · rename_i w rest'
      split at h
      · rename_i quoted hq
        dsimp only at h
        split_ifs at h with hquote hempty
        cases h
        exact ⟨w, rfl, .quoted hq hquote (by simpa using hempty)⟩
      · dsimp only at h
        split_ifs at h with hbad
        cases h
        -- a bare word: its first character may start a field
        cases w with
        | nil => simp at hbad
        | cons c cs =>
          simp only [Bool.or_eq_true, Bool.not_eq_true', not_or, Bool.not_eq_false] at hbad
          exact ⟨_, rfl, .bare (by simpa using hbad.1) (by simpa using hbad.2)⟩
    · cases h
  · rintro ⟨w, rfl, hw⟩
    cases hw with
    | quoted hl hq hne =>
      unfold readField
      dsimp only
      rw [hl]
      dsimp only
      rw [if_neg hq, if_neg (by simpa using hne)]
    | @bare c cs hc ht =>
      -- a word without the marker is no placeholder
      have hnone : g.lookup? (c :: cs) = none := by
        cases hl : g.lookup? (c :: cs) with
        | none => rfl
        | some o =>
          rw [g.touches_of_lookup? hl] at ht
          cases ht
      unfold readField
      dsimp only
      rw [hnone]
      dsimp only
      rw [if_neg (by simp [hc, ht])]

/-- A null word is no `NOT`. -/
theorem isWord_not_of_isNullWord {w : List Char} (h : isNullWord w = true) :
    Text.isWord w "not" = false := by
  rcases Bool.or_eq_true_iff.1 h with h | h
  · exact Text.isWord_eq_false_of_isWord h (by decide)
  · exact Text.isWord_eq_false_of_isWord h (by decide)

theorem Token.eq_word_of_isNull {t : Token} (h : (t.isKeyword "null" || t.isKeyword "none") = true) :
    ∃ w, t = .word w ∧ isNullWord w = true := by
  cases t with
  | word w => exact ⟨w, rfl, h⟩
  | _ => cases h

theorem readIsNull_eq_ok_iff {field : String} {ts : List Token} {p : Predicate} :
    readIsNull field ts = .ok (p, []) ↔
      (∃ n, ts = [.word n] ∧ isNullWord n = true ∧ p = .isNull field false) ∨
      ∃ nt n, ts = [.word nt, .word n] ∧ Text.isWord nt "not" = true ∧ isNullWord n = true ∧
        p = .isNull field true := by
  constructor
  · intro h
    unfold readIsNull at h
    rcases ts with _ | ⟨t, r⟩
    · cases h
    dsimp only at h
    split_ifs at h with hnot
    · -- `NOT` is read, and a null word must follow
      rcases r with _ | ⟨n, r⟩
      · cases h
      dsimp only at h
      split_ifs at h with hn
      cases h
      obtain ⟨nt, rfl, hnt⟩ := Token.eq_word_of_isKeyword hnot
      obtain ⟨n, rfl, hn⟩ := Token.eq_word_of_isNull hn
      exact .inr ⟨nt, n, rfl, hnt, hn, rfl⟩
    · dsimp only at h
      split_ifs at h with hn
      cases h
      obtain ⟨n, rfl, hn⟩ := Token.eq_word_of_isNull hn
      exact .inl ⟨n, rfl, hn, rfl⟩
  · rintro (⟨n, rfl, hn, rfl⟩ | ⟨nt, n, rfl, hnt, hn, rfl⟩)
    · have hnot := isWord_not_of_isNullWord hn
      simp only [isNullWord] at hn
      simp [readIsNull, Token.isKeyword, hnot, hn]
    · simp only [isNullWord] at hn
      simp [readIsNull, Token.isKeyword, hnt, hn]

theorem readComparison_eq_ok_iff {field : String} {o : CompareOp} {ts : List Token}
    {p : Predicate} {rest : List Token} :
    readComparison dates g field o ts = .ok (p, rest) ↔
      rest = [] ∧ ∃ ws v, ts = ws.map .word ∧ ValueWords dates g ws v ∧
          p = comparisonLeaf o field v := by
  rw [readComparison_eq, bind_eq_ok_iff]
  constructor
  · rintro ⟨⟨v, rest'⟩, hv, hret⟩
    cases hret
    obtain ⟨rfl, ws, rfl, hws⟩ := (readValue_last_eq_ok_iff g).1 hv
    exact ⟨rfl, ws, v, rfl, hws, rfl⟩
  · rintro ⟨rfl, ws, v, rfl, hws, rfl⟩
    exact ⟨(v, []), (readValue_last_eq_ok_iff g).2 ⟨rfl, ws, rfl, hws⟩, rfl⟩

theorem readLike_eq_ok_iff {like : LikeSyntax} {field : String} {negated : Bool}
    {ts : List Token} {p : Predicate} {rest : List Token} :
    readLike dates g like field negated ts = .ok (p, rest) ↔
      rest = [] ∧ ∃ ws s, ts = ws.map .word ∧ ValueWords dates g ws (.text s) ∧
        p = .like field (likePattern like s) negated := by
  unfold readLike
  rw [bind_eq_ok_iff]
  constructor
  · rintro ⟨⟨v, rest'⟩, hv, hret⟩
    obtain ⟨rfl, ws, rfl, hws⟩ := (readValue_last_eq_ok_iff g).1 hv
    dsimp only at hret
    -- only a text is a pattern
    split at hret
    · rename_i s
      cases hret
      exact ⟨rfl, ws, s, rfl, hws, by cases like <;> rfl⟩
    · cases hret
  · rintro ⟨rfl, ws, s, rfl, hws, rfl⟩
    refine ⟨(.text s, []), (readValue_last_eq_ok_iff g).2 ⟨rfl, ws, rfl, hws⟩, ?_⟩
    cases like <;> rfl

theorem readBetween_eq_ok_iff {field : String} {negated : Bool} {ts : List Token}
    {p : Predicate} {rest : List Token} :
    readBetween dates g field negated ts = .ok (p, rest) ↔
      rest = [] ∧ ∃ low andWord high lo hi,
        ts = low.map .word ++ .word andWord :: high.map .word ∧ ValueWords dates g low lo ∧
        (∀ w ∈ low, Text.isWord w "and" = false) ∧ Text.isWord andWord "and" = true ∧
        ValueWords dates g high hi ∧ p = .between field lo hi negated := by
  constructor
  · intro h
    unfold readBetween at h
    dsimp only at h
    split at h
    · cases h
    rename_i lo rest₁ hlo
    obtain ⟨low, rfl, hno, -, hlow⟩ := (readValue_eq_ok_iff g).1 hlo
    -- the low end stops at a token that must be `AND`; the high end runs to the end
    split at h
    · rename_i t rest₂
      split_ifs at h with hand
      split at h
      · cases h
      rename_i hi rest₃ hhi
      cases h
      obtain ⟨rfl, high, rfl, hhigh⟩ := (readValue_last_eq_ok_iff g).1 hhi
      obtain ⟨a, rfl, ha⟩ := Token.eq_word_of_isKeyword hand
      exact ⟨rfl, low, a, high, lo, hi, rfl, hlow, hno, ha, hhigh, rfl⟩
    · cases h
  · rintro ⟨rfl, low, a, high, lo, hi, rfl, hlow, hno, ha, hhigh, rfl⟩
    have hlo : readValue dates g (fun t => t.isKeyword "and")
        (low.map .word ++ .word a :: high.map .word) =
        .ok (lo, .word a :: high.map .word) :=
      (readValue_eq_ok_iff g).2 ⟨low, rfl, hno, by simpa [Token.isKeyword] using ha, hlow⟩
    have hhi : readValue dates g (fun _ => false) (high.map .word) = .ok (hi, []) :=
      (readValue_last_eq_ok_iff g).2 ⟨rfl, high, rfl, hhigh⟩
    have ha' : (Token.word a).isKeyword "and" = true := ha
    unfold readBetween
    dsimp only
    rw [hlo]
    dsimp only
    rw [if_pos ha', hhi]

theorem readListValues_sound (fuel : Nat) :
    ∀ {ts : List Token} {acc vs : List Literal} {rest : List Token},
      readListValues dates g fuel ts acc = .ok (vs, rest) →
        ∃ body vs', ts = body ++ .rparen :: rest ∧ ListBody dates g body vs' ∧
            vs = acc.reverse ++ vs' := by
  induction fuel with
  | zero =>
    intro ts acc vs rest h
    rw [readListValues] at h
    cases h
  | succ fuel ih =>
    intro ts acc vs rest h
    rw [readListValues] at h
    split at h
    · obtain ⟨_, hx, -⟩ := bind_eq_ok_iff.1 h
      cases hx
    obtain ⟨⟨v, rest₁⟩, hv, hk⟩ := bind_eq_ok_iff.1 h
    obtain ⟨ws, rfl, -, -, hws⟩ := (readValue_eq_ok_iff g).1 hv
    dsimp only at hk
    split at hk
    · -- a comma: the list goes on
      obtain ⟨body, vs', rfl, hbody, rfl⟩ := ih hk
      exact ⟨ws.map .word ++ .comma :: body, v :: vs', by simp, .cons hws hbody, by simp⟩
    · -- `)` ends the list
      cases hk
      exact ⟨ws.map .word, [v], by simp, .last hws, by simp⟩
    · cases hk

theorem readListValues_complete {body : List Token} {vs : List Literal}
    (hb : ListBody dates g body vs) :
    ∀ {fuel : Nat} (rest : List Token) (acc : List Literal), body.length < fuel →
      readListValues dates g fuel (body ++ .rparen :: rest) acc = .ok
          (acc.reverse ++ vs, rest) := by
  induction hb with
  | @last ws v hv =>
    intro fuel rest acc hfuel
    obtain ⟨fuel, rfl⟩ : ∃ f, fuel = f + 1 := ⟨fuel - 1, by omega⟩
    have hread : readValue dates g (fun t => t = .comma || t = .rparen)
        (ws.map .word ++ .rparen :: rest) =
        .ok (v, .rparen :: rest) :=
      (readValue_eq_ok_iff g).2 ⟨ws, rfl, by simp, by simp, hv⟩
    rw [readListValues, hread]
    show Except.ok ((v :: acc).reverse, rest) = _
    rw [List.reverse_cons]
  | @cons ws v ts vs hv _ ih =>
    intro fuel rest acc hfuel
    obtain ⟨fuel, rfl⟩ : ∃ f, fuel = f + 1 := ⟨fuel - 1, by omega⟩
    have hread : readValue dates g (fun t => t = .comma || t = .rparen)
        (ws.map .word ++ .comma :: (ts ++ .rparen :: rest)) = .ok (v, .comma :: (ts ++ .rparen :: rest)) :=
      (readValue_eq_ok_iff g).2 ⟨ws, rfl, by simp, by simp, hv⟩
    have hnext := @ih fuel rest (v :: acc) (by simp at hfuel; omega)
    rw [List.append_assoc, List.cons_append, readListValues, hread]
    show readListValues dates g fuel (ts ++ .rparen :: rest) (v :: acc) = _
    rw [hnext]
    simp

/-- The tokens of a non-empty `IN` list start with a word. -/
theorem ListBody.exists_word {body : List Token} {vs : List Literal}
    (hb : ListBody dates g body vs) :
    ∃ w rest, body = .word w :: rest := by
  cases hb with
  | last hv =>
    obtain ⟨w, ws, rfl⟩ := List.exists_cons_of_ne_nil hv.1
    exact ⟨w, _, rfl⟩
  | cons hv _ =>
    obtain ⟨w, ws, rfl⟩ := List.exists_cons_of_ne_nil hv.1
    exact ⟨w, _, rfl⟩

theorem readIn_eq_ok_iff {field : String} {negated : Bool} {ts : List Token} {p : Predicate} :
    readIn dates g field negated ts = .ok (p, []) ↔
      (ts = [.lparen, .rparen] ∧ p = .member field [] negated) ∨
      ∃ body vs, ts = .lparen :: body ++ [.rparen] ∧ ListBody dates g body vs ∧
        p = .member field vs negated := by
  constructor
  · intro h
    unfold readIn at h
    split at h
    · cases h
      exact .inl ⟨rfl, rfl⟩
    · obtain ⟨⟨values, rest⟩, hvalues, h⟩ := bind_eq_ok_iff.1 h
      cases h
      obtain ⟨body, vs, rfl, hb, hvs⟩ := readListValues_sound g _ hvalues
      exact .inr ⟨body, vs, by simp, hb, by simp [hvs]⟩
    · cases h
  · rintro (⟨rfl, rfl⟩ | ⟨body, vs, rfl, hb, rfl⟩)
    · rfl
    · obtain ⟨w, rest, rfl⟩ := hb.exists_word
      rw [List.cons_append, readIn_lparen g field negated (by simp),
        readListValues_complete g hb [] [] (by simp)]
      rfl

/-- A keyword form starts with its keyword, which is neither `IS` nor `NOT`. -/
theorem KeywordForm.exists_word {like : LikeSyntax} {field : String} {negated : Bool}
    {ts : List Token} {p : Predicate} (h : KeywordForm dates g like field negated ts p) :
    ∃ kw rest, ts = .word kw :: rest ∧ Text.isWord kw "is" = false ∧
      Text.isWord kw "not" = false := by
  cases h with
  | between hk => exact ⟨_, _, rfl, Text.isWord_is_not_of_isWord hk (by decide) (by decide)⟩
  | inEmpty hk => exact ⟨_, _, rfl, Text.isWord_is_not_of_isWord hk (by decide) (by decide)⟩
  | inList hk => exact ⟨_, _, rfl, Text.isWord_is_not_of_isWord hk (by decide) (by decide)⟩
  | like hk => exact ⟨_, _, rfl, Text.isWord_is_not_of_isWord hk (by decide) (by decide)⟩

variable (like : LikeSyntax)

theorem readKeywordOperator_eq_ok_iff {field : String} {t : Token} {negated : Bool}
    {ts : List Token} {p : Predicate} :
    readKeywordOperator dates g like field t negated ts = .ok (p, []) ↔
      KeywordForm dates g like field negated (t :: ts) p := by
  constructor
  · intro h
    unfold readKeywordOperator at h
    split_ifs at h with hb hi hl
    · obtain ⟨kw, rfl, hk⟩ := Token.eq_word_of_isKeyword hb
      obtain ⟨-, low, a, high, lo, hi, rfl, hlow, hno, ha, hhigh, rfl⟩ :=
        (readBetween_eq_ok_iff g).1 h
      exact .between hk hlow hno ha hhigh
    · obtain ⟨kw, rfl, hk⟩ := Token.eq_word_of_isKeyword hi
      rcases (readIn_eq_ok_iff g).1 h with ⟨rfl, rfl⟩ | ⟨body, vs, rfl, hbody, rfl⟩
      · exact .inEmpty hk
      · exact .inList hk hbody
    · obtain ⟨kw, rfl, hk⟩ := Token.eq_word_of_isKeyword hl
      obtain ⟨-, ws, s, rfl, hv, rfl⟩ := (readLike_eq_ok_iff g).1 h
      exact .like hk hv
  · intro h
    -- the keyword picks the reader; the keywords before it in the test order are refused
    cases h with
    | between hk hlow hno ha hhigh =>
      simp only [readKeywordOperator, Token.isKeyword, hk, if_true]
      exact (readBetween_eq_ok_iff g).2 ⟨rfl, _, _, _, _, _, rfl, hlow, hno, ha, hhigh, rfl⟩
    | inEmpty hk =>
      have hb : Text.isWord _ "between" = false := Text.isWord_eq_false_of_isWord hk (by decide)
      simp only [readKeywordOperator, Token.isKeyword, hb, hk, Bool.false_eq_true, if_false,
        if_true]
      exact (readIn_eq_ok_iff g).2 (.inl ⟨rfl, rfl⟩)
    | inList hk hbody =>
      have hb : Text.isWord _ "between" = false := Text.isWord_eq_false_of_isWord hk (by decide)
      simp only [readKeywordOperator, Token.isKeyword, hb, hk, Bool.false_eq_true, if_false,
        if_true]
      exact (readIn_eq_ok_iff g).2 (.inr ⟨_, _, rfl, hbody, rfl⟩)
    | like hk hv =>
      have hb : Text.isWord _ "between" = false := Text.isWord_eq_false_of_isWord hk (by decide)
      have hi : Text.isWord _ "in" = false := Text.isWord_eq_false_of_isWord hk (by decide)
      simp only [readKeywordOperator, Token.isKeyword, hb, hi, hk, Bool.false_eq_true, if_false,
        if_true]
      exact (readLike_eq_ok_iff g).2 ⟨rfl, _, _, rfl, hv, rfl⟩

/-- Something follows the field of every clause. -/
theorem Tail.ne_nil {field : String} {ts : List Token} {p : Predicate}
    (h : Tail dates g like field ts p) : ts ≠ [] := by
  cases h with
  | keyword h =>
    obtain ⟨kw, rest, rfl, -, -⟩ := KeywordForm.exists_word g h
    simp
  | _ => simp

theorem readGeneral_sound {ts : List Token} {p : Predicate}
    (h : readClauseTokens.readGeneral dates g like ts = .ok p) :
    ∃ w field rest, ts = .word w :: rest ∧ FieldWord g w field ∧
        Tail dates g like field rest p := by
  unfold readClauseTokens.readGeneral at h
  obtain ⟨⟨field, rest⟩, hfield, hk⟩ := bind_eq_ok_iff.1 h
  obtain ⟨w, rfl, hw⟩ := (readField_eq_ok_iff g).1 hfield
  refine ⟨w, field, rest, rfl, hw, ?_⟩
  dsimp only at hk
  -- each branch reads a leaf after the field, and no token may be left after it
  repeat' split at hk
  all_goals
    obtain ⟨⟨q, rest'⟩, hq, hfin⟩ := bind_eq_ok_iff.1 hk
    obtain ⟨rfl, rfl⟩ : rest' = [] ∧ q = p := by
      dsimp only at hfin
      split at hfin
      · cases hfin
        exact ⟨rfl, rfl⟩
      · cases hfin
  · cases hq
  · obtain ⟨-, ws, v, rfl, hv, rfl⟩ := (readComparison_eq_ok_iff g).1 hq
    exact .compare hv
  · obtain ⟨is, rfl, his⟩ := Token.eq_word_of_isKeyword (k := "is") ‹_›
    rcases readIsNull_eq_ok_iff.1 hq with ⟨n, rfl, hn, rfl⟩ | ⟨nt, n, rfl, hnt, hn, rfl⟩
    · exact .isNull his hn
    · exact .isNotNull his hnt hn
  · obtain ⟨nt, rfl, hnt⟩ := Token.eq_word_of_isKeyword (k := "not") ‹_›
    exact .notKeyword hnt ((readKeywordOperator_eq_ok_iff g like).1 hq)
  · cases hq
  · exact .keyword ((readKeywordOperator_eq_ok_iff g like).1 hq)

theorem readGeneral_complete {w : List Char} {field : String} {rest : List Token}
    {p : Predicate} (hw : FieldWord g w field) (ht : Tail dates g like field rest p) :
    readClauseTokens.readGeneral dates g like (.word w :: rest) = .ok p := by
  have hfield : readField g (.word w :: rest) = .ok (field, rest) :=
    (readField_eq_ok_iff g).2 ⟨w, rfl, hw⟩
  unfold readClauseTokens.readGeneral
  rw [hfield, except_ok_bind]
  -- the token after the field picks the reader
  cases ht with
  | compare hv =>
    dsimp only
    rw [(readComparison_eq_ok_iff g).2 ⟨rfl, _, _, rfl, hv, rfl⟩]
    rfl
  | isNull hi hn =>
    simp only [Token.isKeyword, hi, if_true]
    rw [readIsNull_eq_ok_iff.2 (.inl ⟨_, rfl, hn, rfl⟩)]
    rfl
  | isNotNull hi hnot hn =>
    simp only [Token.isKeyword, hi, if_true]
    rw [readIsNull_eq_ok_iff.2 (.inr ⟨_, _, rfl, hnot, hn, rfl⟩)]
    rfl
  | keyword h =>
    obtain ⟨kw, ts, rfl, his, hnot⟩ := KeywordForm.exists_word g h
    simp only [Token.isKeyword, his, hnot, Bool.false_eq_true, if_false]
    rw [(readKeywordOperator_eq_ok_iff g like).2 h]
    rfl
  | notKeyword hnot h =>
    have his : Text.isWord _ "is" = false := Text.isWord_eq_false_of_isWord hnot (by decide)
    obtain ⟨kw, ts, rfl, -, -⟩ := KeywordForm.exists_word g h
    simp only [Token.isKeyword, his, hnot, Bool.false_eq_true, if_false, if_true]
    rw [(readKeywordOperator_eq_ok_iff g like).2 h]
    rfl

theorem readGeneral_eq_ok_iff {ts : List Token} {p : Predicate} :
    readClauseTokens.readGeneral dates g like ts = .ok p ↔
      ∃ w field rest, ts = .word w :: rest ∧ FieldWord g w field ∧
          Tail dates g like field rest p := by
  constructor
  · exact readGeneral_sound g like
  · rintro ⟨w, field, rest, rfl, hw, ht⟩
    exact readGeneral_complete g like hw ht

end Readers

/-! ## The reader accepts exactly the grammar -/

/-- The clause reader accepts exactly the token lists of the clause grammar, and reads each to
    the tree its derivation names. -/
theorem readClauseTokens_eq_ok_iff (g : Guarded) (like : LikeSyntax) (ts : List Token)
    (p : Predicate) : readClauseTokens dates g like ts = .ok p ↔ Clause dates g like ts p := by
  constructor
  · intro h
    unfold readClauseTokens at h
    split at h
    · cases h
      exact .empty
    · split_ifs at h with h1 h0
      · cases h
        exact .constTrue (by simpa using h1)
      · cases h
        exact .constFalse (by simpa using h0)
      · -- a lone word that is no constant has nothing after its field
        obtain ⟨w', field, rest, hts, -, ht⟩ := (readGeneral_eq_ok_iff g like).1 h
        cases hts
        exact absurd rfl (ht.ne_nil g like)
    · obtain ⟨w, field, rest, rfl, hw, ht⟩ := (readGeneral_eq_ok_iff g like).1 h
      exact .leaf hw ht
  · intro h
    cases h with
    | empty => rfl
    | constTrue h1 =>
      unfold readClauseTokens
      dsimp only
      rw [if_pos (by simpa using h1)]
    | @constFalse w h0 =>
      -- a word that reads as `false` does not read as `true`
      have hnot : (w = ['1'] || Text.isWord w "true") = false := by
        rcases h0 with rfl | h0
        · decide
        · have hne : w ≠ ['1'] := by
            rintro rfl
            revert h0
            decide
          have htrue : Text.isWord w "true" = false :=
            Text.isWord_eq_false_of_isWord h0 (by decide)
          simp [hne, htrue]
      unfold readClauseTokens
      dsimp only
      rw [if_neg (by simp [hnot]), if_pos (by simpa using h0)]
    | leaf hw ht =>
      rw [readClauseTokens_eq_readGeneral g like (by simp) ?_]
      · exact (readGeneral_eq_ok_iff g like).2 ⟨_, _, _, rfl, hw, ht⟩
      · intro w' heq
        cases heq
        exact ht.ne_nil g like rfl

/-- A clause text is read exactly when its tokens derive a clause of the grammar, and it reads
    to the tree that derivation names. -/
theorem readClause_eq_ok_iff (g : Guarded) (like : LikeSyntax) (text : List Char)
    (p : Predicate) :
    readClause dates g like text = .ok p ↔ ∃ ts, tokenize text = .ok ts ∧
        Clause dates g like ts p := by
  unfold readClause
  constructor
  · intro h
    split at h
    · rename_i p' hp
      cases h
      obtain ⟨ts, hts, hread⟩ := bind_eq_ok_iff.1 hp
      exact ⟨ts, hts, (readClauseTokens_eq_ok_iff g like ts _).1 hread⟩
    · cases h
  · rintro ⟨ts, hts, hclause⟩
    have hread : (tokenize text >>= readClauseTokens dates g like) = .ok p :=
      bind_eq_ok_iff.2 ⟨ts, hts, (readClauseTokens_eq_ok_iff g like ts p).2 hclause⟩
    rw [hread]

end FilterQuery.Query

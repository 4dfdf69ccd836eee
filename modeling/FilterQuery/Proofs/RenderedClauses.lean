import FilterQuery.Proofs.RenderedSplit
import FilterQuery.Proofs.ClauseGrammar
import FilterQuery.Proofs.TokenSymbols

/-!
# Written leaves read back as clauses

The clause text of a written leaf, cut out by the splitter, reads back to the leaf.

The tokenizer reads the written form piece by piece (`Lexes`): a word up to the character
that ends it, a blank as nothing, an operator with the blank after it (without the blank, `=`
could run into a following `=`), parentheses and commas as themselves. Every leaf's written
form is a run of such pieces: a field word, `NOT`, the keyword, the words of its values.

Each run of tokens is then a derivation of the clause grammar (`Clause`): the field word names
the field (`fieldWord_fieldWord`: a plain name starts with a letter and holds no marker, a
quoted one is the placeholder of its span), the words of each value read as the value
(`valueWords_words`), and the low value of a `BETWEEN` holds no `AND`. A comparison with
`NULL` reads as itself only when its operator orders (`comparisonLeaf_of_isNull`).

## Key results
- `Lexes.tokenize`: a text read piece by piece is tokenized as its pieces' tokens
- `fieldWord_fieldWord`, `valueWords_words`, `listBody_listTokens`: the parts of a written leaf
  in the clause grammar
- `readClause_leafText`: the written form of a leaf that reads back is read to the leaf
-/

namespace FilterQuery.Query

/-! ## Tokens of written text -/

/-- Whether the tokenizer cannot run a word of `x` on into `rest`: `x` ends with a character
    that ends words, or `rest` starts with one. -/
def Breaks (x rest : List Char) : Prop :=
  (∀ d ∈ x.getLast?, isWordDelimiter d = true) ∨ ∀ c ∈ rest.head?, isWordDelimiter c = true

theorem Breaks.nil_right (x : List Char) : Breaks x [] := .inr (by simp)

theorem Breaks.blank (x rest : List Char) : Breaks x (' ' :: rest) := .inr (by simp; rfl)

/-- `Lexes x xs`: the tokenizer reads the text `x` as the tokens `xs`, whatever follows that
    does not run on a word of it. -/
def Lexes (x : List Char) (xs : List Token) : Prop :=
  ∀ (rest : List Char) (acc : List Token), Breaks x rest →
    lexTokens (x ++ rest) acc = lexTokens rest (xs.reverse ++ acc)

namespace Lexes

theorem append {x y : List Char} {xs ys : List Token} (hx : Lexes x xs) (hy : Lexes y ys)
    (hxy : Breaks x y) : Lexes (x ++ y) (xs ++ ys) := by
  intro rest acc hrest
  cases y with
  | nil =>
    rw [List.append_nil] at hrest
    have hy' := hy rest (xs.reverse ++ acc) (.inl (by simp))
    rw [List.nil_append] at hy'
    rw [List.append_nil, hx rest acc hrest, hy']
    simp
  | cons d y =>
    have hlast : (x ++ d :: y).getLast? = (d :: y).getLast? :=
      List.getLast?_append_of_ne_nil _ (List.cons_ne_nil d y)
    have hrest' : Breaks (d :: y) rest := by
      unfold Breaks at hrest
      rwa [hlast] at hrest
    have hxy' : Breaks x (d :: y ++ rest) := by
      rcases hxy with h | h
      · exact .inl h
      · exact .inr (by simpa using h)
    rw [List.append_assoc, hx _ acc hxy', hy rest _ hrest']
    simp

theorem tokenize {x : List Char} {xs : List Token} (h : Lexes x xs) : Query.tokenize x = .ok xs := by
  have := h [] [] (Breaks.nil_right x)
  rw [List.append_nil] at this
  rw [Query.tokenize, this, lexTokens_nil]
  simp

theorem blank : Lexes [' '] [] := by
  intro rest acc _
  rw [List.singleton_append, lexTokens_whiteSpace isWhiteSpace_blank]
  rfl

theorem lparen : Lexes ['('] [.lparen] := by
  intro rest acc _
  rw [List.singleton_append, lexTokens_lparen]
  rfl

theorem rparen : Lexes [')'] [.rparen] := by
  intro rest acc _
  rw [List.singleton_append, lexTokens_rparen]
  rfl

/-- A comma and the blank after it. -/
theorem comma : Lexes [',', ' '] [.comma] := by
  intro rest acc _
  rw [List.cons_append, lexTokens_comma, List.singleton_append,
    lexTokens_whiteSpace isWhiteSpace_blank]
  rfl

/-- An operator and the blank after it: the blank keeps `=` from running into `==`. -/
theorem symbol (op : CompareOp) : Lexes (op.symbol.toList ++ [' ']) [.op op] := by
  intro rest acc _
  have hb : lexTokens (' ' :: rest) (.op op :: acc) = lexTokens rest (.op op :: acc) :=
    lexTokens_whiteSpace isWhiteSpace_blank
  cases op
  · simpa [CompareOp.symbol, lexTokens_equals] using hb
  · simpa [CompareOp.symbol, lexTokens_bang] using hb
  · simpa [CompareOp.symbol, lexTokens_greater] using hb
  · simpa [CompareOp.symbol, lexTokens_less] using hb
  · simpa [CompareOp.symbol, lexTokens_greater] using hb
  · simpa [CompareOp.symbol, lexTokens_less] using hb

/-- A run of characters that end no word is one word token. -/
theorem word {w : List Char} (hne : w ≠ []) (hw : ∀ c ∈ w, isWordDelimiter c = false) :
    Lexes w [.word w] := by
  intro rest acc hrest
  obtain ⟨c, w', rfl⟩ := List.exists_cons_of_ne_nil hne
  have hc := hw c List.mem_cons_self
  have hw' : ∀ d ∈ w', (!isWordDelimiter d) = true := fun d hd => by
    simp [hw d (List.mem_cons_of_mem c hd)]
  -- the word ends where `rest` starts: a word of its own needs a character ending it
  have hrest' : ∀ d ∈ rest.head?, isWordDelimiter d = true := by
    rcases hrest with h | h
    · have hl := List.getLast?_eq_some_getLast (List.cons_ne_nil c w')
      have := h _ hl
      rw [hw _ (List.mem_of_getLast? hl)] at this
      cases this
    · exact h
  have htake : (rest.takeWhile fun d => !isWordDelimiter d) = [] := by
    cases rest with
    | nil => rfl
    | cons d rest => simp [hrest' d rfl]
  have hdrop : (rest.dropWhile fun d => !isWordDelimiter d) = rest := by
    cases rest with
    | nil => rfl
    | cons d rest => simp [hrest' d rfl]
  rw [List.cons_append, lexTokens_word hc, List.takeWhile_append_of_pos hw',
    List.dropWhile_append_of_pos hw', htake, hdrop, List.append_nil]
  rfl

/-- Words joined by blanks are their word tokens. -/
theorem joinWords {ws : List (List Char)}
    (hws : ∀ w ∈ ws, w ≠ [] ∧ ∀ c ∈ w, isWordDelimiter c = false) :
    Lexes (Query.joinWords ws) (ws.map .word) := by
  induction ws with
  | nil => intro rest acc _; rfl
  | cons w ws ih =>
    obtain ⟨hne, hw⟩ := hws w List.mem_cons_self
    have hrest := fun x hx => hws x (List.mem_cons_of_mem w hx)
    cases ws with
    | nil => exact word hne hw
    | cons v ws =>
      have := (word hne hw).append (blank.append (ih hrest) (.inl (by simp; rfl))) (.blank _ _)
      simpa [joinWords_cons_cons] using this

theorem nil : Lexes [] [] := fun _ _ _ => rfl

end Lexes

theorem ClauseWord.lexes {w : List Char} (hw : ClauseWord w) : w ≠ [] ∧ ∀ c ∈ w, isWordDelimiter c = false :=
  ⟨hw.ne_nil, hw.not_delimiter⟩

/-- The keywords a leaf is written with end no word. -/
theorem lexes_keyword {s : String} (hs : s ∈ ["NOT", "IN", "LIKE", "IS", "NULL", "BETWEEN", "AND"]) :
    s.toList ≠ [] ∧ ∀ c ∈ s.toList, isWordDelimiter c = false := by
  simp only [List.mem_cons, List.not_mem_nil, or_false] at hs
  rcases hs with rfl | rfl | rfl | rfl | rfl | rfl | rfl <;> exact ⟨by simp, by simp; decide⟩

/-- The tokens of the values of an `IN` list, the span of the first numbered `n`. -/
def Literal.listTokens (m : List Char) : Nat → List Literal → List Token
  | _, [] => []
  | n, [v] => (v.words m n).map .word
  | n, v :: vs => (v.words m n).map .word ++ .comma :: Literal.listTokens m (n + v.spanCount) vs

theorem Lexes.listText {m : List Char} (hm : ∀ c ∈ m, c ∈ markerAlphabet) :
    ∀ (k : Nat) (vs : List Literal), (∀ v ∈ vs, v.Rereadable) →
      Lexes (Literal.listText m k vs) (Literal.listTokens m k vs)
  | _, [], _ => Lexes.nil
  | k, [v], h => Lexes.joinWords fun w hw =>
      (clauseWords_literal hm (h v List.mem_cons_self) k w hw).lexes
  | k, v :: v' :: vs, h => by
    have hv := Lexes.joinWords fun w hw =>
      (clauseWords_literal hm (h v List.mem_cons_self) k w hw).lexes
    have hrest := Lexes.listText hm (k + v.spanCount) (v' :: vs)
      (fun x hx => h x (List.mem_cons_of_mem v hx))
    -- a comma ends the words before it, and the blank after it starts the next value
    have := hv.append (Lexes.comma.append hrest (.inl (by simp; rfl))) (.inr (by simp; rfl))
    simpa [Literal.listText, Literal.listTokens] using this

/-! ## The grammar of written leaves -/

section Grammar

variable {g : Guarded} (hfit : g.Fits)
include hfit

/-- A field name that reads back, written in a guarded text, is the field word of a clause. -/
theorem fieldWord_fieldWord {n : Nat} {f : String} (hf : FieldRereads f)
    (hh : g.Holds n (fieldChunks f)) : FieldWord g (fieldWord g.marker n f) f := by
  have hne : f.toList ≠ [] := by simpa using hf.1
  unfold fieldWord
  split
  · -- a plain name: it starts with a letter or `_`, and the marker does not touch it
    rename_i hplain
    have hu : g.Untouched f.toList := by
      have := hh.untouched
      rwa [flatMap_text_fieldChunks, renderField, if_pos hplain] at this
    obtain ⟨c, cs, hcs⟩ := List.exists_cons_of_ne_nil hne
    have hstart : (Text.isAlphabetic c || c = '_') = true := by
      rw [hcs] at hplain
      simp only [isPlainField, Bool.and_eq_true] at hplain
      exact hplain.1
    have := FieldWord.bare (g := g) hstart (hcs ▸ hu).touches_eq_false
    rwa [← hcs, String.ofList_toList] at this
  · -- a quoted name: its placeholder looks up its span
    rename_i hplain
    have hq : g.Holds n [.quoted (quotedSpan backtick f.toList)] := by
      unfold fieldChunks at hh
      rwa [if_neg hplain] at hh
    obtain ⟨hm, hlt, hget⟩ := hq.quoted hfit
    have hl : g.lookup? (placeholder g.marker n) = some (quotedSpan backtick f.toList) := by
      rw [Guarded.lookup?_placeholder hm, if_pos (show n < Nat.pow 2 64 from hlt), hget]
    have hhead : (quotedSpan backtick f.toList).head? ≠ some '\'' := by
      rw [quotedSpan, List.cons_append, List.head?_cons]
      decide
    have := FieldWord.quoted hl hhead (by rwa [unquote_quotedSpan])
    rwa [unquote_quotedSpan, String.ofList_toList] at this

omit hfit in
/-- A literal that reads back, where it is placed, is the run of words of a value. -/
theorem valueWords_words {v : Literal} {k : Nat} (hv : v.Rereadable) (hp : v.Placed g k) :
    ValueWords DateTime.readLiteral? g (v.words g.marker k) v :=
  ⟨Literal.words_ne_nil v _ _, Literal.read_joinWords_words hv hp⟩

/-- The values of a non-empty `IN` list, written in a guarded text, are a list body. -/
theorem listBody_listTokens : ∀ (k : Nat) (vs : List Literal), vs ≠ [] →
    (∀ v ∈ vs, v.Rereadable) → g.Holds k (joinChunks (plainChunks ", ") (vs.map Literal.chunks)) →
      ListBody DateTime.readLiteral? g (Literal.listTokens g.marker k vs) vs
  | _, [], hne, _, _ => absurd rfl hne
  | k, [v], _, hvs, hh => .last (valueWords_words (hvs v List.mem_cons_self) (hh.placed hfit))
  | k, v :: v' :: vs, _, hvs, hh => by
    rw [List.map_cons, List.map_cons, joinChunks_cons_cons, ← List.map_cons] at hh
    have hrest : g.Holds (k + v.spanCount) (joinChunks (plainChunks ", ") ((v' :: vs).map Literal.chunks)) := by
      simpa using hh.right
    exact .cons (valueWords_words (hvs v List.mem_cons_self) (hh.left.left.placed hfit))
      (listBody_listTokens (k + v.spanCount) (v' :: vs) (List.cons_ne_nil _ _)
        (fun x hx => hvs x (List.mem_cons_of_mem v hx)) hrest)

end Grammar

/-- What follows a field: a keyword form, after `NOT` when negated. -/
theorem Tail.notWords {g : Guarded} {like : LikeSyntax} {f : String} {neg : Bool}
    {ts : List Token} {p : Predicate} (h : KeywordForm DateTime.readLiteral? g like f neg ts p) :
    Tail DateTime.readLiteral? g like f ((notWords neg).map .word ++ ts) p := by
  cases neg
  · exact .keyword h
  · exact .notKeyword (by decide +kernel) h

/-- A comparison whose value is not `NULL`, or whose operator orders, reads as itself. -/
theorem comparisonLeaf_of_isNull {op : CompareOp} {f : String} {v : Literal}
    (h : v.isNull = true → op.isOrdering = true) : comparisonLeaf op f v = .compare f op v := by
  cases v <;> cases op <;> simp_all [comparisonLeaf, Literal.isNull, CompareOp.isOrdering]

theorem joinWords_cons_of_ne_nil (w : List Char) {ws : List (List Char)} (h : ws ≠ []) :
    joinWords (w :: ws) = w ++ ' ' :: joinWords ws := by
  obtain ⟨v, vs, rfl⟩ := List.exists_cons_of_ne_nil h
  rfl

/-! ## Written leaves read back -/

section Leaves

variable {g : Guarded} (hfit : g.Fits) {n : Nat}
include hfit

/-- A comparison is written as the field, its operator and the words of its value, and read
    back as itself. -/
theorem readClause_compareText {f : String} {op : CompareOp} {v : Literal}
    (hp : (Predicate.compare f op v).Rereads) (hh : g.Holds n (Predicate.compare f op v).chunks) :
    readClause DateTime.readLiteral? g .regex
        (guardedText g.marker n (Predicate.compare f op v).chunks) =
      .ok (Predicate.compare f op v) := by
  have hm := hfit.letters
  rw [readClause_eq_ok_iff]
  obtain ⟨hf, hv, hnull⟩ := hp
  have hh' : g.Holds n (fieldChunks f ++ plainChunks (" " ++ op.symbol ++ " ") ++ v.chunks) := hh
  have hhv : g.Holds (n + fieldSpans f) v.chunks := by simpa using hh'.right
  refine ⟨.word (fieldWord g.marker n f) :: .op op ::
    (v.words g.marker (n + fieldSpans f)).map .word, ?_, ?_⟩
  · -- the field, the operator between blanks, the words of the value
    rw [guardedText_compare]
    have := (Lexes.word (clauseWord_fieldWord hm n hf).ne_nil
      (clauseWord_fieldWord hm n hf).not_delimiter).append (Lexes.blank.append
        ((Lexes.symbol op).append (Lexes.joinWords fun w hw =>
          (clauseWords_literal hm hv (n + fieldSpans f) w hw).lexes) (.inl (by simp; rfl)))
        (.inl (by simp; rfl))) (.blank _ _)
    simpa using this.tokenize
  · rw [← comparisonLeaf_of_isNull (f := f) hnull]
    exact .leaf (fieldWord_fieldWord hfit hf hh'.left.left)
      (.compare (valueWords_words hv (hhv.placed hfit)))

/-- A range test is written as the field, the keywords and the words of both bounds, and read
    back as itself. -/
theorem readClause_betweenText {f : String} {lo hi : Literal} {neg : Bool}
    (hp : (Predicate.between f lo hi neg).Rereads)
    (hh : g.Holds n (Predicate.between f lo hi neg).chunks) :
    readClause DateTime.readLiteral? g .regex
        (guardedText g.marker n (Predicate.between f lo hi neg).chunks) =
      .ok (Predicate.between f lo hi neg) := by
  have hm := hfit.letters
  rw [readClause_eq_ok_iff]
  obtain ⟨hf, hlo, hhi⟩ := hp
  have hh' : g.Holds n (fieldChunks f ++ plainChunks (" " ++ notWord neg ++ "BETWEEN ") ++
      lo.chunks ++ plainChunks " AND " ++ hi.chunks) := hh
  have hhlo : g.Holds (n + fieldSpans f) lo.chunks := by simpa using hh'.left.left.right
  have hhhi : g.Holds (n + fieldSpans f + lo.spanCount) hi.chunks := by
    simpa [Nat.add_assoc] using hh'.right
  -- the leaf is written as one run of words
  have htext : guardedText g.marker n (Predicate.between f lo hi neg).chunks =
      joinWords ((fieldWord g.marker n f :: notWords neg) ++ ("BETWEEN".toList ::
        (lo.words g.marker (n + fieldSpans f) ++ ("AND".toList ::
          hi.words g.marker (n + fieldSpans f + lo.spanCount))))) := by
    rw [guardedText_between, @joinWords_append (fieldWord g.marker n f :: notWords neg) _
      (by simp) (by simp), joinWords_cons_of_ne_nil "BETWEEN".toList (by simp),
      @joinWords_append (lo.words g.marker (n + fieldSpans f)) _ (Literal.words_ne_nil lo _ _)
        (by simp), joinWords_cons_of_ne_nil "AND".toList (Literal.words_ne_nil hi _ _)]
  refine ⟨.word (fieldWord g.marker n f) :: ((notWords neg).map .word ++
    (.word "BETWEEN".toList :: (lo.words g.marker (n + fieldSpans f)).map .word ++
      .word "AND".toList :: (hi.words g.marker (n + fieldSpans f + lo.spanCount)).map .word)),
    ?_, ?_⟩
  · rw [htext]
    have hws : ∀ w ∈ (fieldWord g.marker n f :: notWords neg) ++ ("BETWEEN".toList ::
        (lo.words g.marker (n + fieldSpans f) ++ ("AND".toList ::
          hi.words g.marker (n + fieldSpans f + lo.spanCount)))),
        w ≠ [] ∧ ∀ c ∈ w, isWordDelimiter c = false := by
      intro w hw
      simp only [List.mem_append, List.mem_cons] at hw
      rcases hw with (rfl | hw) | rfl | hw | rfl | hw
      · exact (clauseWord_fieldWord hm n hf).lexes
      · exact (clauseWord_notWords neg w hw).lexes
      · exact lexes_keyword (by simp)
      · exact (clauseWords_literal hm hlo _ w hw).lexes
      · exact lexes_keyword (by simp)
      · exact (clauseWords_literal hm hhi _ w hw).lexes
    simpa using (Lexes.joinWords hws).tokenize
  · -- the low value holds no `AND`: its words are clause words
    have hno : ∀ w ∈ lo.words g.marker (n + fieldSpans f), Text.isWord w "and" = false :=
      fun w hw => (clauseWords_literal hm hlo _ w hw).not_keyword "and" (by simp)
    exact .leaf (fieldWord_fieldWord hfit hf hh'.left.left.left.left)
      (Tail.notWords (.between (by decide +kernel) (valueWords_words hlo (hhlo.placed hfit)) hno
        (by decide +kernel) (valueWords_words hhi (hhhi.placed hfit))))

/-- A list test is written as the field, the keywords and the list between parentheses, and
    read back as itself. -/
theorem readClause_memberText {f : String} {vs : List Literal} {neg : Bool}
    (hp : (Predicate.member f vs neg).Rereads) (hh : g.Holds n (Predicate.member f vs neg).chunks) :
    readClause DateTime.readLiteral? g .regex
        (guardedText g.marker n (Predicate.member f vs neg).chunks) =
      .ok (Predicate.member f vs neg) := by
  have hm := hfit.letters
  rw [readClause_eq_ok_iff]
  obtain ⟨hf, hvs⟩ := hp
  have hh' : g.Holds n (fieldChunks f ++ plainChunks (" " ++ notWord neg ++ "IN (") ++
      joinChunks (plainChunks ", ") (vs.map Literal.chunks) ++ plainChunks ")") := hh
  have hhvs : g.Holds (n + fieldSpans f) (joinChunks (plainChunks ", ") (vs.map Literal.chunks)) := by
    simpa using hh'.left.right
  have hhead := clauseWords_memberHead hm n hf neg
  refine ⟨.word (fieldWord g.marker n f) :: ((notWords neg).map .word ++
    (.word "IN".toList :: .lparen :: Literal.listTokens g.marker (n + fieldSpans f) vs ++
      [.rparen])), ?_, ?_⟩
  · -- the words before the list, then the list between its parentheses
    rw [guardedText_member]
    have := (Lexes.joinWords fun w hw => (hhead w hw).lexes).append (Lexes.blank.append
      (Lexes.lparen.append ((Lexes.listText hm (n + fieldSpans f) vs hvs).append Lexes.rparen
        (.inr (by simp; rfl))) (.inl (by simp; rfl))) (.inl (by simp; rfl))) (.blank _ _)
    simpa using this.tokenize
  · cases vs with
    | nil =>
      exact .leaf (fieldWord_fieldWord hfit hf hh'.left.left.left)
        (Tail.notWords (.inEmpty (by decide +kernel)))
    | cons v vs =>
      exact .leaf (fieldWord_fieldWord hfit hf hh'.left.left.left)
        (Tail.notWords (.inList (by decide +kernel)
          (listBody_listTokens hfit _ _ (List.cons_ne_nil _ _) hvs hhvs)))

/-- A pattern test is written as the field, the keywords and the placeholder of the pattern,
    and read back as itself. -/
theorem readClause_likeText {f : String} {pat : String} {neg : Bool}
    (hp : (Predicate.like f pat neg).Rereads) (hh : g.Holds n (Predicate.like f pat neg).chunks) :
    readClause DateTime.readLiteral? g .regex
        (guardedText g.marker n (Predicate.like f pat neg).chunks) =
      .ok (Predicate.like f pat neg) := by
  have hm := hfit.letters
  rw [readClause_eq_ok_iff]
  have hh' : g.Holds n (fieldChunks f ++ plainChunks (" " ++ notWord neg ++ "LIKE ") ++
      (Literal.text pat).chunks) := hh
  have hhp : g.Holds (n + fieldSpans f) (Literal.text pat).chunks := by simpa using hh'.right
  have hws := clauseWords_like hm n hp neg
  refine ⟨.word (fieldWord g.marker n f) :: ((notWords neg).map .word ++
    (.word "LIKE".toList :: [.word (placeholder g.marker (n + fieldSpans f))])), ?_, ?_⟩
  · rw [guardedText_like]
    simpa using (Lexes.joinWords fun w hw => (hws w hw).lexes).tokenize
  · -- the pattern is the text of its span, read as a regular expression as it is
    exact .leaf (fieldWord_fieldWord hfit hp hh'.left.left)
      (Tail.notWords (.like (by decide +kernel)
        (valueWords_words (v := .text pat) trivial (hhp.placed hfit))))

/-- A null test is written as the field and the keywords, and read back as itself. -/
theorem readClause_isNullText {f : String} {neg : Bool}
    (hp : (Predicate.isNull f neg).Rereads) (hh : g.Holds n (Predicate.isNull f neg).chunks) :
    readClause DateTime.readLiteral? g .regex
        (guardedText g.marker n (Predicate.isNull f neg).chunks) =
      .ok (Predicate.isNull f neg) := by
  have hm := hfit.letters
  rw [readClause_eq_ok_iff]
  have hh' : g.Holds n (fieldChunks f ++ plainChunks (" IS " ++ notWord neg ++ "NULL")) := hh
  have hws := clauseWords_isNull hm n hp neg
  refine ⟨(.word (fieldWord g.marker n f) :: .word "IS".toList :: (notWords neg).map .word ++
    [.word "NULL".toList]), ?_, ?_⟩
  · rw [guardedText_isNull]
    simpa using (Lexes.joinWords fun w hw => (hws w hw).lexes).tokenize
  · cases neg
    · exact .leaf (fieldWord_fieldWord hfit hp hh'.left) (.isNull (by decide +kernel) (by decide +kernel))
    · exact .leaf (fieldWord_fieldWord hfit hp hh'.left)
        (.isNotNull (by decide +kernel) (by decide +kernel) (by decide +kernel))

end Leaves

/-- The written form of a leaf that reads back, or of a constant, in a guarded text of a guard
    that fits, is read as a clause to the leaf itself. -/
theorem readClause_leafText {g : Guarded} (hfit : g.Fits) {n : Nat} {p : Predicate}
    (hp : p.Rereads) (hl : p.isLeaf = true) (hh : g.Holds n p.chunks) :
    readClause DateTime.readLiteral? g .regex (guardedText g.marker n p.chunks) = .ok p := by
  cases p with
  | const b =>
    rw [readClause_eq_ok_iff]
    cases b
    · rw [show guardedText g.marker n (Predicate.const false).chunks = ['0'] from rfl]
      exact ⟨[.word ['0']], (Lexes.word (by simp) (by simp; decide)).tokenize, .constFalse (.inl rfl)⟩
    · rw [show guardedText g.marker n (Predicate.const true).chunks = ['1'] from rfl]
      exact ⟨[.word ['1']], (Lexes.word (by simp) (by simp; decide)).tokenize, .constTrue (.inl rfl)⟩
  | compare f op v => exact readClause_compareText hfit hp hh
  | between f lo hi neg => exact readClause_betweenText hfit hp hh
  | member f vs neg => exact readClause_memberText hfit hp hh
  | like f pat neg => exact readClause_likeText hfit hp hh
  | isNull f neg => exact readClause_isNullText hfit hp hh
  | junction conn cs => simp [Predicate.isLeaf] at hl
  | negation c => simp [Predicate.isLeaf] at hl

end FilterQuery.Query

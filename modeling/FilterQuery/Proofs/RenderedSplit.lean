import FilterQuery.Proofs.GuardedRendering
import FilterQuery.Proofs.NestingDepth

/-!
# The splitter over written trees

The splitter cuts the guarded text of a written tree exactly where the tree has its
connectives and groups.

A leaf is written as clause words (a field, `NOT`, `IN`, `LIKE`, `IS`, `NULL`, the values:
each a run of characters that ends no word and is no keyword) with blanks and operators
between them, the `AND` of a `BETWEEN`, which the `BETWEEN` keeps in the clause, and for `IN`
a balanced list in parentheses after a text longer than `NOT`, which opens no group. So the
whole leaf is gathered into one clause (`Gathered.leaf`), whose text is the leaf's written
form: it is trimmed already (`Predicate.trim_leafText`).

A connective between blanks ends the piece before it (`walkLevel_connective`), and the end of
the text ends the last one (`walkLevel_end`). A child junction in parentheses, or a negation
written `NOT (…)`, is a group split one level deeper (`walkLevel_plainGroup`,
`walkLevel_negatedGroup`): the text in its parentheses is balanced
(`Predicate.closesBy_chunks`), so its closing parenthesis is the one written after it.

## Key results
- `Gathered.leaf`: a written leaf is gathered into one clause, whatever follows it after a blank
- `Level.Closes.clause`, `Level.Closes.group`: the level after a leaf or a group holds it as
  its last piece
- `walkLevel_connective`, `walkLevel_end`, `walkLevel_plainGroup`, `walkLevel_negatedGroup`:
  the steps of a level over the written children of a junction
- `Predicate.closesBy_chunks`: the written form of a tree is balanced
- `Predicate.isBlank_chunks`, `Predicate.isBlank_junction_chunks`: and it is not blank
-/

namespace FilterQuery.Text

/-! ## Trimmed texts -/

/-- White space behind a trimmed text is dropped by trimming. -/
theorem trim_append_ws {x v : List Char} (hx : trim x = x) (hv : ∀ c ∈ v, isWhiteSpace c = true) :
    trim (x ++ v) = x := by
  cases x with
  | nil =>
    rw [List.nil_append, trim, List.dropWhile_eq_nil_iff.2 hv]
    rfl
  | cons c x =>
    have hc : isWhiteSpace c = false := head?_trim (c := c) (by rw [hx]; rfl)
    have hfront : (c :: x).dropWhile isWhiteSpace = c :: x := List.dropWhile_cons_of_neg (by simp [hc])
    have hself := hx
    rw [trim, hfront] at hself
    rw [trim, List.cons_append, List.dropWhile_cons_of_neg (by simp [hc]), ← List.cons_append,
      List.reverse_append,
      List.dropWhile_append_of_pos (by simpa using hv)]
    exact hself

/-- Two trimmed texts with anything between them make a trimmed text. -/
theorem trim_append_append {x y : List Char} (z : List Char) (hx : trim x = x) (hy : trim y = y)
    (hxne : x ≠ []) (hyne : y ≠ []) : trim (x ++ z ++ y) = x ++ z ++ y := by
  apply trim_eq_self
  · intro c hc
    rw [List.append_assoc, List.head?_append_of_ne_nil _ hxne] at hc
    exact head?_trim (by rw [hx]; exact hc)
  · intro c hc
    rw [List.getLast?_append_of_ne_nil _ hyne] at hc
    exact getLast?_trim (by rw [hy]; exact hc)

/-- A text of another length is not the word. -/
theorem isWord_eq_false_of_length_ne {s : List Char} {word : String}
    (h : s.length ≠ word.toList.length) : isWord s word = false := by
  rw [isWord, eqIgnoreCase, beq_eq_false_iff_ne]
  intro he
  exact h (by simpa using congrArg List.length he)

end FilterQuery.Text

namespace FilterQuery.Query

/-! ## Balanced text -/

namespace ClosesBy

/-- A text that closes `j` more parentheses than it opens, then one that closes `k` more,
    together close `j + k` more. -/
theorem append {j k : Nat} {x y : List Char} (hx : ClosesBy j x) (hy : ClosesBy k y) :
    ClosesBy (j + k) (x ++ y) where
  prefix_le p hp := by
    rw [List.prefix_iff_eq_take, List.take_append] at hp
    by_cases hle : p.length ≤ x.length
    · have hpx : p <+: x := by
        rw [List.prefix_iff_eq_take]
        rw [Nat.sub_eq_zero_of_le hle, List.take_zero, List.append_nil] at hp
        exact hp
      have := hx.prefix_le p hpx
      omega
    · rw [List.take_of_length_le (by omega)] at hp
      have hq := hy.prefix_le _ (List.take_prefix (p.length - x.length) y)
      rw [hp, List.count_append, List.count_append, hx.total]
      omega
  total := by
    rw [List.count_append, List.count_append, hx.total, hy.total]
    omega

/-- A text with no parenthesis is balanced. -/
theorem of_no_paren {x : List Char} (h : ∀ c ∈ x, c ≠ '(' ∧ c ≠ ')') : ClosesBy 0 x := by
  induction x with
  | nil => exact nil
  | cons c x ih =>
    have hc := h c List.mem_cons_self
    refine cons (ih fun d hd => h d (List.mem_cons_of_mem c hd)) ?_
    simp [hc.1, hc.2]

/-- A balanced text between parentheses is balanced. -/
theorem wrap {x : List Char} (h : ClosesBy 0 x) : ClosesBy 0 ('(' :: (x ++ [')'])) := by
  have hclose : ClosesBy 1 [')'] := cons nil (by simp)
  have := h.append hclose
  exact cons this (by simp)

end ClosesBy

/-! ## Words -/

/-- A character that does not end a word is no white space and no parenthesis. -/
theorem ws_paren_of_not_delimiter {c : Char} (h : isWordDelimiter c = false) :
    Text.isWhiteSpace c = false ∧ c ≠ '(' ∧ c ≠ ')' := by
  simp only [isWordDelimiter, Bool.or_eq_false_iff, decide_eq_false_iff_not] at h
  exact ⟨h.1.1.1.1.1.1.1, h.1.1.1.1.1.1.2, h.1.1.1.1.1.2⟩

/-- No keyword starts a clause word. -/
theorem keywordAt_clauseWord {w : List Char} (hw : ClauseWord w) (p : Option Char) :
    keywordAt p w = none := by
  have hsplit := List.takeWhile_append_dropWhile (p := fun c : Char => c.isAlpha) (l := w)
  cases hd : w.dropWhile (fun c => c.isAlpha) with
  | nil =>
    -- the word is all letters, and none of the keywords
    rw [hd, List.append_nil] at hsplit
    have hk := hw.not_keyword
    simp only [List.mem_cons, List.not_mem_nil, or_false, forall_eq_or_imp, forall_eq] at hk
    simp [keywordAt, hsplit, hd, hk.1, hk.2.1, hk.2.2]
  | cons d ds =>
    -- the letters stop at a character that no keyword may stand before
    have hdmem : d ∈ w := (List.dropWhile_sublist _).subset (hd ▸ List.mem_cons_self)
    have hdw := ws_paren_of_not_delimiter (hw.not_delimiter d hdmem)
    have hb : boundaryAfter (d :: ds) = false := by simp [boundaryAfter, hdw.1, hdw.2.1]
    simp [keywordAt, hd, hb]

/-- What may follow a word without running into it: nothing, or white space. -/
def EndsWord (tail : List Char) : Prop :=
  tail = [] ∨ ∃ c t, tail = c :: t ∧ Text.isWhiteSpace c = true

theorem EndsWord.blank (t : List Char) : EndsWord (' ' :: t) := .inr ⟨' ', t, rfl, rfl⟩

theorem ClauseWord.trim_eq {w : List Char} (hw : ClauseWord w) : Text.trim w = w :=
  Text.trim_eq_self
    (fun c hc => (ws_paren_of_not_delimiter (hw.not_delimiter c (List.mem_of_mem_head? hc))).1)
    (fun c hc => (ws_paren_of_not_delimiter (hw.not_delimiter c (List.mem_of_getLast? hc))).1)

theorem joinWords_ne_nil {ws : List (List Char)} (hws : ∀ w ∈ ws, ClauseWord w) (hne : ws ≠ []) :
    joinWords ws ≠ [] := by
  obtain ⟨w, ws, rfl⟩ := List.exists_cons_of_ne_nil hne
  cases ws with
  | nil => exact (hws w List.mem_cons_self).ne_nil
  | cons v ws => simp [joinWords_cons_cons]

/-- Clause words joined by blanks are a trimmed text. -/
theorem trim_joinWords {ws : List (List Char)} (hws : ∀ w ∈ ws, ClauseWord w) :
    Text.trim (joinWords ws) = joinWords ws := by
  induction ws with
  | nil => rfl
  | cons w ws ih =>
    have hw := hws w List.mem_cons_self
    have hrest : ∀ x ∈ ws, ClauseWord x := fun x hx => hws x (List.mem_cons_of_mem w hx)
    cases ws with
    | nil => exact hw.trim_eq
    | cons v ws =>
      have := Text.trim_append_append [' '] hw.trim_eq (ih hrest) hw.ne_nil
        (joinWords_ne_nil hrest (List.cons_ne_nil _ _))
      simpa [joinWords_cons_cons] using this

theorem mem_joinWords {c : Char} : ∀ {ws : List (List Char)}, c ∈ joinWords ws →
    c = ' ' ∨ ∃ w ∈ ws, c ∈ w
  | [], h => absurd h List.not_mem_nil
  | [w], h => .inr ⟨w, List.mem_singleton_self w, h⟩
  | w :: v :: ws, h => by
    rw [joinWords_cons_cons, List.mem_append, List.mem_cons] at h
    rcases h with h | h | h
    · exact .inr ⟨w, List.mem_cons_self, h⟩
    · exact .inl h
    · rcases mem_joinWords h with h | ⟨x, hx, hcx⟩
      · exact .inl h
      · exact .inr ⟨x, List.mem_cons_of_mem w hx, hcx⟩

/-- Clause words joined by blanks hold no parenthesis. -/
theorem ne_paren_of_mem_joinWords {ws : List (List Char)} (hws : ∀ w ∈ ws, ClauseWord w) {c : Char}
    (hc : c ∈ joinWords ws) : c ≠ '(' ∧ c ≠ ')' := by
  rcases mem_joinWords hc with rfl | ⟨w, hw, hcw⟩
  · decide
  · exact (ws_paren_of_not_delimiter ((hws w hw).not_delimiter c hcw)).2

theorem ClauseWord.closesBy {w : List Char} (hw : ClauseWord w) : ClosesBy 0 w :=
  .of_no_paren fun c hc => (ws_paren_of_not_delimiter (hw.not_delimiter c hc)).2

theorem closesBy_joinWords {ws : List (List Char)} (hws : ∀ w ∈ ws, ClauseWord w) :
    ClosesBy 0 (joinWords ws) :=
  .of_no_paren fun _ hc => ne_paren_of_mem_joinWords hws hc

/-! ## Text gathered into a clause -/

/-- `Gathered b b' o u cs t`: from a level that has gathered the clause text `u`, with `b`
    telling whether a `BETWEEN` waits for its `AND` and `o` the character read last, the
    splitter reads all of `cs` into the clause, whatever text `t` follows, and leaves `b'`. -/
def Gathered (b b' : Bool) (o : Option Char) (u cs t : List Char) : Prop :=
  ∀ (maxDepth depth : Nat) (whole : List Char) (l : Level), l.currentRev = u.reverse →
    l.betweenOpen = b →
      walkLevel maxDepth depth whole l o (cs ++ t) =
        walkLevel maxDepth depth whole { l with currentRev := (u ++ cs).reverse, betweenOpen := b' }
          (cs.getLast?.or o) t

/-- Gathering `x` into a level that has gathered `u` gives the level that has gathered
    `u ++ x`. -/
theorem Level.gather_eq {l : Level} {u : List Char} {b : Bool} (hl : l.currentRev = u.reverse)
    (hb : l.betweenOpen = b) (x : List Char) :
    { l with currentRev := x.reverse ++ l.currentRev } =
      { l with currentRev := (u ++ x).reverse, betweenOpen := b } := by
  cases l
  simp only at hl hb
  simp [hl, hb]

namespace Gathered

variable {b b₁ b₂ b₃ : Bool} {o : Option Char} {u t : List Char}

theorem append {xs ys : List Char} (h₁ : Gathered b₁ b₂ o u xs (ys ++ t))
    (h₂ : Gathered b₂ b₃ (xs.getLast?.or o) (u ++ xs) ys t) :
    Gathered b₁ b₃ o u (xs ++ ys) t := by
  intro maxDepth depth whole l hl hb
  rw [List.append_assoc, h₁ maxDepth depth whole l hl hb, h₂ maxDepth depth whole _ (by simp) rfl,
    getLast?_append_or]
  simp

/-- A character that is no parenthesis and starts no keyword. -/
theorem char {c : Char} (hl : c ≠ '(') (hr : c ≠ ')') (hk : keywordAt o (c :: t) = none) :
    Gathered b b o u [c] t := by
  intro maxDepth depth whole l hl' hb
  rw [List.singleton_append, walkLevel_cons_of_keywordAt_none hl hr hk]
  have := Level.gather_eq hl' hb [c]
  simp only [List.reverse_singleton, List.singleton_append] at this
  rw [this]
  rfl

theorem nil : Gathered b b o u [] t := by
  intro maxDepth depth whole l hl hb
  have := Level.gather_eq hl hb []
  simp only [List.reverse_nil, List.nil_append] at this
  simp only [List.nil_append, List.getLast?_nil, Option.none_or]
  rw [← this]

/-- Characters that are neither letters nor parentheses start no keyword. -/
theorem nonLetters {w : List Char} (hw : ∀ c ∈ w, c.isAlpha = false ∧ c ≠ '(' ∧ c ≠ ')') :
    Gathered b b o u w t := by
  induction w generalizing o u with
  | nil => exact nil
  | cons c w ih =>
    obtain ⟨ha, hl, hr⟩ := hw c List.mem_cons_self
    have hk : keywordAt o (c :: (w ++ t)) = none := by
      simp [keywordAt, ha]
    exact (char (t := w ++ t) hl hr hk).append (ih fun d hd => hw d (List.mem_cons_of_mem c hd))

/-- Inside a word, after a character that no keyword may follow, no keyword starts. -/
theorem inWord {w : List Char} (hprev : boundaryBefore o = false)
    (hw : ∀ c ∈ w, c ≠ '(' ∧ c ≠ ')' ∧ boundaryBefore (some c) = false) :
    Gathered b b o u w t := by
  induction w generalizing o u with
  | nil => exact nil
  | cons c w ih =>
    obtain ⟨hl, hr, hb⟩ := hw c List.mem_cons_self
    exact (char (t := w ++ t) hl hr (keywordAt_of_boundaryBefore hprev _)).append
      (ih hb fun d hd => hw d (List.mem_cons_of_mem c hd))

/-- A clause word followed by white space or by nothing is gathered: no keyword starts at its
    first character, and none starts after that inside it. -/
theorem word {w : List Char} (hw : ClauseWord w) (htail : EndsWord t) :
    Gathered b b o u w t := by
  obtain ⟨c, w', rfl⟩ := List.exists_cons_of_ne_nil hw.ne_nil
  have hchar : ∀ d ∈ c :: w', d ≠ '(' ∧ d ≠ ')' ∧ boundaryBefore (some d) = false := by
    intro d hd
    obtain ⟨hws, hl, hr⟩ := ws_paren_of_not_delimiter (hw.not_delimiter d hd)
    exact ⟨hl, hr, by simp [boundaryBefore, hws, hr]⟩
  have hk : keywordAt o (c :: (w' ++ t)) = none := by
    rw [← List.cons_append, keywordAt_append (by rcases htail with h | h; exacts [.inl h, .inr (.inl h)]),
      keywordAt_clauseWord hw]
    rfl
  obtain ⟨hl, hr, hb⟩ := hchar c List.mem_cons_self
  exact (char (t := w' ++ t) hl hr hk).append
    (inWord hb fun d hd => hchar d (List.mem_cons_of_mem c hd))

/-- `BETWEEN`, after which an `AND` is waited for. -/
theorem between {w : List Char} (hk : keywordAt o (w ++ t) = some (.between, w, t)) :
    Gathered b true o u w t := by
  intro maxDepth depth whole l hl hb
  obtain ⟨c, w', rfl, -, hcl, hcr, -⟩ := keywordAt_cons hk
  rw [List.cons_append] at hk ⊢
  rw [walkLevel_keyword hcl hcr hk]
  have hrev : (c :: w').reverse ++ u.reverse = (u ++ c :: w').reverse := by simp
  have hlast : (c :: w').getLast?.or o = (c :: w').getLast? := by simp [List.getLast?_cons]
  simp only
  rw [hl, hrev, hlast]

/-- The `AND` a `BETWEEN` waits for. -/
theorem claim {w : List Char} (hk : keywordAt o (w ++ t) = some (.connective .and, w, t)) :
    Gathered true false o u w t := by
  intro maxDepth depth whole l hl hb
  obtain ⟨c, w', rfl, -, hcl, hcr, -⟩ := keywordAt_cons hk
  rw [List.cons_append] at hk ⊢
  rw [walkLevel_keyword hcl hcr hk]
  have hrev : (c :: w').reverse ++ u.reverse = (u ++ c :: w').reverse := by simp
  have hlast : (c :: w').getLast?.or o = (c :: w').getLast? := by simp [List.getLast?_cons]
  simp only [hb, if_true]
  rw [hl, hrev, hlast]

/-- A balanced span in parentheses, after a head that opens no group, is clause text. -/
theorem span {inner : List Char} (hc : ClosesBy 0 inner) (hg : opensGroup u = false) :
    Gathered b b o u ('(' :: (inner ++ [')'])) t := by
  intro maxDepth depth whole l hl hb
  have hclose : closeParen 0 [] (inner ++ ')' :: t) = some (inner, t) := by
    rw [closeParen_append_of_closesBy (d := 0) _ hc]
    simp [closeParen]
  rw [List.cons_append, List.append_assoc, List.singleton_append, walkLevel_open_some hclose]
  have hhead : l.currentText = Text.trim u := by simp [Level.currentText, hl]
  have hg' : ((Text.trim u).isEmpty || Text.isWord (Text.trim u) "not") = false := hg
  have hlast : ('(' :: (inner ++ [')'])).getLast?.or o = some ')' := by
    rw [← List.cons_append, List.getLast?_concat, Option.some_or]
  rw [hhead, hg', if_neg Bool.false_ne_true, Level.gather_eq hl hb ('(' :: inner ++ [')']), hlast]
  simp

/-- Clause words separated by blanks, followed by white space or by nothing, are gathered. -/
theorem joinWords {ws : List (List Char)} (hws : ∀ w ∈ ws, ClauseWord w) (htail : EndsWord t) :
    Gathered b b o u (Query.joinWords ws) t := by
  induction ws generalizing o u with
  | nil => exact nil
  | cons w ws ih =>
    cases ws with
    | nil => exact word (hws w List.mem_cons_self) htail
    | cons v ws =>
      have hw := word (b := b) (o := o) (u := u)
        (t := ' ' :: (Query.joinWords (v :: ws) ++ t)) (hws w List.mem_cons_self) (.blank _)
      have hblank := nonLetters (b := b) (o := w.getLast?.or o) (u := u ++ w)
        (t := Query.joinWords (v :: ws) ++ t) (w := [' ']) (by simp)
      have hrest := ih (o := ([' '] : List Char).getLast?.or (w.getLast?.or o))
        (u := u ++ w ++ [' ']) fun x hx => hws x (List.mem_cons_of_mem w hx)
      have := hw.append (hblank.append hrest)
      simpa [joinWords_cons_cons] using this

/-- `BETWEEN` between blanks is kept in the clause, and an `AND` is waited for. -/
theorem blankBetween : Gathered b true o u (' ' :: ("BETWEEN".toList ++ [' '])) t := by
  have hk : keywordAt (some ' ') ("BETWEEN".toList ++ ([' '] ++ t)) =
      some (.between, "BETWEEN".toList, [' '] ++ t) := by
    rw [List.singleton_append, keywordAt_append (.inr (.inl ⟨' ', t, rfl, rfl⟩))]
    rfl
  have := (nonLetters (b := b) (o := o) (u := u) (w := [' ']) (by simp)).append
    ((between (o := some ' ') hk).append (nonLetters (w := [' ']) (by simp)))
  simpa using this

/-- The `AND` a `BETWEEN` waits for, between blanks, is kept in the clause. -/
theorem blankClaim : Gathered true false o u (' ' :: ("AND".toList ++ [' '])) t := by
  have hk : keywordAt (some ' ') ("AND".toList ++ ([' '] ++ t)) =
      some (.connective .and, "AND".toList, [' '] ++ t) := by
    rw [List.singleton_append, keywordAt_append (.inr (.inl ⟨' ', t, rfl, rfl⟩))]
    rfl
  have := (nonLetters (b := true) (o := o) (u := u) (w := [' ']) (by simp)).append
    ((claim (o := some ' ') hk).append (nonLetters (w := [' ']) (by simp)))
  simpa using this

end Gathered

/-! ## The written leaves -/

/-- The keywords a leaf is written with are clause words: the splitter passes over them. -/
theorem clauseWord_leafKeyword {s : String} (hs : s ∈ ["NOT", "IN", "LIKE", "IS", "NULL"]) :
    ClauseWord s.toList := by
  simp only [List.mem_cons, List.not_mem_nil, or_false] at hs
  rcases hs with rfl | rfl | rfl | rfl | rfl <;>
    exact ⟨by simp, by simp; decide, by decide +kernel⟩

theorem clauseWord_notWords (neg : Bool) : ∀ w ∈ notWords neg, ClauseWord w := by
  cases neg
  · simp [notWords]
  · simp only [notWords, if_true, List.mem_singleton, forall_eq]
    exact clauseWord_leafKeyword (by simp)

/-- The values of an `IN` list, written, hold no parenthesis. -/
theorem Literal.ne_paren_of_mem_listText {m : List Char} (hm : ∀ c ∈ m, c ∈ markerAlphabet) :
    ∀ (k : Nat) (vs : List Literal), (∀ v ∈ vs, v.Rereadable) →
      ∀ c ∈ Literal.listText m k vs, c ≠ '(' ∧ c ≠ ')'
  | _, [], _, c, hc => absurd hc List.not_mem_nil
  | k, [v], hvs, c, hc =>
    ne_paren_of_mem_joinWords
      (fun w hw => v.clauseWord_of_mem_words hm (hvs v List.mem_cons_self) hw) hc
  | k, v :: v' :: vs, hvs, c, hc => by
    simp only [Literal.listText, List.mem_append, List.mem_cons] at hc
    rcases hc with hc | rfl | rfl | hc
    · exact ne_paren_of_mem_joinWords
        (fun w hw => v.clauseWord_of_mem_words hm (hvs v List.mem_cons_self) hw) hc
    · decide
    · decide
    · exact Literal.ne_paren_of_mem_listText hm _ (v' :: vs)
        (fun x hx => hvs x (List.mem_cons_of_mem v hx)) c hc

section Leaves

variable {m : List Char} (hm : ∀ c ∈ m, c ∈ markerAlphabet) (n : Nat) {b : Bool}
  {o : Option Char} {u t : List Char} {f : String}
include hm

/-! The words a leaf is written with, before its values, are clause words. -/

theorem clauseWords_head (hf : FieldRereads f) (neg : Bool) :
    ∀ w ∈ fieldWord m n f :: notWords neg, ClauseWord w :=
  List.forall_mem_cons.2 ⟨clauseWord_fieldWord hm n hf, clauseWord_notWords neg⟩

theorem clauseWords_memberHead (hf : FieldRereads f) (neg : Bool) :
    ∀ w ∈ fieldWord m n f :: notWords neg ++ ["IN".toList], ClauseWord w :=
  List.forall_mem_append.2 ⟨clauseWords_head hm n hf neg,
    List.forall_mem_singleton.2 (clauseWord_leafKeyword (by simp))⟩

theorem clauseWords_like (hf : FieldRereads f) (neg : Bool) :
    ∀ w ∈ fieldWord m n f :: notWords neg ++ ["LIKE".toList, placeholder m (n + fieldSpans f)],
      ClauseWord w :=
  List.forall_mem_append.2 ⟨clauseWords_head hm n hf neg, List.forall_mem_cons.2
    ⟨clauseWord_leafKeyword (by simp), List.forall_mem_singleton.2 (clauseWord_placeholder hm _)⟩⟩

theorem clauseWords_isNull (hf : FieldRereads f) (neg : Bool) :
    ∀ w ∈ fieldWord m n f :: "IS".toList :: notWords neg ++ ["NULL".toList], ClauseWord w :=
  List.forall_mem_append.2 ⟨List.forall_mem_cons.2 ⟨clauseWord_fieldWord hm n hf,
    List.forall_mem_cons.2 ⟨clauseWord_leafKeyword (by simp), clauseWord_notWords neg⟩⟩,
    List.forall_mem_singleton.2 (clauseWord_leafKeyword (by simp))⟩

theorem clauseWords_literal {v : Literal} (hv : v.Rereadable) (k : Nat) :
    ∀ w ∈ v.words m k, ClauseWord w :=
  fun _ hw => v.clauseWord_of_mem_words hm hv hw

/-- The written form of a leaf, or of a constant, is gathered into one clause. -/
theorem Gathered.leaf {p : Predicate} (hp : p.Rereads) (hl : p.isLeaf = true)
    (hcur : ∀ c ∈ u, Text.isWhiteSpace c = true) (htail : EndsWord t) :
    Gathered false false o u (guardedText m n p.chunks) t := by
  cases p with
  | const b => cases b <;> exact Gathered.nonLetters (by simp [Predicate.chunks])
  | compare f op v =>
    obtain ⟨hf, hv, -⟩ := hp
    rw [guardedText_compare]
    -- the field, the operator between blanks, and the words of the value
    have hop : ∀ c ∈ ' ' :: (op.symbol.toList ++ [' ']), c.isAlpha = false ∧ c ≠ '(' ∧ c ≠ ')' := by
      cases op <;> simp [CompareOp.symbol]
    have := (Gathered.word (b := false) (o := o) (u := u) (clauseWord_fieldWord hm n hf)
      (.blank _)).append ((Gathered.nonLetters hop).append
        (Gathered.joinWords (clauseWords_literal hm hv (n + fieldSpans f)) htail))
    simpa using this
  | between f lo hi neg =>
    obtain ⟨hf, hlo, hhi⟩ := hp
    rw [guardedText_between]
    -- `BETWEEN` keeps the `AND` after the low value in the clause
    have := (Gathered.joinWords (b := false) (o := o) (u := u) (clauseWords_head hm n hf neg)
      (.blank _)).append (Gathered.blankBetween.append
        ((Gathered.joinWords (clauseWords_literal hm hlo (n + fieldSpans f)) (.blank _)).append
          (Gathered.blankClaim.append
            (Gathered.joinWords (clauseWords_literal hm hhi (n + fieldSpans f + lo.spanCount))
              htail))))
    simpa using this
  | member f vs neg =>
    obtain ⟨hf, hvs⟩ := hp
    rw [guardedText_member]
    have hhead := clauseWords_memberHead hm n hf neg
    have hbal : ClosesBy 0 (Literal.listText m (n + fieldSpans f) vs) :=
      .of_no_paren (Literal.ne_paren_of_mem_listText hm _ vs hvs)
    -- what comes before the list is longer than `NOT`, so the list opens no group
    have hlen : 4 ≤ (Query.joinWords (fieldWord m n f :: notWords neg ++ ["IN".toList])).length := by
      have hfw := List.length_pos_of_ne_nil (clauseWord_fieldWord hm n hf).ne_nil
      rw [joinWords_append (by simp) (by simp)]
      cases neg
      · simp [notWords, Query.joinWords]
        omega
      · simp [notWords, Query.joinWords]
    have hne : Query.joinWords (fieldWord m n f :: notWords neg ++ ["IN".toList]) ≠ [] :=
      List.ne_nil_of_length_pos (by omega)
    have hnot : ("not" : String).toList.length = 3 := by simp
    have hg : opensGroup (u ++ Query.joinWords (fieldWord m n f :: notWords neg ++ ["IN".toList]) ++
        [' ']) = false := by
      rw [List.append_assoc, opensGroup_ws_append hcur, opensGroup,
        Text.trim_append_ws (trim_joinWords hhead) (by simp; rfl),
        Text.isWord_eq_false_of_length_ne (by omega)]
      simpa using hne
    have := (Gathered.joinWords (b := false) (o := o) (u := u) hhead (.blank _)).append
      ((Gathered.nonLetters (w := [' ']) (by simp)).append (Gathered.span (t := t) hbal hg))
    simpa using this
  | like f pat neg =>
    rw [guardedText_like]
    exact Gathered.joinWords (clauseWords_like hm n hp neg) htail
  | isNull f neg =>
    rw [guardedText_isNull]
    exact Gathered.joinWords (clauseWords_isNull hm n hp neg) htail
  | junction conn cs => simp [Predicate.isLeaf] at hl
  | negation c => simp [Predicate.isLeaf] at hl

/-- The written form of a leaf, or of a constant, is a trimmed text that is not empty. -/
theorem Predicate.trim_leafText {p : Predicate} (hp : p.Rereads) (hl : p.isLeaf = true) :
    Text.trim (guardedText m n p.chunks) = guardedText m n p.chunks ∧
      guardedText m n p.chunks ≠ [] := by
  cases p with
  | const b => cases b <;> exact ⟨rfl, by simp [Predicate.chunks]⟩
  | compare f op v =>
    obtain ⟨hf, hv, -⟩ := hp
    rw [guardedText_compare]
    have hfw := clauseWord_fieldWord hm n hf
    have hval := clauseWords_literal hm hv (n + fieldSpans f)
    have := Text.trim_append_append (' ' :: (op.symbol.toList ++ [' '])) hfw.trim_eq
      (trim_joinWords hval) hfw.ne_nil (joinWords_ne_nil hval (Literal.words_ne_nil v _ _))
    exact ⟨by simpa using this, by simp⟩
  | between f lo hi neg =>
    obtain ⟨hf, hlo, hhi⟩ := hp
    rw [guardedText_between]
    have hhead := clauseWords_head hm n hf neg
    have hhigh := clauseWords_literal hm hhi (n + fieldSpans f + lo.spanCount)
    have := Text.trim_append_append
      (' ' :: ("BETWEEN".toList ++ ' ' :: (Query.joinWords (lo.words m (n + fieldSpans f)) ++
        ' ' :: ("AND".toList ++ [' ']))))
      (trim_joinWords hhead) (trim_joinWords hhigh) (joinWords_ne_nil hhead (by simp))
      (joinWords_ne_nil hhigh (Literal.words_ne_nil hi _ _))
    exact ⟨by simpa using this, by simp⟩
  | member f vs neg =>
    obtain ⟨hf, -⟩ := hp
    rw [guardedText_member]
    have hhead := clauseWords_memberHead hm n hf neg
    have := Text.trim_append_append (' ' :: '(' :: Literal.listText m (n + fieldSpans f) vs)
      (trim_joinWords hhead) (y := [')']) rfl (joinWords_ne_nil hhead (by simp)) (by simp)
    exact ⟨by simpa using this, by simp⟩
  | like f pat neg =>
    rw [guardedText_like]
    have hws := clauseWords_like hm n hp neg
    exact ⟨trim_joinWords hws, joinWords_ne_nil hws (by simp)⟩
  | isNull f neg =>
    rw [guardedText_isNull]
    have hws := clauseWords_isNull hm n hp neg
    exact ⟨trim_joinWords hws, joinWords_ne_nil hws (by simp)⟩
  | junction conn cs => simp [Predicate.isLeaf] at hl
  | negation c => simp [Predicate.isLeaf] at hl

/-- The written form of a leaf, or of a constant, is balanced: only an `IN` list has
    parentheses, one pair. -/
theorem Predicate.closesBy_leafText {p : Predicate} (hp : p.Rereads) (hl : p.isLeaf = true) :
    ClosesBy 0 (guardedText m n p.chunks) := by
  cases p with
  | const b => cases b <;> exact .of_no_paren (by simp [Predicate.chunks])
  | compare f op v =>
    obtain ⟨hf, hv, -⟩ := hp
    rw [guardedText_compare]
    have hop : ∀ c ∈ ' ' :: (op.symbol.toList ++ [' ']), c ≠ '(' ∧ c ≠ ')' := by
      cases op <;> simp [CompareOp.symbol]
    have := (clauseWord_fieldWord hm n hf).closesBy.append ((ClosesBy.of_no_paren hop).append
      (closesBy_joinWords (clauseWords_literal hm hv (n + fieldSpans f))))
    simpa using this
  | between f lo hi neg =>
    obtain ⟨hf, hlo, hhi⟩ := hp
    rw [guardedText_between]
    have := (closesBy_joinWords (clauseWords_head hm n hf neg)).append
      ((ClosesBy.of_no_paren (x := ' ' :: ("BETWEEN".toList ++ [' '])) (by simp)).append
        ((closesBy_joinWords (clauseWords_literal hm hlo (n + fieldSpans f))).append
          ((ClosesBy.of_no_paren (x := ' ' :: ("AND".toList ++ [' '])) (by simp)).append
            (closesBy_joinWords (clauseWords_literal hm hhi (n + fieldSpans f + lo.spanCount))))))
    simpa using this
  | member f vs neg =>
    obtain ⟨hf, hvs⟩ := hp
    rw [guardedText_member]
    have := (closesBy_joinWords (clauseWords_memberHead hm n hf neg)).append
      ((ClosesBy.of_no_paren (x := [' ']) (by simp)).append
        (ClosesBy.of_no_paren (Literal.ne_paren_of_mem_listText hm (n + fieldSpans f) vs hvs)).wrap)
    simpa using this
  | like f pat neg =>
    rw [guardedText_like]
    exact closesBy_joinWords (clauseWords_like hm n hp neg)
  | isNull f neg =>
    rw [guardedText_isNull]
    exact closesBy_joinWords (clauseWords_isNull hm n hp neg)
  | junction conn cs => simp [Predicate.isLeaf] at hl
  | negation c => simp [Predicate.isLeaf] at hl

end Leaves

/-! ## Balanced written forms -/

section Balanced

variable {m : List Char}

/-- Chunk lists joined by a separator are balanced when the separator and each of them are,
    wherever their spans are numbered from. -/
theorem closesBy_guardedText_joinChunks {sep : List Chunk}
    (hsep : ∀ k, ClosesBy 0 (guardedText m k sep)) :
    ∀ {xs : List (List Chunk)}, (∀ x ∈ xs, ∀ k, ClosesBy 0 (guardedText m k x)) →
      ∀ k, ClosesBy 0 (guardedText m k (joinChunks sep xs))
  | [], _, _ => ClosesBy.nil
  | [x], h, k => h x (List.mem_singleton_self x) k
  | x :: y :: xs, h, k => by
    rw [joinChunks_cons_cons, guardedText_append, guardedText_append]
    have hrest : ClosesBy 0 (guardedText m (k + (spansOf (x ++ sep)).length)
        (joinChunks sep (y :: xs))) :=
      closesBy_guardedText_joinChunks hsep (fun z hz => h z (List.mem_cons_of_mem x hz)) _
    exact ((h x List.mem_cons_self k).append (hsep (k + (spansOf x).length))).append hrest

theorem closesBy_plainChunks {s : String} (h : ∀ c ∈ s.toList, c ≠ '(' ∧ c ≠ ')') (k : Nat) :
    ClosesBy 0 (guardedText m k (plainChunks s)) := by
  rw [guardedText_plainChunks]
  exact .of_no_paren h

mutual

/-- The written form of a tree whose leaves read back is balanced. -/
theorem Predicate.closesBy_chunks (hm : ∀ c ∈ m, c ∈ markerAlphabet) :
    ∀ t : Predicate, (∀ q ∈ t.leaves, q.Rereads) →
    ∀ k, ClosesBy 0 (guardedText m k t.chunks)
  | .junction conn cs, h, k => by
    rw [Predicate.chunks]
    exact closesBy_guardedText_joinChunks
      (closesBy_plainChunks (by cases conn <;> simp [Connective.keyword]))
      (Predicate.closesBy_childChunks hm cs (by simpa using h)) k
  | .negation c, h, k => by
    have hc := Predicate.closesBy_chunks hm c (by simpa using h) k
    have e : "NOT (".toList = "NOT ".toList ++ ['('] := rfl
    simp only [Predicate.chunks, guardedText_append, guardedText_plainChunks, e]
    have := (ClosesBy.of_no_paren (x := "NOT ".toList) (by simp)).append hc.wrap
    simpa using this
  | .const b, _, k => Predicate.closesBy_leafText hm k trivial rfl
  | .compare f op v, h, k =>
    Predicate.closesBy_leafText hm k (h _ (by simp [Predicate.leaves])) rfl
  | .between f lo hi n, h, k =>
    Predicate.closesBy_leafText hm k (h _ (by simp [Predicate.leaves])) rfl
  | .member f vs n, h, k =>
    Predicate.closesBy_leafText hm k (h _ (by simp [Predicate.leaves])) rfl
  | .like f pat n, h, k =>
    Predicate.closesBy_leafText hm k (h _ (by simp [Predicate.leaves])) rfl
  | .isNull f n, h, k =>
    Predicate.closesBy_leafText hm k (h _ (by simp [Predicate.leaves])) rfl

theorem Predicate.closesBy_childChunks (hm : ∀ c ∈ m, c ∈ markerAlphabet) :
    ∀ cs : List Predicate, (∀ q ∈ Predicate.leavesAll cs, q.Rereads) →
      ∀ x ∈ Predicate.childChunks cs, ∀ k, ClosesBy 0 (guardedText m k x)
  | [], _, x, hx, _ => by simp [Predicate.childChunks] at hx
  | p :: rest, h, x, hx, k => by
    simp only [Predicate.leavesAll_cons, List.mem_append] at h
    have hrest := Predicate.closesBy_childChunks hm rest (fun q hq => h q (.inr hq))
    cases p with
    | junction conn cs =>
      simp only [Predicate.childChunks, List.mem_cons] at hx
      rcases hx with rfl | hx
      · have hc := Predicate.closesBy_chunks hm (.junction conn cs) (fun q hq => h q (.inl hq)) k
        simp only [guardedText_append, guardedText_plainChunks]
        simpa using hc.wrap
      · exact hrest x hx k
    | _ =>
      simp only [Predicate.childChunks, List.mem_cons] at hx
      rcases hx with rfl | hx
      · exact Predicate.closesBy_chunks hm _ (fun q hq => h q (.inl hq)) k
      · exact hrest x hx k

end

end Balanced

/-! ## Written forms that are not blank -/

section NotBlank

variable {m : List Char} (hm : ∀ c ∈ m, c ∈ markerAlphabet) (k : Nat)
include hm

/-- The written form of a leaf, or of a constant, holds a character that is no white space. -/
theorem Predicate.isBlank_leafText {p : Predicate} (hp : p.Rereads) (hl : p.isLeaf = true) :
    Text.isBlank (guardedText m k p.chunks) = false := by
  obtain ⟨htrim, hne⟩ := p.trim_leafText hm k hp hl
  rw [← htrim]
  exact Text.isBlank_trim_eq_false (by rw [htrim]; exact hne)

/-- The written form of a tree that is no junction holds a character that is no white space. -/
theorem Predicate.isBlank_chunks {t : Predicate} (ht : ∀ q ∈ t.leaves, q.Rereads)
    (hj : ∀ conn cs, t ≠ .junction conn cs) : Text.isBlank (guardedText m k t.chunks) = false := by
  cases hl : t.isLeaf
  · -- a negation is written from `NOT`
    cases t with
    | negation c =>
      have hN : Text.isWhiteSpace 'N' = false := rfl
      simp [Predicate.chunks, guardedText_append, Text.isBlank, hN]
    | junction conn cs => exact absurd rfl (hj conn cs)
    | _ => simp [Predicate.isLeaf] at hl
  · exact Predicate.isBlank_leafText hm k
      (ht t (by cases t <;> simp_all [Predicate.leaves, Predicate.isLeaf])) hl

omit hm in
theorem isBlank_guardedText_joinChunks {sep x : List Chunk} {xs : List (List Chunk)}
    (h : Text.isBlank (guardedText m k x) = false) :
    Text.isBlank (guardedText m k (joinChunks sep (x :: xs))) = false := by
  cases xs with
  | nil => exact h
  | cons y xs =>
    rw [joinChunks_cons_cons, List.append_assoc, guardedText_append]
    simp only [Text.isBlank, List.all_append] at h ⊢
    simp [h]

/-- The written form of a junction with children is not blank: its first child, or the
    parenthesis before it, is not. -/
theorem Predicate.isBlank_junction_chunks {conn : Connective} {c : Predicate} {cs : List Predicate}
    (ht : ∀ q ∈ (Predicate.junction conn (c :: cs)).leaves, q.Rereads) :
    Text.isBlank (guardedText m k (Predicate.junction conn (c :: cs)).chunks) = false := by
  have hc : ∀ q ∈ c.leaves, q.Rereads := fun q hq => ht q (by simp [hq])
  cases c with
  | junction conn' cs' =>
    have hp : Text.isWhiteSpace '(' = false := rfl
    simp only [Predicate.chunks, Predicate.childChunks]
    apply isBlank_guardedText_joinChunks
    simp [guardedText_append, Text.isBlank, hp]
  | _ =>
    simp only [Predicate.chunks, Predicate.childChunks]
    exact isBlank_guardedText_joinChunks k (Predicate.isBlank_chunks hm k hc (by simp))

end NotBlank

/-- A text that is not blank is split by walking it from an empty level. -/
theorem splitLevel_of_isBlank_eq_false {maxDepth depth : Nat} {text : List Char}
    (h : Text.isBlank text = false) :
    splitLevel maxDepth depth text = walkLevel maxDepth depth text {} none text := by
  rw [splitLevel, if_neg (by simp [h])]

/-! ## Steps of a level -/

/-- `S.Closes P R`: the level `S` holds the pieces `R` (the last first) and then `P`, whether
    its text ends here or a blank and a connective follow. -/
structure Level.Closes (S : Level) (P : Piece) (R : List Piece) : Prop where
  between : S.betweenOpen = false
  finish : S.finish = .ok (P :: R).reverse
  connect : ({ S with currentRev := ' ' :: S.currentRev } : Level).finishClause =
    .ok ⟨P :: R, none, [], false, false⟩

theorem isWhiteSpace_blank : Text.isWhiteSpace ' ' = true := rfl

namespace Level.Closes

/-- A clause text gathered after white space closes as that clause. -/
theorem clause {R : List Piece} {pend : Option Connective} {u x : List Char}
    (hu : ∀ c ∈ u, Text.isWhiteSpace c = true) (hx : Text.trim x = x) :
    Level.Closes ⟨R, pend, (u ++ x).reverse, false, false⟩ (.clause (pend.getD .and) x) R where
  between := rfl
  finish := by
    have htrim : Text.trim (u ++ x) = x := by rw [Text.trim_ws_append hu, hx]
    simp [Level.finish, Level.finishClause, Level.currentText, Level.connective, htrim]
  connect := by
    have htrim : Text.trim (u ++ (x ++ [' '])) = x := by
      rw [Text.trim_ws_append hu, Text.trim_append_ws hx (by simp [isWhiteSpace_blank])]
    simp [Level.finishClause, Level.currentText, Level.connective, htrim]

/-- A group just read closes as that group. -/
theorem group {R : List Piece} {P : Piece} : Level.Closes ⟨P :: R, none, [], true, false⟩ P R where
  between := rfl
  finish := by simp [Level.finish, Text.isBlank]
  connect := by
    have htrim : Text.trim [' '] = [] := rfl
    simp [Level.finishClause, Level.currentText, htrim]

end Level.Closes

section Steps

variable {maxDepth depth : Nat} {whole : List Char} {S : Level} {P : Piece} {R : List Piece}

/-- A level whose text ends holds its pieces. -/
theorem walkLevel_end (h : S.Closes P R) (o : Option Char) :
    walkLevel maxDepth depth whole S o [] = .ok (P :: R).reverse := by
  rw [walkLevel.eq_1]
  exact h.finish

theorem keywordAt_connective (conn : Connective) (rest : List Char) :
    keywordAt (some ' ') (conn.keyword.toList ++ ' ' :: rest) =
      some (.connective conn, conn.keyword.toList, ' ' :: rest) := by
  rw [keywordAt_append (.inr (.inl ⟨' ', rest, rfl, rfl⟩))]
  cases conn <;> rfl

/-- A connective between blanks ends the piece before it and waits for the next. -/
theorem walkLevel_connective (h : S.Closes P R) (o : Option Char) (conn : Connective)
    (rest : List Char) :
    walkLevel maxDepth depth whole S o (' ' :: (conn.keyword.toList ++ ' ' :: rest)) =
      walkLevel maxDepth depth whole ⟨P :: R, some conn, [' '], false, false⟩ (some ' ') rest := by
  have hblank : ∀ p : Option Char, ∀ r, keywordAt p (' ' :: r) = none := by
    intro p r
    simp [keywordAt]
  rw [walkLevel_cons_of_keywordAt_none (by decide) (by decide) (hblank o _)]
  obtain ⟨c, w, hcw, hc₁, hc₂⟩ : ∃ c w, conn.keyword.toList = c :: w ∧ c ≠ '(' ∧ c ≠ ')' := by
    cases conn
    exacts [⟨_, _, rfl, by decide, by decide⟩, ⟨_, _, rfl, by decide, by decide⟩]
  have hkw := keywordAt_connective conn rest
  rw [hcw, List.cons_append] at hkw ⊢
  rw [walkLevel_keyword hc₁ hc₂ hkw]
  -- the connective ends the clause: no `BETWEEN` waits for an `AND`
  cases conn
  · rw [if_neg (by simp [h.between]), h.connect]
    dsimp only
    rw [walkLevel_cons_of_keywordAt_none (by decide) (by decide) (hblank _ _)]
  · rw [h.connect]
    dsimp only
    rw [walkLevel_cons_of_keywordAt_none (by decide) (by decide) (hblank _ _)]

/-- A balanced span after a head that is empty or `NOT` is a group, split one level deeper. -/
theorem walkLevel_group {l : Level} {o : Option Char} {inner rest : List Char} {ps : List Piece}
    (hc : ClosesBy 0 inner) (hhead : opensGroup l.currentRev.reverse = true)
    (hafter : l.afterGroup = false) (hd : depth + 1 ≤ maxDepth)
    (hsplit : splitLevel maxDepth (depth + 1) inner = .ok ps) (hne : ps ≠ []) :
    walkLevel maxDepth depth whole l o ('(' :: (inner ++ ')' :: rest)) =
      walkLevel maxDepth depth whole
        { l with piecesRev := .group l.connective (!l.currentText.isEmpty) ps :: l.piecesRev,
                 pending := none, currentRev := [], afterGroup := true } (some ')') rest := by
  have hclose : closeParen 0 [] (inner ++ ')' :: rest) = some (inner, rest) := by
    rw [closeParen_append_of_closesBy (d := 0) _ hc]
    simp [closeParen]
  have hg : (l.currentText.isEmpty || Text.isWord l.currentText "not") = true := hhead
  rw [walkLevel_open_some hclose, if_pos hg, if_neg (by simp [hafter]), if_neg (by omega), hsplit]
  obtain ⟨p, ps', rfl⟩ := List.exists_cons_of_ne_nil hne
  rfl

variable {pend : Option Connective} {u : List Char} {o : Option Char} {inner rest : List Char}
  {ps : List Piece}

/-- A group after white space. -/
theorem walkLevel_plainGroup (hu : ∀ c ∈ u, Text.isWhiteSpace c = true) (hc : ClosesBy 0 inner)
    (hd : depth + 1 ≤ maxDepth) (hsplit : splitLevel maxDepth (depth + 1) inner = .ok ps)
    (hne : ps ≠ []) :
    walkLevel maxDepth depth whole ⟨R, pend, u.reverse, false, false⟩ o
        ('(' :: (inner ++ ')' :: rest)) =
      walkLevel maxDepth depth whole ⟨.group (pend.getD .and) false ps :: R, none, [], true, false⟩
        (some ')') rest := by
  have htrim : Text.trim u = [] := by
    have := Text.trim_ws_append hu []
    rw [List.append_nil] at this
    exact this.trans rfl
  rw [walkLevel_group hc (by simp [opensGroup, htrim]) rfl hd hsplit hne]
  simp [Level.currentText, Level.connective, htrim]

/-- A group after white space and `NOT`: a negated group. -/
theorem walkLevel_negatedGroup (hu : ∀ c ∈ u, Text.isWhiteSpace c = true) (hc : ClosesBy 0 inner)
    (hd : depth + 1 ≤ maxDepth) (hsplit : splitLevel maxDepth (depth + 1) inner = .ok ps)
    (hne : ps ≠ []) :
    walkLevel maxDepth depth whole ⟨R, pend, u.reverse, false, false⟩ o
        ("NOT ".toList ++ '(' :: (inner ++ ')' :: rest)) =
      walkLevel maxDepth depth whole ⟨.group (pend.getD .and) true ps :: R, none, [], true, false⟩
        (some ')') rest := by
  have hnot : ClauseWord "NOT".toList := clauseWord_leafKeyword (by simp)
  -- `NOT` and the blank after it are gathered into the clause text
  have hgather : Gathered false false o u ("NOT".toList ++ [' ']) ('(' :: (inner ++ ')' :: rest)) :=
    (Gathered.word hnot (.blank _)).append (Gathered.nonLetters (by simp))
  have e : "NOT ".toList = "NOT".toList ++ [' '] := rfl
  have htrim : Text.trim (u ++ ['N', 'O', 'T', ' ']) = ['N', 'O', 'T'] := by
    rw [Text.trim_ws_append hu]
    exact Text.trim_append_ws (x := ['N', 'O', 'T']) hnot.trim_eq (by simp [isWhiteSpace_blank])
  rw [e, hgather maxDepth depth whole _ rfl rfl]
  rw [walkLevel_group hc (by simp [opensGroup, htrim]; decide) rfl hd hsplit hne]
  simp [Level.currentText, Level.connective, htrim]

end Steps

end FilterQuery.Query

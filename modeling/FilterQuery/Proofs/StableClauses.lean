import FilterQuery.Proofs.SplitText
import FilterQuery.Proofs.RespacedSplit

/-!
# Split clauses are maximal and stable

Every clause text the splitter cuts out of a filter, at any depth, stands on its own: split
by itself, with any depth limit, it is one clause joined by `AND`, itself
(`split_clause_stable`). So no clause text still holds a connective the splitter would cut at
(other than the `AND` a `BETWEEN` claims), and none starts with a group, after `NOT` or not.

A clause text is gathered by steps that each look no further than the text they gather and
the character after it: a character that starts no keyword, a parenthesized span after a
head that is neither empty nor `NOT`, a `BETWEEN` and the `AND` it claims. `Gathers` lists
these steps. A clause ends where the splitter meets a connective or the end of the level,
and a connective stands after white space or `)`. So what the steps looked at is the same in
the clause text alone, once the white space around it is trimmed: the characters before the
clause only set the boundary a keyword may follow, and the one after it is white space, the
end, or follows a `)`.

The walk of a level is followed with a continuation invariant (`Level.Stable`): the clause
texts already cut stand alone, and whatever the walk goes on to gather before a connective or
the end gives a clause text that stands alone.

## Key results
- `closeParen_cut`: the matching parenthesis does not depend on what follows it
- `keywordAt_append`: a keyword does not depend on what follows white space or a non-letter
- `walkLevel_gathers`: a text that is only gathered splits into itself as one clause
- `Gathers.standalone`: what a clause's steps looked at is the same in the clause text alone
- `walkLevel_stable`: the walk of a level cuts only clause texts that stand alone
- `split_clause_stable`: every clause text of a split stands alone
-/

namespace FilterQuery.Text

/-! ## Trimmed texts -/

/-- Trimming drops white space in front. -/
theorem trim_ws_append {w : List Char} (hw : ∀ c ∈ w, isWhiteSpace c = true) (s : List Char) :
    trim (w ++ s) = trim s := by
  rw [trim, trim, List.dropWhile_append_of_pos hw]

/-- Once white space in front is dropped, a text is its trimmed text and white space. -/
theorem dropWhile_eq_trim_append (s : List Char) :
    ∃ v, s.dropWhile isWhiteSpace = trim s ++ v ∧ ∀ c ∈ v, isWhiteSpace c = true := by
  refine ⟨((s.dropWhile isWhiteSpace).reverse.takeWhile isWhiteSpace).reverse, ?_, ?_⟩
  · rw [trim, ← List.reverse_append, List.takeWhile_append_dropWhile, List.reverse_reverse]
  · intro c hc
    rw [List.mem_reverse] at hc
    exact List.all_eq_true.1 List.all_takeWhile c hc

/-- A text is its white space in front, its trimmed text and its white space behind. -/
theorem eq_ws_trim_ws (s : List Char) :
    ∃ w v, s = w ++ (trim s ++ v) ∧ (∀ c ∈ w, isWhiteSpace c = true) ∧
      ∀ c ∈ v, isWhiteSpace c = true := by
  obtain ⟨v, hv, hvws⟩ := dropWhile_eq_trim_append s
  refine ⟨s.takeWhile isWhiteSpace, v, ?_, fun c hc => List.all_eq_true.1 List.all_takeWhile c hc,
    hvws⟩
  rw [← hv, List.takeWhile_append_dropWhile]

theorem head?_trim {s : List Char} {c : Char} (h : (trim s).head? = some c) :
    isWhiteSpace c = false := by
  obtain ⟨v, hv, -⟩ := dropWhile_eq_trim_append s
  have hhead := List.head?_dropWhile_not isWhiteSpace s
  rw [hv, List.head?_append, h, Option.some_or] at hhead
  exact hhead

theorem getLast?_trim {s : List Char} {c : Char} (h : (trim s).getLast? = some c) :
    isWhiteSpace c = false := by
  rw [trim, List.getLast?_reverse] at h
  have hhead := List.head?_dropWhile_not isWhiteSpace (s.dropWhile isWhiteSpace).reverse
  rw [h] at hhead
  exact hhead

/-- A text that neither starts nor ends with white space is its own trimmed text. -/
theorem trim_eq_self {t : List Char} (hh : ∀ c, t.head? = some c → isWhiteSpace c = false)
    (hl : ∀ c, t.getLast? = some c → isWhiteSpace c = false) : trim t = t := by
  have hfront : ∀ u : List Char, (∀ c, u.head? = some c → isWhiteSpace c = false) →
      u.dropWhile isWhiteSpace = u := by
    intro u hu
    cases u with
    | nil => rfl
    | cons c u => exact List.dropWhile_cons_of_neg (by simp [hu c rfl])
  rw [trim, hfront t hh, hfront t.reverse (by simpa using hl), List.reverse_reverse]

@[simp] theorem trim_trim (s : List Char) : trim (trim s) = trim s :=
  trim_eq_self (fun _ => head?_trim) (fun _ => getLast?_trim)

theorem isBlank_trim_eq_false {s : List Char} (h : trim s ≠ []) : isBlank (trim s) = false := by
  obtain ⟨c, t, ht⟩ := List.exists_cons_of_ne_nil h
  have hc : isWhiteSpace c = false := head?_trim (by rw [ht]; rfl)
  simp [isBlank, ht, hc]

end FilterQuery.Text

namespace FilterQuery.Query

open Text (isWhiteSpace)

/-! ## Clause texts at every depth -/

mutual

/-- The clause texts of a piece, at every depth. -/
def Piece.clauseTexts : Piece → List (List Char)
  | .clause _ text => [text]
  | .group _ _ pieces => Piece.clauseTextsAll pieces

/-- The clause texts of a list of pieces, at every depth. -/
def Piece.clauseTextsAll : List Piece → List (List Char)
  | [] => []
  | p :: ps => p.clauseTexts ++ Piece.clauseTextsAll ps

end

@[simp] theorem Piece.clauseTextsAll_nil : Piece.clauseTextsAll [] = [] := by
  simp [Piece.clauseTextsAll]

@[simp] theorem Piece.clauseTextsAll_cons (p : Piece) (ps : List Piece) :
    Piece.clauseTextsAll (p :: ps) = p.clauseTexts ++ Piece.clauseTextsAll ps := by
  simp [Piece.clauseTextsAll]

@[simp] theorem Piece.clauseTexts_clause (conn : Connective) (text : List Char) :
    (Piece.clause conn text).clauseTexts = [text] := by
  simp [Piece.clauseTexts]

@[simp] theorem Piece.clauseTexts_group (conn : Connective) (negated : Bool) (ps : List Piece) :
    (Piece.group conn negated ps).clauseTexts = Piece.clauseTextsAll ps := by
  simp [Piece.clauseTexts]

theorem Piece.clauseTextsAll_append (ps qs : List Piece) :
    Piece.clauseTextsAll (ps ++ qs) = Piece.clauseTextsAll ps ++ Piece.clauseTextsAll qs := by
  induction ps with
  | nil => rfl
  | cons p ps ih => simp [ih]

theorem Piece.clauseTextsAll_reverse (ps : List Piece) (c : List Char) :
    c ∈ Piece.clauseTextsAll ps.reverse ↔ c ∈ Piece.clauseTextsAll ps := by
  induction ps with
  | nil => rfl
  | cons p ps ih => simp [Piece.clauseTextsAll_append, ih, or_comm]

/-! ## The matching parenthesis -/

/-- What `closeParen` leaves is shorter than what it read. -/
theorem closeParen_after_lt {depth : Nat} {acc cs inner after : List Char}
    (h : closeParen depth acc cs = some (inner, after)) : after.length < cs.length := by
  induction cs generalizing depth acc with
  | nil => simp [closeParen] at h
  | cons c rest ih =>
    simp only [closeParen] at h
    split at h
    · exact Nat.lt_succ_of_lt (ih h)
    · split at h
      · split at h
        · cases h; simp
        · exact Nat.lt_succ_of_lt (ih h)
      · exact Nat.lt_succ_of_lt (ih h)

/-- The `)` that closes a span is found whatever follows it. -/
theorem closeParen_cut {depth : Nat} {acc x z inner : List Char}
    (h : closeParen depth acc (x ++ ')' :: z) = some (inner, z)) (z' : List Char) :
    closeParen depth acc (x ++ ')' :: z') = some (inner, z') := by
  induction x generalizing depth acc with
  | nil =>
    cases depth with
    | zero =>
      simp only [List.nil_append, closeParen, if_neg (by decide : ')' ≠ '(')] at h ⊢
      cases h
      rfl
    | succ d =>
      -- a `)` met inside a nested group cannot leave all of `z` behind
      simp only [List.nil_append, closeParen, if_neg (by decide : ')' ≠ '(')] at h
      exact absurd (closeParen_after_lt h) (Nat.lt_irrefl _)
  | cons c x ih =>
    simp only [List.cons_append, closeParen] at h ⊢
    by_cases hl : c = '('
    · rw [if_pos hl] at h ⊢
      exact ih h
    · rw [if_neg hl] at h ⊢
      by_cases hr : c = ')'
      · rw [if_pos hr] at h ⊢
        cases depth with
        | zero =>
          -- the span would end at `c`, leaving more than `z` behind
          simp only [Option.some.injEq, Prod.mk.injEq] at h
          have := congrArg List.length h.2
          simp only [List.length_append, List.length_cons] at this
          omega
        | succ d => exact ih h
      · rw [if_neg hr] at h ⊢
        exact ih h

/-! ## Keywords -/

/-- `keywordAt` looks at the character before the text only for the boundary it makes. -/
theorem keywordAt_congr_prev {p q : Option Char} (h : boundaryBefore p = boundaryBefore q)
    (cs : List Char) : keywordAt p cs = keywordAt q cs := by
  simp only [keywordAt, h]

/-- What a keyword found by `keywordAt` is made of. -/
theorem keywordAt_some {p : Option Char} {cs word after : List Char} {k : Keyword}
    (h : keywordAt p cs = some (k, word, after)) :
    boundaryBefore p = true ∧ word ≠ [] ∧ (∀ c ∈ word, c.isAlpha = true) ∧ cs = word ++ after ∧
      boundaryAfter after = true := by
  have hsplit := keywordAt_eq h
  unfold keywordAt at h
  dsimp only at h
  split at h
  · cases h
  rename_i hcond
  simp only [Bool.or_eq_true, Bool.not_eq_true', not_or, Bool.not_eq_false] at hcond
  obtain ⟨⟨hb, hw⟩, ha⟩ := hcond
  -- every branch that answers returns the letters and the text after them
  have hparts : word = cs.takeWhile (fun c => c.isAlpha) ∧ after = cs.dropWhile (fun c => c.isAlpha) := by
    split at h
    · cases h; exact ⟨rfl, rfl⟩
    split at h
    · cases h; exact ⟨rfl, rfl⟩
    split at h
    · cases h; exact ⟨rfl, rfl⟩
    · cases h
  obtain ⟨rfl, rfl⟩ := hparts
  refine ⟨hb, fun he => by simp [he] at hw, fun c hc => ?_, hsplit, ha⟩
  exact List.all_eq_true.1 List.all_takeWhile c hc

/-- Two texts with the same letters in front, followed by the same boundary, have the same
    keyword in front. -/
theorem keywordAt_congr_append {p : Option Char} {cs cs' t : List Char}
    (hw : cs.takeWhile (fun c => c.isAlpha) = cs'.takeWhile (fun c => c.isAlpha))
    (ha : cs.dropWhile (fun c => c.isAlpha) = cs'.dropWhile (fun c => c.isAlpha) ++ t)
    (hb : boundaryAfter (cs.dropWhile (fun c => c.isAlpha)) =
      boundaryAfter (cs'.dropWhile (fun c => c.isAlpha))) :
    keywordAt p cs = (keywordAt p cs').map fun r => (r.1, r.2.1, r.2.2 ++ t) := by
  unfold keywordAt
  dsimp only
  rw [hb, hw, ha]
  split_ifs <;> rfl

/-- A text is a run of letters followed by nothing or by a character that is no letter. -/
theorem exists_letters_append (u : List Char) :
    ∃ T D, u = T ++ D ∧ (∀ c ∈ T, c.isAlpha = true) ∧
      ∀ d ds, D = d :: ds → d.isAlpha = false := by
  refine ⟨u.takeWhile (fun c => c.isAlpha), u.dropWhile (fun c => c.isAlpha),
    List.takeWhile_append_dropWhile.symm, fun c hc => List.all_eq_true.1 List.all_takeWhile c hc,
    fun d ds hD => ?_⟩
  have := List.head?_dropWhile_not (fun c : Char => c.isAlpha) u
  rw [hD] at this
  exact this

/-- The keyword in front of `u ++ t` is the one in front of `u`, when `t` is empty or starts
    with white space, or `u` holds a character that is no letter. -/
theorem keywordAt_append {p : Option Char} {u t : List Char}
    (h : t = [] ∨ (∃ c t', t = c :: t' ∧ isWhiteSpace c = true) ∨ (∃ c ∈ u, c.isAlpha = false)) :
    keywordAt p (u ++ t) = (keywordAt p u).map fun r => (r.1, r.2.1, r.2.2 ++ t) := by
  obtain ⟨T, D, rfl, hT, hD⟩ := exists_letters_append u
  cases D with
  | nil =>
    -- `u` is all letters: `t` ends the run with white space, or there is no `t`
    have ht : t.takeWhile (fun c => c.isAlpha) = [] ∧ t.dropWhile (fun c => c.isAlpha) = t ∧
        boundaryAfter t = true := by
      rcases h with rfl | ⟨c, t', rfl, hc⟩ | ⟨c, hc, hna⟩
      · exact ⟨rfl, rfl, rfl⟩
      · simp [isAlpha_of_ws hc, boundaryAfter, hc]
      · rw [List.append_nil] at hc
        rw [hT c hc] at hna
        cases hna
    have hTT : T.takeWhile (fun c => c.isAlpha) = T := by
      simpa using @List.takeWhile_append_of_pos _ _ T [] hT
    have hTD : T.dropWhile (fun c => c.isAlpha) = [] := by
      simpa using @List.dropWhile_append_of_pos _ _ T [] hT
    rw [List.append_nil]
    apply keywordAt_congr_append
    · rw [List.takeWhile_append_of_pos hT, ht.1, List.append_nil, hTT]
    · rw [List.dropWhile_append_of_pos hT, ht.2.1, hTD, List.nil_append]
    · rw [List.dropWhile_append_of_pos hT, ht.2.1, ht.2.2, hTD]
      rfl
  | cons d ds =>
    -- the run of letters stops at `d`, inside `u`
    have hd : d.isAlpha = false := hD d ds rfl
    apply keywordAt_congr_append
    · rw [List.append_assoc, List.takeWhile_append_of_pos hT, List.takeWhile_append_of_pos hT]
      simp [hd]
    · rw [List.append_assoc, List.dropWhile_append_of_pos hT, List.dropWhile_append_of_pos hT]
      simp [hd]
    · rw [List.append_assoc, List.dropWhile_append_of_pos hT, List.dropWhile_append_of_pos hT]
      simp [hd, boundaryAfter]

theorem ne_paren_of_isAlpha {c : Char} (h : c.isAlpha = true) : c ≠ '(' ∧ c ≠ ')' := by
  constructor <;> rintro rfl <;> exact absurd h (by decide)

/-- The first letter of a keyword is a letter and no parenthesis, and the keyword is that
    letter and the rest of the text. -/
theorem keywordAt_cons {p : Option Char} {cs word after : List Char} {k : Keyword}
    (h : keywordAt p cs = some (k, word, after)) :
    ∃ c w, word = c :: w ∧ c.isAlpha = true ∧ c ≠ '(' ∧ c ≠ ')' ∧ cs = c :: (w ++ after) := by
  obtain ⟨-, hne, halpha, rfl, -⟩ := keywordAt_some h
  obtain ⟨c, w, rfl⟩ := List.exists_cons_of_ne_nil hne
  have hc := halpha c List.mem_cons_self
  obtain ⟨h₁, h₂⟩ := ne_paren_of_isAlpha hc
  exact ⟨c, w, rfl, hc, h₁, h₂, rfl⟩

/-! ## Texts that are only gathered -/

/-- Whether the clause text gathered so far makes a `(` open a group: it is empty or `NOT`, up
    to white space. -/
def opensGroup (cur : List Char) : Bool :=
  (Text.trim cur).isEmpty || Text.isWord (Text.trim cur) "not"

/-- `Gathers tail b prev cur cs`: from a state that has gathered the clause text `cur`, with
    `b` telling whether a `BETWEEN` waits for its `AND` and `prev` the character read last,
    the splitter reads all of `cs` into the clause. It meets no group, no stray `)` and no
    connective that ends the clause; its keywords are looked for with `tail` after `cs`. -/
inductive Gathers (tail : List Char) : Bool → Option Char → List Char → List Char → Prop
  /-- Nothing left to read. -/
  | nil {b : Bool} {prev : Option Char} {cur : List Char} : Gathers tail b prev cur []
  /-- A character that is no parenthesis and starts no keyword. -/
  | char {b : Bool} {prev : Option Char} {cur : List Char} {c : Char} {cs : List Char} :
      c ≠ '(' → c ≠ ')' → keywordAt prev (c :: (cs ++ tail)) = none →
      Gathers tail b (some c) (cur ++ [c]) cs → Gathers tail b prev cur (c :: cs)
  /-- A parenthesized span after a head that opens no group. -/
  | span {b : Bool} {prev : Option Char} {cur inner cs : List Char} :
      closeParen 0 [] (inner ++ [')']) = some (inner, []) → opensGroup cur = false →
      Gathers tail b (some ')') (cur ++ '(' :: inner ++ [')']) cs →
      Gathers tail b prev cur ('(' :: (inner ++ ')' :: cs))
  /-- `BETWEEN`, which then waits for its `AND`. -/
  | between {b : Bool} {prev : Option Char} {cur word cs : List Char} :
      keywordAt prev (word ++ (cs ++ tail)) = some (.between, word, cs ++ tail) →
      Gathers tail true word.getLast? (cur ++ word) cs → Gathers tail b prev cur (word ++ cs)
  /-- The `AND` a `BETWEEN` waits for. -/
  | claim {prev : Option Char} {cur word cs : List Char} :
      keywordAt prev (word ++ (cs ++ tail)) = some (.connective .and, word, cs ++ tail) →
      Gathers tail false word.getLast? (cur ++ word) cs → Gathers tail true prev cur (word ++ cs)

section Gathered

variable {maxDepth depth : Nat} {whole : List Char}

/-- A text that is only gathered, up to its end, gives one clause: the text gathered, trimmed,
    joined by `AND`. -/
theorem walkLevel_gathers {b : Bool} {prev : Option Char} {cur cs : List Char}
    (h : Gathers [] b prev cur cs) :
    walkLevel maxDepth depth whole { currentRev := cur.reverse, betweenOpen := b } prev cs =
      .ok [.clause .and (Text.trim (cur ++ cs))] := by
  induction h with
  | @nil b prev cur =>
    have htext : ({ currentRev := cur.reverse, betweenOpen := b } : Level).currentText =
        Text.trim cur := by
      simp [Level.currentText]
    rw [walkLevel.eq_1, List.append_nil, ← htext]
    rfl
  | @char b prev cur c cs hl hr hk _ ih =>
    rw [List.append_nil] at hk
    rw [walkLevel_cons_of_keywordAt_none hl hr hk]
    simpa using ih
  | @span b prev cur inner cs hc hg _ ih =>
    rw [walkLevel_open_some (closeParen_cut hc cs)]
    have hhead : ({ currentRev := cur.reverse, betweenOpen := b } : Level).currentText =
        Text.trim cur := by
      simp [Level.currentText]
    have hg' : ((Text.trim cur).isEmpty || Text.isWord (Text.trim cur) "not") = false := hg
    rw [hhead, hg', if_neg Bool.false_ne_true]
    simpa using ih
  | @between b prev cur word cs hk _ ih =>
    rw [List.append_nil] at hk
    obtain ⟨c, w, rfl, -, hl, hr, -⟩ := keywordAt_cons hk
    rw [List.cons_append] at hk ⊢
    rw [walkLevel_keyword hl hr hk]
    simpa using ih
  | @claim prev cur word cs hk _ ih =>
    rw [List.append_nil] at hk
    obtain ⟨c, w, rfl, -, hl, hr, -⟩ := keywordAt_cons hk
    rw [List.cons_append] at hk ⊢
    rw [walkLevel_keyword hl hr hk]
    simpa using ih

end Gathered

/-! ## What a clause looks at -/

theorem opensGroup_ws_append {w : List Char} (hw : ∀ c ∈ w, isWhiteSpace c = true)
    (cur : List Char) : opensGroup (w ++ cur) = opensGroup cur := by
  simp only [opensGroup, Text.trim_ws_append hw]

theorem getLast?_append_or (x r : List Char) (p : Option Char) :
    (x ++ r).getLast?.or p = r.getLast?.or (x.getLast?.or p) := by
  rw [List.getLast?_append, Option.or_assoc]

/-- `RunEnds cs t`: the text `t` after `cs` continues no run of letters that ends `cs`: it is
    empty, starts with white space, or `cs` does not end with a letter. -/
def RunEnds (cs t : List Char) : Prop :=
  t = [] ∨ (∃ c t', t = c :: t' ∧ isWhiteSpace c = true) ∨
    ∀ c, cs.getLast? = some c → c.isAlpha = false

theorem RunEnds.of_append {x cs t : List Char} (h : RunEnds (x ++ cs) t) : RunEnds cs t := by
  rcases h with h | h | h
  · exact .inl h
  · exact .inr (.inl h)
  · refine .inr (.inr fun c hc => h c ?_)
    rw [List.getLast?_append, hc, Option.some_or]

/-- The keyword in front of `u ++ t` is the one in front of `u` when `t` continues no run of
    letters that ends `u`. -/
theorem keywordAt_of_runEnds {p : Option Char} {u t : List Char} (hu : u ≠ [])
    (h : RunEnds u t) :
    keywordAt p (u ++ t) = (keywordAt p u).map fun r => (r.1, r.2.1, r.2.2 ++ t) := by
  apply keywordAt_append
  rcases h with h | h | h
  · exact .inl h
  · exact .inr (.inl h)
  · obtain ⟨c, hc⟩ := Option.isSome_iff_exists.1 (List.getLast?_isSome.2 hu)
    exact .inr (.inr ⟨c, List.mem_of_getLast? hc, h c hc⟩)

section Replay

variable {tail : List Char} {b : Bool}

/-- White space in front is gathered character by character. -/
theorem Gathers.ws_head {p : Option Char} {cur cs : List Char} {c : Char}
    (h : Gathers tail b p cur (c :: cs)) (hc : isWhiteSpace c = true) :
    Gathers tail b (some c) (cur ++ [c]) cs := by
  generalize hx : c :: cs = x at h
  cases h with
  | nil => cases hx
  | char _ _ _ hg =>
    cases hx
    exact hg
  | span =>
    cases hx
    exact absurd hc (by decide)
  | between hk =>
    obtain ⟨c', w, rfl, halpha, -⟩ := keywordAt_cons hk
    cases hx
    rw [Text.isWhiteSpace_of_isAlpha halpha] at hc
    cases hc
  | claim hk =>
    obtain ⟨c', w, rfl, halpha, -⟩ := keywordAt_cons hk
    cases hx
    rw [Text.isWhiteSpace_of_isAlpha halpha] at hc
    cases hc

theorem Gathers.ws_run {p : Option Char} {cur w cs : List Char}
    (h : Gathers tail b p cur (w ++ cs)) (hw : ∀ c ∈ w, isWhiteSpace c = true) :
    Gathers tail b (w.getLast?.or p) (cur ++ w) cs := by
  induction w generalizing p cur with
  | nil => simpa using h
  | cons c w ih =>
    have hnext := ih (h.ws_head (hw c List.mem_cons_self)) fun x hx => hw x (List.mem_cons_of_mem c hx)
    have hprev : (c :: w).getLast?.or p = w.getLast?.or (some c) := by
      simpa using getLast?_append_or [c] w p
    rw [hprev]
    simpa using hnext

/-- A `(` after a head that opens a group is not gathered. -/
theorem Gathers.opensGroup_eq_false {p : Option Char} {cur cs : List Char}
    (h : Gathers tail b p cur ('(' :: cs)) : opensGroup cur = false := by
  generalize hx : '(' :: cs = x at h
  cases h with
  | nil => cases hx
  | char hl => cases hx; exact absurd rfl hl
  | span _ hg => exact hg
  | between hk =>
    obtain ⟨c', w, rfl, -, hl, -⟩ := keywordAt_cons hk
    cases hx
    exact absurd rfl hl
  | claim hk =>
    obtain ⟨c', w, rfl, -, hl, -⟩ := keywordAt_cons hk
    cases hx
    exact absurd rfl hl

/-- White space gathered before the clause does not change how the rest is gathered. -/
theorem Gathers.drop_ws_prefix {p : Option Char} {w cur cs : List Char}
    (h : Gathers tail b p (w ++ cur) cs) (hw : ∀ c ∈ w, isWhiteSpace c = true) :
    Gathers tail b p cur cs := by
  generalize hx : w ++ cur = cur' at h
  induction h generalizing cur with
  | nil => exact .nil
  | char hl hr hk _ ih =>
    subst hx
    exact .char hl hr hk (ih (List.append_assoc _ _ _).symm)
  | span hc hg _ ih =>
    subst hx
    rw [opensGroup_ws_append hw] at hg
    exact .span hc hg (ih (by simp))
  | between hk _ ih =>
    subst hx
    exact .between hk (ih (List.append_assoc _ _ _).symm)
  | claim hk _ ih =>
    subst hx
    exact .claim hk (ih (List.append_assoc _ _ _).symm)

/-- Only the boundary the character before makes is looked at. -/
theorem Gathers.congr_prev {p q : Option Char} {cur cs : List Char} (h : Gathers tail b p cur cs)
    (hpq : boundaryBefore p = boundaryBefore q) : Gathers tail b q cur cs := by
  cases h with
  | nil => exact .nil
  | char hl hr hk hg => exact .char hl hr (by rwa [← keywordAt_congr_prev hpq]) hg
  | span hc hg h' => exact .span hc hg h'
  | between hk hg => exact .between (by rwa [← keywordAt_congr_prev hpq]) hg
  | claim hk hg => exact .claim (by rwa [← keywordAt_congr_prev hpq]) hg

/-- A text that ends with a character other than white space, cut at white space: the cut
    falls after that character. -/
theorem eq_append_of_ws_suffix {a r x y : List Char} (h : a ++ r = x ++ y)
    (hy : ∀ c ∈ y, isWhiteSpace c = true) (ha : ∀ c, a.getLast? = some c → isWhiteSpace c = false) :
    ∃ m, x = a ++ m ∧ r = m ++ y := by
  rcases List.append_eq_append_iff.1 h with ⟨m, hx, hr⟩ | ⟨m, hax, hy'⟩
  · exact ⟨m, hx, hr⟩
  · cases m with
    | nil =>
      rw [List.append_nil] at hax
      exact ⟨[], by simp [hax], by simpa using hy'.symm⟩
    | cons d ds =>
      -- the last character of `a` would lie in `y`
      obtain ⟨c, hc⟩ := Option.isSome_iff_exists.1 (List.getLast?_isSome.2 (List.cons_ne_nil d ds))
      have hlast : a.getLast? = some c := by rw [hax, List.getLast?_append, hc, Option.some_or]
      have hcy : c ∈ y := by
        rw [hy']
        exact List.mem_append_left _ (List.mem_of_getLast? hc)
      exact absurd (hy c hcy) (by rw [ha c hlast]; decide)

theorem not_ws_of_keywordAt {p : Option Char} {cs word after : List Char} {k : Keyword}
    (h : keywordAt p cs = some (k, word, after)) :
    ∀ c, word.getLast? = some c → isWhiteSpace c = false := by
  obtain ⟨-, -, halpha, -⟩ := keywordAt_some h
  intro c hc
  exact Text.isWhiteSpace_of_isAlpha (halpha c (List.mem_of_getLast? hc))

/-- White space at the end of what is gathered can be read as part of what follows. -/
theorem Gathers.ws_suffix {p : Option Char} {cur x y : List Char}
    (h : Gathers tail b p cur (x ++ y)) (hy : ∀ c ∈ y, isWhiteSpace c = true) :
    Gathers (y ++ tail) b p cur x := by
  generalize hx : x ++ y = xs at h
  induction h generalizing x with
  | nil =>
    obtain ⟨rfl, -⟩ := List.append_eq_nil_iff.1 hx
    exact .nil
  | char hl hr hk _ ih =>
    cases x with
    | nil => exact .nil
    | cons c' x =>
      rw [List.cons_append] at hx
      injection hx with hc hx
      subst hc hx
      exact .char hl hr (by simpa only [List.append_assoc] using hk) (ih rfl)
  | @span b prev cur inner cs hc hg _ ih =>
    cases x with
    | nil => exact .nil
    | cons c' x =>
      injection hx with hc' hx
      subst hc'
      -- the span ends with `)`, which is no white space
      obtain ⟨m, rfl, rfl⟩ := eq_append_of_ws_suffix (a := inner ++ [')']) (by simpa using hx.symm)
        hy fun c hc => by
          rw [List.getLast?_concat] at hc
          cases hc
          decide
      simp only [List.append_assoc, List.cons_append, List.nil_append]
      exact .span hc hg (ih rfl)
  | between hk _ ih =>
    obtain ⟨m, rfl, rfl⟩ := eq_append_of_ws_suffix hx.symm hy (not_ws_of_keywordAt hk)
    exact .between (by simpa only [List.append_assoc] using hk) (ih rfl)
  | claim hk _ ih =>
    obtain ⟨m, rfl, rfl⟩ := eq_append_of_ws_suffix hx.symm hy (not_ws_of_keywordAt hk)
    exact .claim (by simpa only [List.append_assoc] using hk) (ih rfl)

theorem keywordAt_cons_drop_tail {p : Option Char} {c : Char} {cs t : List Char}
    (hk : keywordAt p (c :: (cs ++ t)) = none) (ht : RunEnds (c :: cs) t) :
    keywordAt p (c :: (cs ++ [])) = none := by
  have hk' := keywordAt_of_runEnds (p := p) (List.cons_ne_nil c cs) ht
  rw [List.cons_append, hk] at hk'
  rw [List.append_nil]
  exact Option.map_eq_none_iff.1 hk'.symm

theorem keywordAt_word_drop_tail {p : Option Char} {word cs t : List Char} {k : Keyword}
    (hk : keywordAt p (word ++ (cs ++ t)) = some (k, word, cs ++ t)) (ht : RunEnds (word ++ cs) t) :
    keywordAt p (word ++ (cs ++ [])) = some (k, word, cs ++ []) := by
  obtain ⟨-, hne, -⟩ := keywordAt_some hk
  have hk' := keywordAt_of_runEnds (p := p) (u := word ++ cs) (by simp [hne]) ht
  rw [List.append_assoc, hk] at hk'
  obtain ⟨⟨k', w', a⟩, hr, heq⟩ := Option.map_eq_some_iff.1 hk'.symm
  simp only [Prod.mk.injEq, List.append_cancel_right_eq] at heq
  obtain ⟨rfl, rfl, rfl⟩ := heq
  simpa using hr

/-- The text after what is gathered can be dropped when it continues no run of letters. -/
theorem Gathers.drop_tail {p : Option Char} {cur cs : List Char} (h : Gathers tail b p cur cs)
    (ht : RunEnds cs tail) : Gathers [] b p cur cs := by
  induction h with
  | nil => exact .nil
  | char hl hr hk _ ih =>
    exact .char hl hr (keywordAt_cons_drop_tail hk ht) (ih (RunEnds.of_append (x := [_]) ht))
  | @span b prev cur inner cs hc hg _ ih =>
    exact .span hc hg (ih (RunEnds.of_append (x := '(' :: inner ++ [')']) (by simpa using ht)))
  | between hk _ ih => exact .between (keywordAt_word_drop_tail hk ht) (ih ht.of_append)
  | claim hk _ ih => exact .claim (keywordAt_word_drop_tail hk ht) (ih ht.of_append)

end Replay

/-! ## Clause texts that stand alone -/

/-- A clause text stands alone: split by itself, with any depth limit, it is one clause joined
    by `AND`, itself. -/
def StandsAlone (c : List Char) : Prop := ∀ d, split c d = .ok [.clause .and c]

/-- What a clause's steps look at is the same in its trimmed text alone. The clause starts
    after a boundary, or before white space or a parenthesis, and ends at the end of the level
    or at a boundary. -/
theorem Gathers.trim {tail r : List Char} {b : Bool} {p : Option Char} (h : Gathers tail b p [] r)
    (hstart : boundaryBefore p = true ∨ ∀ c, r.head? = some c → isWhiteSpace c = true ∨ c = '(')
    (hend : tail = [] ∨ boundaryBefore (r.getLast?.or p) = true) :
    Gathers [] b none [] (Text.trim r) := by
  obtain ⟨w, v, hr, hw, hv⟩ := Text.eq_ws_trim_ws r
  -- the white space in front is gathered, and then forgotten
  have h₁ : Gathers tail b (w.getLast?.or p) [] (Text.trim r ++ v) := by
    rw [hr] at h
    have h₀ : Gathers tail b (w.getLast?.or p) (w ++ []) (Text.trim r ++ v) := by
      simpa using h.ws_run hw
    exact h₀.drop_ws_prefix hw
  cases ht : Text.trim r with
  | nil => exact .nil
  | cons c t =>
    rw [ht] at h₁
    -- what is gathered from the trimmed text on starts after a boundary
    have hb : boundaryBefore (w.getLast?.or p) = true := by
      cases w with
      | cons d ds => exact boundaryBefore_run (List.cons_ne_nil d ds) hw p
      | nil =>
        rcases hstart with hp | hp
        · simpa using hp
        · have hnws : isWhiteSpace c = false := Text.head?_trim (by rw [ht]; rfl)
          rcases hp c (by rw [hr, ht]; rfl) with hc | rfl
          · rw [hnws] at hc
            cases hc
          · -- an empty head opens a group, so the clause cannot start with `(`
            exact absurd h₁.opensGroup_eq_false (by decide)
    have h₂ := (h₁.congr_prev (q := none) (by rw [hb]; rfl)).ws_suffix hv
    refine h₂.drop_tail ?_
    cases v with
    | cons d ds => exact .inr (.inl ⟨d, ds ++ tail, rfl, hv d List.mem_cons_self⟩)
    | nil =>
      rcases hend with hnil | hlast
      · exact .inl (by simp [hnil])
      · -- the clause ends where the level's text has a boundary after it
        refine .inr (.inr fun e he => ?_)
        have hre : r.getLast? = some e := by
          rw [hr, ht, List.append_nil, List.getLast?_append, he, Option.some_or]
        rw [hre, Option.some_or] at hlast
        simp only [boundaryBefore, Bool.or_eq_true, decide_eq_true_eq] at hlast
        rcases hlast with hws | rfl
        · exact isAlpha_of_ws hws
        · decide

/-- A text that is only gathered from a clean state, and is its own trimmed text, stands
    alone. -/
theorem standsAlone_of_gathers {t : List Char} (h : Gathers [] false none [] t)
    (ht : Text.trim t = t) (hne : t ≠ []) : StandsAlone t := by
  intro d
  have hblank : Text.isBlank t = false := by
    rw [← ht]
    exact Text.isBlank_trim_eq_false (by rwa [ht])
  rw [split, splitLevel, if_neg (by rw [hblank]; decide)]
  simpa [ht] using @walkLevel_gathers d 0 t _ _ _ _ h

/-- A clause gathered between boundaries stands alone, once trimmed. -/
theorem Gathers.standsAlone {tail r : List Char} {p : Option Char} (h : Gathers tail false p [] r)
    (hstart : boundaryBefore p = true ∨ ∀ c, r.head? = some c → isWhiteSpace c = true ∨ c = '(')
    (hend : tail = [] ∨ boundaryBefore (r.getLast?.or p) = true) (hne : Text.trim r ≠ []) :
    StandsAlone (Text.trim r) :=
  standsAlone_of_gathers (h.trim hstart hend) (Text.trim_trim r) hne

/-! ## The continuation invariant -/

/-- A state of the walk of a level, with the rest `cs` of the level still to read, cuts only
    clause texts that stand alone. -/
structure Level.Stable (l : Level) (prev : Option Char) (cs : List Char) : Prop where
  /-- The clause texts cut already stand alone. -/
  cut : ∀ c ∈ Piece.clauseTextsAll l.piecesRev, c ≠ [] → StandsAlone c
  /-- Gathering `r` into the current clause and then meeting the end of the level or a
      boundary cuts a clause text that stands alone. -/
  gathered : l.afterGroup = false → ∀ r tail, cs = r ++ tail →
    Gathers tail l.betweenOpen prev l.currentRev.reverse r →
    (tail = [] ∨ boundaryBefore (r.getLast?.or prev) = true) →
    Text.trim (l.currentRev.reverse ++ r) ≠ [] →
    StandsAlone (Text.trim (l.currentRev.reverse ++ r))

theorem getLast?_or_of_ne_nil {x : List Char} (hx : x ≠ []) (p : Option Char) :
    x.getLast?.or p = x.getLast? := by
  obtain ⟨c, hc⟩ := Option.isSome_iff_exists.1 (List.getLast?_isSome.2 hx)
  rw [hc, Option.some_or]

theorem head?_of_boundaryAfter {after : List Char} (h : boundaryAfter after = true) :
    ∀ c, after.head? = some c → isWhiteSpace c = true ∨ c = '(' := by
  intro c hc
  cases after with
  | nil => cases hc
  | cons d ds =>
    cases hc
    simpa [boundaryAfter] using h

namespace Level.Stable

variable {l : Level} {prev : Option Char} {cs : List Char}

/-- A clause starts with nothing gathered, after a boundary or before white space or a
    parenthesis. -/
theorem start (hcut : ∀ c ∈ Piece.clauseTextsAll l.piecesRev, c ≠ [] → StandsAlone c)
    (hcur : l.currentRev = []) (hb : l.betweenOpen = false)
    (hstart : boundaryBefore prev = true ∨ ∀ c, cs.head? = some c → isWhiteSpace c = true ∨ c = '(') :
    l.Stable prev cs := by
  refine ⟨hcut, fun _ r tail hcs hg hend hne => ?_⟩
  rw [hcur, List.reverse_nil] at hg hne ⊢
  rw [List.nil_append] at hne ⊢
  rw [hb] at hg
  refine hg.standsAlone ?_ hend hne
  rcases hstart with hp | hp
  · exact .inl hp
  · refine .inr fun c hc => hp c ?_
    rw [hcs, List.head?_append, hc, Option.some_or]

/-- Gathering `x` keeps the invariant when every way of gathering on from there is a way of
    gathering on with `x` in front. -/
theorem gather {x rest : List Char} {b : Bool} (hs : l.Stable prev (x ++ rest)) (hx : x ≠ [])
    (hstep : ∀ r tail, rest = r ++ tail →
      Gathers tail b x.getLast? (l.currentRev.reverse ++ x) r →
      Gathers tail l.betweenOpen prev l.currentRev.reverse (x ++ r)) :
    ({ l with currentRev := x.reverse ++ l.currentRev, betweenOpen := b } : Level).Stable
      x.getLast? rest := by
  refine ⟨hs.cut, fun hg r tail hcs hgath hend hne => ?_⟩
  simp only [List.reverse_append, List.reverse_reverse] at hgath hne ⊢
  have hend' : tail = [] ∨ boundaryBefore ((x ++ r).getLast?.or prev) = true := by
    rwa [getLast?_append_or, getLast?_or_of_ne_nil hx]
  have hstands := hs.gathered hg (x ++ r) tail (by rw [hcs, List.append_assoc])
    (hstep r tail hcs hgath) hend' (by rwa [← List.append_assoc])
  rwa [← List.append_assoc] at hstands

/-- Ending the clause at the end of the level or at a boundary cuts a clause text that stands
    alone, and leaves nothing gathered. -/
theorem finishClause {l' : Level} (hs : l.Stable prev cs) (hf : l.finishClause = .ok l')
    (hend : cs = [] ∨ boundaryBefore prev = true) :
    (∀ c ∈ Piece.clauseTextsAll l'.piecesRev, c ≠ [] → StandsAlone c) ∧ l'.currentRev = [] ∧
      l'.betweenOpen = false := by
  rcases finishClause_cases hf with ⟨-, -, rfl⟩ | ⟨hg, rfl⟩
  · exact ⟨hs.cut, rfl, rfl⟩
  · refine ⟨fun c hc hne => ?_, rfl, rfl⟩
    simp only [Piece.clauseTextsAll_cons, Piece.clauseTexts_clause, List.cons_append,
      List.nil_append, List.mem_cons] at hc
    rcases hc with rfl | hc
    · -- the clause text gathered so far, with nothing more gathered
      have hstands := hs.gathered hg [] cs rfl .nil (by simpa using hend)
        (by simpa [Level.currentText] using hne)
      simpa [Level.currentText] using hstands
    · exact hs.cut c hc hne

/-- A connective ends the clause, and the next one starts after it. -/
theorem connect {l' : Level} {word after : List Char} {conn : Connective}
    (hs : l.Stable prev cs) (hk : keywordAt prev cs = some (.connective conn, word, after))
    (hf : l.finishClause = .ok l') :
    ({ l' with pending := some conn } : Level).Stable word.getLast? after := by
  obtain ⟨hbb, -, -, -, hafter⟩ := keywordAt_some hk
  obtain ⟨hcut, hcur, hb⟩ := hs.finishClause hf (.inr hbb)
  exact start hcut hcur hb (.inr (head?_of_boundaryAfter hafter))

/-- A group's clause texts stand alone when those of its pieces do; after a group nothing is
    gathered into a clause. -/
theorem group {cs' : List Char} {prev' : Option Char} {conn : Connective} {negated : Bool}
    {ps : List Piece} (hs : l.Stable prev cs)
    (hps : ∀ c ∈ Piece.clauseTextsAll ps, c ≠ [] → StandsAlone c) :
    ({ l with piecesRev := Piece.group conn negated ps :: l.piecesRev, pending := none,
               currentRev := [], afterGroup := true } : Level).Stable prev' cs' := by
  refine ⟨fun c hc hne => ?_, fun hg => by cases hg⟩
  simp only [Piece.clauseTextsAll_cons, Piece.clauseTexts_group, List.mem_append] at hc
  rcases hc with hc | hc
  · exact hps c hc hne
  · exact hs.cut c hc hne

/-- The pieces of a level read to its end have clause texts that stand alone. -/
theorem finish {pieces : List Piece} (hs : l.Stable prev []) (h : l.finish = .ok pieces) :
    ∀ c ∈ Piece.clauseTextsAll pieces, c ≠ [] → StandsAlone c := by
  unfold Level.finish at h
  split at h
  · cases h
    intro c hc
    rw [Piece.clauseTextsAll_reverse] at hc
    exact hs.cut c hc
  · cases hf : l.finishClause with
    | error e =>
      rw [hf] at h
      cases h
    | ok l' =>
      rw [hf] at h
      cases h
      intro c hc
      rw [Piece.clauseTextsAll_reverse] at hc
      exact (hs.finishClause hf (.inl rfl)).1 c hc

end Level.Stable

/-! ## The walk of a level -/

/-- The walks of the text `cs` at depth `depth` from a stable state cut only clause texts that
    stand alone. -/
def WalkStable (maxDepth depth : Nat) (cs : List Char) : Prop :=
  ∀ (whole : List Char) (l : Level) (prev : Option Char) (pieces : List Piece), l.Stable prev cs →
    walkLevel maxDepth depth whole l prev cs = .ok pieces →
    ∀ c ∈ Piece.clauseTextsAll pieces, c ≠ [] → StandsAlone c

section Walk

variable {maxDepth depth : Nat}

theorem splitLevel_stable_of_walk {text : List Char} (h : WalkStable maxDepth depth text)
    {pieces : List Piece} (hs : splitLevel maxDepth depth text = .ok pieces) :
    ∀ c ∈ Piece.clauseTextsAll pieces, c ≠ [] → StandsAlone c := by
  rw [splitLevel] at hs
  split at hs
  · cases hs
    simp
  · exact h text {} none pieces (Level.Stable.start (by simp) rfl rfl (.inl rfl)) hs

theorem walkStable_nil : WalkStable maxDepth depth [] := by
  intro whole l prev pieces hs h
  rw [walkLevel.eq_1] at h
  exact hs.finish h

theorem walkStable_close (rest : List Char) : WalkStable maxDepth depth (')' :: rest) := by
  intro whole l prev pieces _ h
  rw [walkLevel.eq_3] at h
  cases h

/-- A character that starts no keyword is gathered; `BETWEEN` and the `AND` it claims are
    gathered; a connective ends the clause. -/
theorem walkStable_cons {c : Char} {rest : List Char} (hl : c ≠ '(') (hr : c ≠ ')')
    (ih : ∀ after, after.length < (c :: rest).length → WalkStable maxDepth depth after) :
    WalkStable maxDepth depth (c :: rest) := by
  intro whole l prev pieces hs hw
  cases hk : keywordAt prev (c :: rest) with
  | none =>
    rw [walkLevel_cons_of_keywordAt_none hl hr hk] at hw
    refine ih rest (by simp) whole _ _ pieces ?_ hw
    have hnext := Level.Stable.gather (x := [c]) (b := l.betweenOpen) hs (List.cons_ne_nil _ _)
      fun r tail hrest hg => by
        rw [List.singleton_append]
        exact .char hl hr (by rw [← hrest]; exact hk) (by simpa using hg)
    simpa using hnext
  | some r =>
    obtain ⟨k, word, after⟩ := r
    have heq := keywordAt_eq hk
    have hlen := length_keywordAt hk
    obtain ⟨-, hne, -⟩ := keywordAt_some hk
    -- `BETWEEN`, or the `AND` it waits for, is gathered into the clause
    have hgather : ∀ b, (∀ r tail, after = r ++ tail →
        Gathers tail b word.getLast? (l.currentRev.reverse ++ word) r →
        Gathers tail l.betweenOpen prev l.currentRev.reverse (word ++ r)) →
        walkLevel maxDepth depth whole
          { l with betweenOpen := b, currentRev := word.reverse ++ l.currentRev }
          word.getLast? after = .ok pieces →
        ∀ c ∈ Piece.clauseTextsAll pieces, c ≠ [] → StandsAlone c := by
      intro b hstep hw'
      exact ih after hlen whole _ _ pieces (Level.Stable.gather (by rwa [heq] at hs) hne hstep) hw'
    rw [walkLevel_keyword hl hr hk] at hw
    rcases k with (_ | _) | _
    · dsimp only at hw
      split_ifs at hw with hopen
      · refine hgather false (fun r tail hafter hg => ?_) hw
        rw [hopen]
        rw [heq, hafter] at hk
        exact .claim hk hg
      · split at hw
        · cases hw
        · exact ih after hlen whole _ _ pieces (hs.connect hk ‹_›) hw
    · dsimp only at hw
      split at hw
      · cases hw
      · exact ih after hlen whole _ _ pieces (hs.connect hk ‹_›) hw
    · refine hgather true (fun r tail hafter hg => ?_) hw
      rw [heq, hafter] at hk
      exact .between hk hg

/-- A matched parenthesis opens a group, whose clause texts stand alone by the split of its
    own text, or its span is gathered into the clause. -/
theorem walkStable_open {rest : List Char}
    (ih : ∀ cs, cs.length < ('(' :: rest).length → ∀ d, WalkStable maxDepth d cs) :
    WalkStable maxDepth depth ('(' :: rest) := by
  intro whole l prev pieces hs hw
  cases hc : closeParen 0 [] rest with
  | none =>
    obtain ⟨e, he⟩ := @walkLevel_open_none maxDepth depth whole l prev _ hc
    rw [he] at hw
    cases hw
  | some r =>
    obtain ⟨inner, after⟩ := r
    have hrest := closeParen_eq hc
    simp only [List.reverse_nil, List.nil_append] at hrest
    subst hrest
    have hinner : inner.length < ('(' :: (inner ++ ')' :: after)).length := by
      simp only [List.length_cons, List.length_append]
      omega
    have hafter : after.length < ('(' :: (inner ++ ')' :: after)).length := by
      simp only [List.length_cons, List.length_append]
      omega
    rw [walkLevel_open_some hc] at hw
    split_ifs at hw with hhead
    · split at hw
      · cases hw
      · cases hw
      rename_i group _ hs'
      have hgroup := splitLevel_stable_of_walk (ih inner hinner (depth + 1)) hs'
      exact ih after hafter depth whole _ _ pieces (hs.group hgroup) hw
    · -- the span after a head that opens no group is gathered
      have hopens : opensGroup l.currentRev.reverse = false := Bool.eq_false_iff.2 hhead
      have hlast : ('(' :: inner ++ [')']).getLast? = some ')' := by
        rw [List.getLast?_concat]
      have hnext := Level.Stable.gather (x := '(' :: inner ++ [')']) (b := l.betweenOpen)
        (by simpa using hs) (List.cons_ne_nil _ _) fun r tail hrest hg => by
          rw [hlast, ← List.append_assoc] at hg
          simpa using Gathers.span (closeParen_cut hc []) hopens hg
      rw [hlast] at hnext
      exact ih after hafter depth whole _ _ pieces (by simpa using hnext) hw

end Walk

/-- The walk of every level text from a stable state. -/
theorem walkLevel_stable (maxDepth : Nat) : ∀ (depth : Nat) (cs : List Char),
    WalkStable maxDepth depth cs
  | depth, [] => walkStable_nil
  | depth, c :: rest => by
    by_cases hl : c = '('
    · subst hl
      exact walkStable_open fun cs _ d => walkLevel_stable maxDepth d cs
    · by_cases hr : c = ')'
      · subst hr
        exact walkStable_close rest
      · exact walkStable_cons hl hr fun after _ => walkLevel_stable maxDepth depth after
termination_by _ cs => cs.length
decreasing_by all_goals simp only [List.length_cons] at *; omega

/-- Split clauses are maximal and stable: every clause text a split cuts, at any depth, split
    by itself with any depth limit is one clause joined by `AND`, itself. -/
theorem split_clause_stable {text : List Char} {maxDepth : Nat} {pieces : List Piece}
    (h : split text maxDepth = .ok pieces) :
    ∀ c ∈ Piece.clauseTextsAll pieces, c ≠ [] → ∀ d, split c d = .ok [.clause .and c] :=
  splitLevel_stable_of_walk (walkLevel_stable maxDepth 0 text) h

/-- `a BETWEEN 1 AND 2 OR (b IN (1))` splits into a clause that keeps the `AND` its `BETWEEN`
    claims and a group whose clause keeps its list; both stand alone. -/
theorem split_clause_stable_between_group :
    split "a BETWEEN 1 AND 2 OR (b IN (1))".toList 8 =
        .ok [.clause .and "a BETWEEN 1 AND 2".toList,
          .group .or false [.clause .and "b IN (1)".toList]] ∧
      ∀ c ∈ Piece.clauseTextsAll [.clause .and "a BETWEEN 1 AND 2".toList,
          .group .or false [.clause .and "b IN (1)".toList]],
        c ≠ [] → ∀ d, split c d = .ok [.clause .and c] := by
  have htext : "a BETWEEN 1 AND 2 OR (b IN (1))".toList = ['a', ' ', 'B', 'E', 'T', 'W', 'E',
      'E', 'N', ' ', '1', ' ', 'A', 'N', 'D', ' ', '2', ' ', 'O', 'R', ' ', '(', 'b', ' ', 'I',
      'N', ' ', '(', '1', ')', ')'] := by
    decide
  have hfirst : "a BETWEEN 1 AND 2".toList =
      ['a', ' ', 'B', 'E', 'T', 'W', 'E', 'E', 'N', ' ', '1', ' ', 'A', 'N', 'D', ' ', '2'] := by
    decide
  have hsecond : "b IN (1)".toList = ['b', ' ', 'I', 'N', ' ', '(', '1', ')'] := by decide
  have hbetween : keywordAt (some ' ') ['B', 'E', 'T', 'W', 'E', 'E', 'N', ' ', '1', ' ', 'A',
      'N', 'D', ' ', '2', ' ', 'O', 'R', ' ', '(', 'b', ' ', 'I', 'N', ' ', '(', '1', ')', ')'] =
      some (.between, ['B', 'E', 'T', 'W', 'E', 'E', 'N'], [' ', '1', ' ', 'A', 'N', 'D', ' ', '2',
        ' ', 'O', 'R', ' ', '(', 'b', ' ', 'I', 'N', ' ', '(', '1', ')', ')']) := by
    decide
  have hand : keywordAt (some ' ') ['A', 'N', 'D', ' ', '2', ' ', 'O', 'R', ' ', '(', 'b', ' ',
      'I', 'N', ' ', '(', '1', ')', ')'] =
      some (.connective .and, ['A', 'N', 'D'], [' ', '2', ' ', 'O', 'R', ' ', '(', 'b', ' ', 'I',
        'N', ' ', '(', '1', ')', ')']) := by
    decide
  have hor : keywordAt (some ' ') ['O', 'R', ' ', '(', 'b', ' ', 'I', 'N', ' ', '(', '1', ')',
      ')'] = some (.connective .or, ['O', 'R'], [' ', '(', 'b', ' ', 'I', 'N', ' ', '(', '1', ')',
        ')']) := by
    decide
  have hfinish : Level.finishClause { currentRev := [' ', '2', ' ', 'D', 'N', 'A', ' ', '1', ' ',
      'N', 'E', 'E', 'W', 'T', 'E', 'B', ' ', 'a'] } =
      .ok { piecesRev := [.clause .and ['a', ' ', 'B', 'E', 'T', 'W', 'E', 'E', 'N', ' ', '1', ' ',
        'A', 'N', 'D', ' ', '2']] } := rfl
  have hgroup : closeParen 0 [] ['b', ' ', 'I', 'N', ' ', '(', '1', ')', ')'] =
      some (['b', ' ', 'I', 'N', ' ', '(', '1', ')'], []) := rfl
  have hlist : closeParen 0 [] ['1', ')'] = some (['1'], []) := rfl
  -- the group's text: `b IN ` is gathered, and its list after a head that opens no group too
  have hinner : splitLevel 8 1 ['b', ' ', 'I', 'N', ' ', '(', '1', ')'] =
      .ok [.clause .and ['b', ' ', 'I', 'N', ' ', '(', '1', ')']] := by
    rw [splitLevel, if_neg (by decide)]
    simp (disch := decide) only [walkLevel_cons_of_keywordAt_none]
    rw [walkLevel_open_some hlist, if_neg (by decide), walkLevel.eq_1]
    rfl
  -- the walk: `BETWEEN` waits for the `AND` it claims, `OR` ends the clause, and the
  -- parenthesis after nothing opens a group
  have hsplit : split "a BETWEEN 1 AND 2 OR (b IN (1))".toList 8 =
      .ok [.clause .and "a BETWEEN 1 AND 2".toList,
        .group .or false [.clause .and "b IN (1)".toList]] := by
    rw [split, splitLevel, if_neg (by decide), htext, hfirst, hsecond]
    simp (disch := decide) only [walkLevel_cons_of_keywordAt_none]
    rw [walkLevel_keyword (by decide) (by decide) hbetween]
    dsimp only
    simp (disch := decide) only [walkLevel_cons_of_keywordAt_none]
    rw [walkLevel_keyword (by decide) (by decide) hand]
    dsimp only
    rw [if_pos rfl]
    simp (disch := decide) only [walkLevel_cons_of_keywordAt_none, List.reverse_cons,
      List.reverse_nil, List.nil_append, List.cons_append]
    rw [walkLevel_keyword (by decide) (by decide) hor]
    dsimp only
    rw [hfinish]
    dsimp only
    simp (disch := decide) only [walkLevel_cons_of_keywordAt_none]
    rw [walkLevel_open_some hgroup, if_pos (by decide), if_neg (by decide), if_neg (by decide),
      hinner]
    dsimp only
    rw [walkLevel.eq_1]
    rfl
  exact ⟨hsplit, split_clause_stable hsplit⟩

end FilterQuery.Query

import FilterQuery.Proofs.Symbols
import Mathlib.Tactic.SplitIfs

/-!
# The splitter over symbols

`splitSyms` splits a text of symbols into pieces the way `splitLevel` splits a guarded text,
with every placeholder read as one symbol. It is the splitter as it behaves on every guarded
text: written with any marker the guard may choose, a text of symbols is split by
`splitLevel` into the pieces of `splitSyms` written with that marker, and one fails exactly
when the other does (`splitLevel_expands`). So where the spans are, and not what they hold
or which marker stands for them, decides how a guarded text is split.

The splitter reads a placeholder one character at a time. None of them is a parenthesis, and
none can start or end a keyword: a placeholder's first character is a marker letter, so a
letter run that reaches a placeholder goes on into the marker and is followed by a digit, which
no keyword may be followed by; and the letter or digit before any later character of the
placeholder is no boundary a keyword may follow.

## Key results

- `closeParen_expandSyms`, `keywordAt_expandSyms`: the splitter's two scans over symbols
- `walkLevel_run`: the characters of a placeholder are gathered into the clause text
- `splitLevel_expands`: the splitter on a guarded text is the splitter over its symbols
-/

namespace FilterQuery.Query

/-- A result on a guarded text against the same computation on its symbols: both fail, or
    both succeed and the first is the second written out by `f`. -/
def Expands {ε α β : Type} (f : β → α) : Except ε α → Option β → Prop
  | .ok x, some y => x = f y
  | .error _, none => True
  | _, _ => False

@[simp] theorem expands_ok_some {ε α β : Type} {f : β → α} {x : α} {y : β} :
    Expands (ε := ε) f (.ok x) (some y) ↔ x = f y := Iff.rfl

@[simp] theorem expands_error_none {ε α β : Type} {f : β → α} {e : ε} :
    Expands f (.error e : Except ε α) (none : Option β) := trivial

theorem Expands.eq_ok {ε α β : Type} {f : β → α} {x : Except ε α} {y : β}
    (h : Expands f x (some y)) : x = .ok (f y) := by
  cases x with
  | ok a => exact congrArg _ h
  | error e => cases h

theorem Expands.eq_error {ε α β : Type} {f : β → α} {x : Except ε α} (h : Expands f x none) :
    ∃ e, x = .error e := by
  cases x with
  | ok a => cases h
  | error e => exact ⟨e, rfl⟩

/-! ## Pieces and levels over symbols -/

/-- A piece of a split text of symbols. -/
inductive SymPiece where
  | clause (conn : Connective) (text : List Sym)
  | group (conn : Connective) (negated : Bool) (pieces : List SymPiece)

mutual

/-- The piece written with the marker `m`. -/
def SymPiece.expand (m : List Char) : SymPiece → Piece
  | .clause c t => .clause c (expandSyms m t)
  | .group c n ps => .group c n (SymPiece.expandAll m ps)

/-- The pieces written with the marker `m`. -/
def SymPiece.expandAll (m : List Char) : List SymPiece → List Piece
  | [] => []
  | p :: ps => p.expand m :: SymPiece.expandAll m ps

end

mutual

/-- The clause texts of a piece, left to right. -/
def SymPiece.texts : SymPiece → List (List Sym)
  | .clause _ t => [t]
  | .group _ _ ps => SymPiece.textsAll ps

/-- The clause texts of pieces, left to right. -/
def SymPiece.textsAll : List SymPiece → List (List Sym)
  | [] => []
  | p :: ps => p.texts ++ SymPiece.textsAll ps

end

theorem SymPiece.expandAll_eq_map (m : List Char) :
    ∀ ps : List SymPiece, SymPiece.expandAll m ps = ps.map (SymPiece.expand m)
  | [] => rfl
  | p :: ps => by rw [SymPiece.expandAll, SymPiece.expandAll_eq_map m ps, List.map_cons]

theorem SymPiece.textsAll_append :
    ∀ ps qs : List SymPiece, SymPiece.textsAll (ps ++ qs) = SymPiece.textsAll ps ++ SymPiece.textsAll qs
  | [], _ => rfl
  | p :: ps, qs => by
    rw [List.cons_append, SymPiece.textsAll, SymPiece.textsAll, SymPiece.textsAll_append ps qs,
      List.append_assoc]

theorem SymPiece.textsAll_eq_flatMap :
    ∀ ps : List SymPiece, SymPiece.textsAll ps = ps.flatMap SymPiece.texts
  | [] => rfl
  | p :: ps => by rw [SymPiece.textsAll, SymPiece.textsAll_eq_flatMap ps, List.flatMap_cons]

/-- The state of one level of the splitter over symbols; the clause text is kept in order. -/
structure SymLevel where
  piecesRev : List SymPiece := []
  pending : Option Connective := none
  current : List Sym := []
  afterGroup : Bool := false
  betweenOpen : Bool := false

namespace SymLevel

/-- The level written with the marker `m`. -/
def expand (m : List Char) (L : SymLevel) : Level where
  piecesRev := SymPiece.expandAll m L.piecesRev
  pending := L.pending
  currentRev := (expandSyms m L.current).reverse
  afterGroup := L.afterGroup
  betweenOpen := L.betweenOpen

/-- The connective for the next piece. -/
def connective (L : SymLevel) : Connective := L.pending.getD .and

/-- `Level.finishClause` over symbols. -/
def finishClause (L : SymLevel) : Option SymLevel :=
  let text := trimSyms L.current
  if L.afterGroup then
    if text.isEmpty then some { L with current := [], afterGroup := false, betweenOpen := false }
    else none
  else
    some { L with piecesRev := .clause L.connective text :: L.piecesRev, pending := none,
                  current := [], afterGroup := false, betweenOpen := false }

/-- `Level.finish` over symbols. -/
def finish (L : SymLevel) : Option (List SymPiece) :=
  if L.afterGroup && L.current.all (Sym.lift Text.isWhiteSpace false) then some L.piecesRev.reverse
  else L.finishClause.map fun L' => L'.piecesRev.reverse

variable {m : List Char}

@[simp] theorem expand_piecesRev (L : SymLevel) :
    (L.expand m).piecesRev = SymPiece.expandAll m L.piecesRev := rfl
@[simp] theorem expand_pending (L : SymLevel) : (L.expand m).pending = L.pending := rfl
@[simp] theorem expand_currentRev (L : SymLevel) :
    (L.expand m).currentRev = (expandSyms m L.current).reverse := rfl
@[simp] theorem expand_afterGroup (L : SymLevel) : (L.expand m).afterGroup = L.afterGroup := rfl
@[simp] theorem expand_betweenOpen (L : SymLevel) : (L.expand m).betweenOpen = L.betweenOpen := rfl
@[simp] theorem expand_connective (L : SymLevel) : (L.expand m).connective = L.connective := rfl

theorem expand_currentText (hm : MarkerOk m) (L : SymLevel) :
    (L.expand m).currentText = expandSyms m (trimSyms L.current) := by
  rw [Level.currentText, expand, List.reverse_reverse, trim_expandSyms hm]

theorem finishClause_expand_some (hm : MarkerOk m) {L L' : SymLevel}
    (h : L.finishClause = some L') : (L.expand m).finishClause = .ok (L'.expand m) := by
  unfold finishClause at h
  rw [Level.finishClause, expand_currentText hm, isEmpty_expandSyms hm]
  by_cases hg : L.afterGroup
  · by_cases he : (trimSyms L.current).isEmpty
    · simp only [hg, he, if_true, Option.some.injEq] at h
      subst h
      simp [expand, hg, he]
    · simp [hg, he] at h
  · simp only [hg, Bool.false_eq_true, if_false, Option.some.injEq] at h
    subst h
    simp [expand, hg, SymPiece.expandAll, SymPiece.expand, connective, Level.connective]

theorem finishClause_expand_none (hm : MarkerOk m) {L : SymLevel} (h : L.finishClause = none) :
    ∃ e, (L.expand m).finishClause = .error e := by
  unfold finishClause at h
  rw [Level.finishClause, expand_currentText hm, isEmpty_expandSyms hm]
  by_cases hg : L.afterGroup
  · by_cases he : (trimSyms L.current).isEmpty
    · simp [hg, he] at h
    · simp [expand, hg, he]
  · simp [hg] at h

theorem finish_expands (hm : MarkerOk m) (L : SymLevel) :
    Expands (SymPiece.expandAll m) (L.expand m).finish L.finish := by
  have hblank : Text.isBlank (L.expand m).currentRev =
      L.current.all (Sym.lift Text.isWhiteSpace false) := by
    rw [expand, Text.isBlank, List.all_reverse, ← Text.isBlank, isBlank_expandSyms hm]
  have hgroup : (L.expand m).afterGroup = L.afterGroup := rfl
  rw [Level.finish, finish, hblank, hgroup]
  by_cases hb : (L.afterGroup && L.current.all (Sym.lift Text.isWhiteSpace false)) = true
  · rw [if_pos hb, if_pos hb]
    simp [expand, SymPiece.expandAll_eq_map, List.map_reverse]
  · rw [if_neg hb, if_neg hb]
    cases hf : L.finishClause with
    | some L' =>
      rw [finishClause_expand_some hm hf]
      show (L'.expand m).piecesRev.reverse = SymPiece.expandAll m L'.piecesRev.reverse
      simp [expand, SymPiece.expandAll_eq_map, List.map_reverse]
    | none =>
      obtain ⟨e, he⟩ := finishClause_expand_none hm hf
      rw [he]
      exact trivial

end SymLevel

/-! ## The matching parenthesis -/

/-- `closeParen` over symbols; `acc` is the inner text read, in order. -/
def closeParenSyms : Nat → List Sym → List Sym → Option (List Sym × List Sym)
  | _, _, [] => none
  | depth, acc, s :: rest =>
    if s = .char '(' then closeParenSyms (depth + 1) (acc ++ [s]) rest
    else if s = .char ')' then
      match depth with
      | 0 => some (acc, rest)
      | d + 1 => closeParenSyms d (acc ++ [s]) rest
    else closeParenSyms depth (acc ++ [s]) rest

theorem length_closeParenSyms {depth : Nat} {acc a inner after : List Sym}
    (h : closeParenSyms depth acc a = some (inner, after)) :
    inner.length + after.length + 1 = acc.length + a.length := by
  induction a generalizing depth acc with
  | nil => simp [closeParenSyms] at h
  | cons s rest ih =>
    simp only [closeParenSyms] at h
    split at h
    · have := ih h; simp at this ⊢; omega
    · split at h
      · split at h
        · cases h; simp only [List.length_cons]; omega
        · have := ih h; simp at this ⊢; omega
      · have := ih h; simp at this ⊢; omega

/-- `closeParen` passes over characters that are no parenthesis. -/
theorem closeParen_append_of_not_paren {depth : Nat} :
    ∀ {ys acc : List Char} (rest : List Char), (∀ c ∈ ys, c ≠ '(' ∧ c ≠ ')') →
      closeParen depth acc (ys ++ rest) = closeParen depth (ys.reverse ++ acc) rest
  | [], _, _, _ => rfl
  | y :: ys, acc, rest, h => by
    obtain ⟨h₁, h₂⟩ := h y List.mem_cons_self
    simp only [List.cons_append, closeParen, if_neg h₁, if_neg h₂]
    rw [closeParen_append_of_not_paren rest fun c hc => h c (List.mem_cons_of_mem _ hc)]
    simp

/-- No character of a placeholder is a parenthesis. -/
theorem not_paren_of_mem {c : Char} (h : c ∈ markerAlphabet ∨ c ∈ digitChars) :
    c ≠ '(' ∧ c ≠ ')' := by
  have := isWordDelimiter_of_mem h
  simp only [isWordDelimiter, Bool.or_eq_false_iff, decide_eq_false_iff_not] at this
  exact ⟨this.1.1.1.1.1.1.2, this.1.1.1.1.1.2⟩

theorem closeParen_expandSyms {m : List Char} (hm : MarkerOk m) :
    ∀ (depth : Nat) (acc a : List Sym),
      closeParen depth (expandSyms m acc).reverse (expandSyms m a) =
        (closeParenSyms depth acc a).map fun r => (expandSyms m r.1, expandSyms m r.2)
  | _, _, [] => rfl
  | depth, acc, .char c :: rest => by
    have hstep : ∀ d, closeParen d (c :: (expandSyms m acc).reverse) (expandSyms m rest) =
        (closeParenSyms d (acc ++ [.char c]) rest).map
          fun r => (expandSyms m r.1, expandSyms m r.2) := by
      intro d
      rw [← closeParen_expandSyms hm d (acc ++ [Sym.char c]) rest]
      simp
    simp only [expandSyms_cons, Sym.expand_char, List.singleton_append, closeParen,
      closeParenSyms, Sym.char.injEq]
    split
    · exact hstep _
    · split
      · split
        · simp
        · exact hstep _
      · exact hstep _
  | depth, acc, .slot i :: rest => by
    have hnot : ∀ c ∈ placeholder m i, c ≠ '(' ∧ c ≠ ')' :=
      fun c hc => not_paren_of_mem (mem_placeholder_of_markerOk hm hc)
    have hacc : (placeholder m i).reverse ++ (expandSyms m acc).reverse =
        (expandSyms m (acc ++ [Sym.slot i])).reverse := by
      simp
    rw [expandSyms_cons, Sym.expand_slot, closeParen_append_of_not_paren _ hnot, hacc,
      closeParen_expandSyms hm depth (acc ++ [Sym.slot i]) rest]
    simp [closeParenSyms]

/-! ## Keywords -/

/-- The run of ASCII letters at the front of symbols, and the symbols after it. -/
def letterRun : List Sym → List Char × List Sym
  | .char c :: a =>
    if c.isAlpha then ((letterRun a).1.cons c, (letterRun a).2) else ([], .char c :: a)
  | a => ([], a)

theorem letterRun_eq : ∀ a : List Sym, a = (letterRun a).1.map Sym.char ++ (letterRun a).2
  | [] => rfl
  | .slot _ :: _ => rfl
  | .char c :: a => by
    unfold letterRun
    split
    · simp only [List.map_cons, List.cons_append, ← letterRun_eq a]
    · rfl

theorem isAlpha_of_mem_letterRun : ∀ {a : List Sym} {c : Char}, c ∈ (letterRun a).1 → c.isAlpha
  | [], _, h => by simp [letterRun] at h
  | .slot _ :: _, _, h => by simp [letterRun] at h
  | .char d :: a, c, h => by
    unfold letterRun at h
    split at h
    · rcases List.mem_cons.1 h with rfl | h
      · assumption
      · exact isAlpha_of_mem_letterRun h
    · simp at h

/-- The run stops at the end, at a character that is no letter, or at a placeholder. -/
theorem letterRun_rest : ∀ a : List Sym, (letterRun a).2 = [] ∨
    (∃ d r, (letterRun a).2 = .char d :: r ∧ d.isAlpha = false) ∨
    ∃ i r, (letterRun a).2 = .slot i :: r
  | [] => .inl rfl
  | .slot i :: r => .inr (.inr ⟨i, r, rfl⟩)
  | .char c :: a => by
    unfold letterRun
    split
    · exact letterRun_rest a
    · rename_i hc
      exact .inr (.inl ⟨c, a, rfl, by simpa using hc⟩)

/-- `boundaryBefore` over symbols: a placeholder ends with a letter. -/
def boundaryBeforeSym : Option Sym → Bool
  | none => true
  | some (.char c) => Text.isWhiteSpace c || c = ')'
  | some (.slot _) => false

/-- `boundaryAfter` over symbols: a placeholder starts with a letter. -/
def boundaryAfterSym : List Sym → Bool
  | [] => true
  | .char c :: _ => Text.isWhiteSpace c || c = '('
  | .slot _ :: _ => false

/-- `keywordAt` over symbols. -/
def keywordAtSyms (prev : Option Sym) (a : List Sym) : Option (Keyword × List Char × List Sym) :=
  let word := (letterRun a).1
  let after := (letterRun a).2
  if !boundaryBeforeSym prev || word.isEmpty || !boundaryAfterSym after then none
  else if Text.isWord word "and" then some (.connective .and, word, after)
  else if Text.isWord word "or" then some (.connective .or, word, after)
  else if Text.isWord word "between" then some (.between, word, after)
  else none

theorem length_keywordAtSyms {prev : Option Sym} {a after : List Sym} {k : Keyword}
    {word : List Char} (h : keywordAtSyms prev a = some (k, word, after)) :
    after.length < a.length := by
  have hsplit := congrArg List.length (letterRun_eq a)
  unfold keywordAtSyms at h
  dsimp only at h
  split at h
  · contradiction
  · rename_i hcond
    have hne : 0 < (letterRun a).1.length := by
      cases hw : (letterRun a).1 with
      | nil => simp [hw] at hcond
      | cons _ _ => simp
    simp only [List.length_append, List.length_map] at hsplit
    split at h
    · cases h; omega
    · split at h
      · cases h; omega
      · split at h
        · cases h; omega
        · contradiction

/-- No letter or digit of a placeholder is a boundary before a keyword. -/
theorem boundaryBefore_of_mem {c : Char} (h : c ∈ markerAlphabet ∨ c ∈ digitChars) :
    boundaryBefore (some c) = false := by
  have hws := isWhiteSpace_of_mem h
  have hparen := (not_paren_of_mem h).2
  simp [boundaryBefore, hws, hparen]

theorem getLastD_mem_markerAlphabet {m : List Char} (hm : MarkerOk m) :
    m.getLastD 'a' ∈ markerAlphabet := by
  rw [List.getLastD_eq_getLast?]
  cases hl : m.getLast? with
  | none => exact absurd (List.getLast?_eq_none_iff.1 hl) hm.ne_nil
  | some x => exact hm.letters x (List.mem_of_getLast? hl)

theorem boundaryBefore_expand {m : List Char} (hm : MarkerOk m) :
    ∀ prev : Option Sym, boundaryBefore (prev.map (Sym.last m)) = boundaryBeforeSym prev
  | none => rfl
  | some (.char _) => rfl
  | some (.slot _) => boundaryBefore_of_mem (.inl (getLastD_mem_markerAlphabet hm))

/-- The keyword at the front of a guarded text is the keyword at the front of its symbols. -/
theorem keywordAt_expandSyms {m : List Char} (hm : MarkerOk m) (prev : Option Sym)
    (a : List Sym) :
    keywordAt (prev.map (Sym.last m)) (expandSyms m a) =
      (keywordAtSyms prev a).map fun r => (r.1, r.2.1, expandSyms m r.2.2) := by
  have ha : expandSyms m a = (letterRun a).1 ++ expandSyms m (letterRun a).2 := by
    conv => lhs; rw [letterRun_eq a]
    simp
  have hletters : ∀ c ∈ (letterRun a).1, c.isAlpha := fun _ hc => isAlpha_of_mem_letterRun hc
  rcases letterRun_rest a with hr | ⟨d, r, hr, hd⟩ | ⟨i, r, hr⟩
  · -- the letters run to the end
    rw [ha, hr]
    simp only [keywordAt]
    rw [List.takeWhile_append_of_pos hletters, List.dropWhile_append_of_pos hletters]
    simp only [expandSyms_nil, List.takeWhile_nil, List.dropWhile_nil, List.append_nil,
      keywordAtSyms, hr, boundaryBefore_expand hm, boundaryAfter, boundaryAfterSym]
    split_ifs <;> rfl
  · -- the letters stop at a character that is no letter
    rw [ha, hr]
    simp only [keywordAt]
    rw [List.takeWhile_append_of_pos hletters, List.dropWhile_append_of_pos hletters]
    simp only [expandSyms_cons, Sym.expand_char, List.singleton_append, keywordAtSyms, hr,
      List.takeWhile_cons, List.dropWhile_cons, hd, Bool.false_eq_true, ↓reduceIte,
      List.append_nil, boundaryBefore_expand hm, boundaryAfter, boundaryAfterSym]
    split_ifs <;> rfl
  · -- the letters run into a placeholder: its marker is followed by a digit
    obtain ⟨x, xs, hx⟩ := List.exists_cons_of_ne_nil (Nat.toDigits_ne_nil (n := i) (b := 10))
    have hdigit : x ∈ digitChars := mem_digitChars_of_mem_toDigits (hx ▸ List.mem_cons_self)
    have hmarker : ∀ c ∈ m, c.isAlpha := fun c hc => isAlpha_of_mem_markerAlphabet (hm.letters c hc)
    have hafter : (expandSyms m a).dropWhile Char.isAlpha =
        x :: (xs ++ (m ++ expandSyms m r)) := by
      rw [ha, hr, List.dropWhile_append_of_pos hletters]
      simp only [expandSyms_cons, Sym.expand_slot, placeholder, List.append_assoc,
        List.dropWhile_append_of_pos hmarker, hx, List.cons_append, List.dropWhile_cons,
        isAlpha_of_mem_digitChars hdigit, Bool.false_eq_true, ↓reduceIte]
    have hbound : boundaryAfter (x :: (xs ++ (m ++ expandSyms m r))) = false := by
      simp [boundaryAfter, isWhiteSpace_of_mem (.inr hdigit), (not_paren_of_mem (.inr hdigit)).1]
    simp [keywordAt, keywordAtSyms, hafter, hbound, hr, boundaryAfterSym]


/-! ## Walking through a placeholder -/

theorem keywordAt_of_boundaryBefore {prev : Option Char} (h : boundaryBefore prev = false)
    (cs : List Char) : keywordAt prev cs = none := by
  simp [keywordAt, h]

/-- A character that is no parenthesis and starts no keyword is gathered into the clause text. -/
theorem walkLevel_cons_of_keywordAt_none {maxDepth depth : Nat} {whole : List Char} {l : Level}
    {prev : Option Char} {c : Char} {rest : List Char} (hc₁ : c ≠ '(') (hc₂ : c ≠ ')')
    (hk : keywordAt prev (c :: rest) = none) :
    walkLevel maxDepth depth whole l prev (c :: rest) =
      walkLevel maxDepth depth whole { l with currentRev := c :: l.currentRev } (some c) rest := by
  rw [walkLevel.eq_4 _ _ _ _ _ _ _ hc₁ hc₂]
  split
  all_goals first
    | rfl
    | rename_i heq; simp [hk] at heq

/-- The characters of a placeholder after its first are gathered into the clause text: the
    letter or digit before each of them is no boundary a keyword may follow. -/
theorem walkLevel_run {maxDepth depth : Nat} {whole : List Char} :
    ∀ {ys : List Char} {l : Level} {y : Char} (rest : List Char),
      (y ∈ markerAlphabet ∨ y ∈ digitChars) → (∀ c ∈ ys, c ∈ markerAlphabet ∨ c ∈ digitChars) →
      walkLevel maxDepth depth whole l (some y) (ys ++ rest) =
        walkLevel maxDepth depth whole { l with currentRev := ys.reverse ++ l.currentRev }
          (some (ys.getLastD y)) rest
  | [], l, y, rest, _, _ => by simp
  | z :: zs, l, y, rest, hy, hys => by
    have hz := hys z List.mem_cons_self
    obtain ⟨hz₁, hz₂⟩ := not_paren_of_mem hz
    rw [List.cons_append, walkLevel_cons_of_keywordAt_none hz₁ hz₂
      (keywordAt_of_boundaryBefore (boundaryBefore_of_mem hy) _),
      walkLevel_run rest hz fun c hc => hys c (List.mem_cons_of_mem _ hc), List.getLastD_cons]
    simp

/-- A placeholder is gathered into the clause text whole, and the walk goes on after it as
    after a letter. -/
theorem walkLevel_placeholder {m : List Char} (hm : MarkerOk m) {maxDepth depth : Nat}
    {whole : List Char} {l : Level} {prev : Option Char} {i : Nat} {rest : List Char}
    (hk : ∀ x xs, placeholder m i = x :: xs → keywordAt prev (x :: (xs ++ rest)) = none) :
    walkLevel maxDepth depth whole l prev (placeholder m i ++ rest) =
      walkLevel maxDepth depth whole { l with currentRev := (placeholder m i).reverse ++ l.currentRev }
        (some (m.getLastD 'a')) rest := by
  obtain ⟨x, xs, hx, hxm⟩ := placeholder_eq_cons hm i
  have hxs : ∀ c ∈ xs, c ∈ markerAlphabet ∨ c ∈ digitChars :=
    fun c hc => mem_placeholder_of_markerOk hm (hx ▸ List.mem_cons_of_mem _ hc)
  obtain ⟨hx₁, hx₂⟩ := not_paren_of_mem (.inl hxm)
  have hlast : xs.getLastD x = m.getLastD 'a' := by
    obtain ⟨y, ys, hy⟩ := List.exists_cons_of_ne_nil hm.ne_nil
    have h := congrArg List.getLast? hx
    rw [placeholder, List.getLast?_append, hy, List.getLast?_cons, List.getLast?_cons] at h
    simp only [Option.some_or, Option.some.injEq] at h
    rw [hy, List.getLastD_cons, List.getLastD_eq_getLast?, List.getLastD_eq_getLast?]
    exact h.symm
  rw [hx, List.cons_append, walkLevel_cons_of_keywordAt_none hx₁ hx₂ (hk x xs hx),
    walkLevel_run rest (.inl hxm) hxs, hlast]
  simp

/-! ## The branches of `walkLevel` -/

section WalkLevel

variable {maxDepth depth : Nat} {whole : List Char} {l : Level} {prev : Option Char}

theorem walkLevel_open_none {rest : List Char} (hc : closeParen 0 [] rest = none) :
    ∃ e, walkLevel maxDepth depth whole l prev ('(' :: rest) = .error e := by
  rw [walkLevel.eq_2]
  split
  · exact ⟨_, rfl⟩
  · rename_i heq
    rw [hc] at heq
    cases heq

theorem walkLevel_open_some {rest inner after : List Char}
    (hc : closeParen 0 [] rest = some (inner, after)) :
    walkLevel maxDepth depth whole l prev ('(' :: rest) =
      if l.currentText.isEmpty || Text.isWord l.currentText "not" then
        if l.afterGroup then
          .error (.at_ .groupsWithoutConnective (String.ofList ('(' :: inner ++ [')'])))
        else if maxDepth < depth + 1 then
          .error (.at_ .tooDeep (String.ofList ('(' :: inner ++ [')'])))
        else
          match splitLevel maxDepth (depth + 1) inner with
          | .error e => .error e
          | .ok [] => .error (.at_ .emptyGroup (String.ofList ('(' :: inner ++ [')'])))
          | .ok pieces =>
            walkLevel maxDepth depth whole
              { l with piecesRev := Piece.group l.connective (!l.currentText.isEmpty) pieces ::
                  l.piecesRev, pending := none, currentRev := [], afterGroup := true }
              (some ')') after
      else
        walkLevel maxDepth depth whole
          { l with currentRev := ('(' :: inner ++ [')']).reverse ++ l.currentRev } (some ')') after := by
  rw [walkLevel.eq_2]
  split
  · rename_i heq
    rw [hc] at heq
    cases heq
  · rename_i inner' after' heq
    rw [hc] at heq
    cases heq
    rfl

theorem walkLevel_keyword {c : Char} {rest word after : List Char} {k : Keyword}
    (hc₁ : c ≠ '(') (hc₂ : c ≠ ')') (hk : keywordAt prev (c :: rest) = some (k, word, after)) :
    walkLevel maxDepth depth whole l prev (c :: rest) =
      match k with
      | .connective .and =>
        if l.betweenOpen then
          walkLevel maxDepth depth whole
            { l with betweenOpen := false, currentRev := word.reverse ++ l.currentRev }
            word.getLast? after
        else
          match l.finishClause with
          | .error e => .error e
          | .ok l' => walkLevel maxDepth depth whole { l' with pending := some .and } word.getLast? after
      | .connective .or =>
        match l.finishClause with
        | .error e => .error e
        | .ok l' => walkLevel maxDepth depth whole { l' with pending := some .or } word.getLast? after
      | .between =>
        walkLevel maxDepth depth whole
          { l with betweenOpen := true, currentRev := word.reverse ++ l.currentRev }
          word.getLast? after := by
  rw [walkLevel.eq_4 _ _ _ _ _ _ _ hc₁ hc₂]
  split
  all_goals
    rename_i heq
    rw [hk] at heq
    cases heq <;> rfl

end WalkLevel

/-! ## The splitter over symbols -/

mutual

/-- `splitLevel` over symbols. -/
def splitSyms (maxDepth depth : Nat) (a : List Sym) : Option (List SymPiece) :=
  if a.all (Sym.lift Text.isWhiteSpace false) then some []
  else walkSyms maxDepth depth {} none a
termination_by (a.length, 1)

/-- `walkLevel` over symbols: a placeholder is one symbol, gathered into the clause text. -/
def walkSyms (maxDepth depth : Nat) (L : SymLevel) (prev : Option Sym) (a : List Sym) :
    Option (List SymPiece) :=
  match a with
  | [] => L.finish
  | .char '(' :: rest =>
    match h : closeParenSyms 0 [] rest with
    | none => none
    | some (inner, after) =>
      have := length_closeParenSyms h
      let head := trimSyms L.current
      if head.isEmpty || isWordSyms head "not" then
        if L.afterGroup then none
        else if maxDepth < depth + 1 then none
        else
          match splitSyms maxDepth (depth + 1) inner with
          | none => none
          | some [] => none
          | some pieces =>
            walkSyms maxDepth depth
              { L with piecesRev := .group L.connective (!head.isEmpty) pieces :: L.piecesRev,
                       pending := none, current := [], afterGroup := true }
              (some (.char ')')) after
      else
        walkSyms maxDepth depth { L with current := L.current ++ .char '(' :: inner ++ [.char ')'] }
          (some (.char ')')) after
  | .char ')' :: _ => none
  | s :: rest =>
    match h : keywordAtSyms prev (s :: rest) with
    | some (.connective .and, word, after) =>
      have := length_keywordAtSyms h
      if L.betweenOpen then
        walkSyms maxDepth depth { L with betweenOpen := false, current := L.current ++ word.map .char }
          (word.getLast?.map .char) after
      else
        match L.finishClause with
        | none => none
        | some L' =>
          walkSyms maxDepth depth { L' with pending := some .and } (word.getLast?.map .char) after
    | some (.connective .or, word, after) =>
      have := length_keywordAtSyms h
      match L.finishClause with
      | none => none
      | some L' =>
        walkSyms maxDepth depth { L' with pending := some .or } (word.getLast?.map .char) after
    | some (.between, word, after) =>
      have := length_keywordAtSyms h
      walkSyms maxDepth depth { L with betweenOpen := true, current := L.current ++ word.map .char }
        (word.getLast?.map .char) after
    | none => walkSyms maxDepth depth { L with current := L.current ++ [s] } (some s) rest
termination_by (a.length, 0)
decreasing_by
  all_goals
    apply Prod.Lex.left
    simp only [List.length_cons, List.length_nil] at *
    omega

end


/-! ## The branches of `walkSyms` -/

section WalkSyms

variable {maxDepth depth : Nat} {L : SymLevel} {prev : Option Sym}

theorem walkSyms_open_none {rest : List Sym} (hc : closeParenSyms 0 [] rest = none) :
    walkSyms maxDepth depth L prev (.char '(' :: rest) = none := by
  rw [walkSyms]
  split
  · rfl
  · rename_i heq
    rw [hc] at heq
    cases heq

theorem walkSyms_open_some {rest inner after : List Sym}
    (hc : closeParenSyms 0 [] rest = some (inner, after)) :
    walkSyms maxDepth depth L prev (.char '(' :: rest) =
      if (trimSyms L.current).isEmpty || isWordSyms (trimSyms L.current) "not" then
        if L.afterGroup then none
        else if maxDepth < depth + 1 then none
        else
          match splitSyms maxDepth (depth + 1) inner with
          | none => none
          | some [] => none
          | some pieces =>
            walkSyms maxDepth depth
              { L with piecesRev := .group L.connective (!(trimSyms L.current).isEmpty) pieces ::
                  L.piecesRev, pending := none, current := [], afterGroup := true }
              (some (.char ')')) after
      else
        walkSyms maxDepth depth { L with current := L.current ++ .char '(' :: inner ++ [.char ')'] }
          (some (.char ')')) after := by
  rw [walkSyms]
  split
  · rename_i heq
    rw [hc] at heq
    cases heq
  · rename_i inner' after' heq
    rw [hc] at heq
    cases heq
    rfl

theorem walkSyms_keyword {s : Sym} {rest after : List Sym} {word : List Char} {k : Keyword}
    (hs₁ : s ≠ .char '(') (hs₂ : s ≠ .char ')')
    (hk : keywordAtSyms prev (s :: rest) = some (k, word, after)) :
    walkSyms maxDepth depth L prev (s :: rest) =
      match k with
      | .connective .and =>
        if L.betweenOpen then
          walkSyms maxDepth depth { L with betweenOpen := false, current := L.current ++ word.map .char }
            (word.getLast?.map .char) after
        else
          match L.finishClause with
          | none => none
          | some L' =>
            walkSyms maxDepth depth { L' with pending := some .and } (word.getLast?.map .char) after
      | .connective .or =>
        match L.finishClause with
        | none => none
        | some L' =>
          walkSyms maxDepth depth { L' with pending := some .or } (word.getLast?.map .char) after
      | .between =>
        walkSyms maxDepth depth { L with betweenOpen := true, current := L.current ++ word.map .char }
          (word.getLast?.map .char) after := by
  rw [walkSyms.eq_4 _ _ _ _ _ _ hs₁ hs₂]
  split
  all_goals
    rename_i heq
    rw [hk] at heq
    cases heq <;> rfl

theorem walkSyms_none {s : Sym} {rest : List Sym} (hs₁ : s ≠ .char '(') (hs₂ : s ≠ .char ')')
    (hk : keywordAtSyms prev (s :: rest) = none) :
    walkSyms maxDepth depth L prev (s :: rest) =
      walkSyms maxDepth depth { L with current := L.current ++ [s] } (some s) rest := by
  rw [walkSyms.eq_4 _ _ _ _ _ _ hs₁ hs₂]
  split
  all_goals first
    | rfl
    | rename_i heq; simp [hk] at heq

end WalkSyms


/-! ## The splitter on a guarded text is the splitter over its symbols -/

section Expand

variable {m : List Char}

theorem closeParen_expandSyms_zero (hm : MarkerOk m) {rest inner after : List Sym}
    (hc : closeParenSyms 0 [] rest = some (inner, after)) :
    closeParen 0 [] (expandSyms m rest) = some (expandSyms m inner, expandSyms m after) := by
  have := closeParen_expandSyms hm 0 [] rest
  rw [hc] at this
  simpa using this

/-- The splitter's test for a group, read on a level written with the marker. -/
theorem groupHead_expand (hm : MarkerOk m) (L : SymLevel) :
    ((L.expand m).currentText.isEmpty || Text.isWord (L.expand m).currentText "not") =
      ((trimSyms L.current).isEmpty || isWordSyms (trimSyms L.current) "not") := by
  rw [SymLevel.expand_currentText hm, isEmpty_expandSyms hm, isWord_expandSyms rfl]

/-- A symbol that is no parenthesis is written as a character that is none either. -/
theorem expandSyms_cons_of_not_paren (hm : MarkerOk m) {s : Sym} (hs₁ : s ≠ .char '(')
    (hs₂ : s ≠ .char ')') (rest : List Sym) :
    ∃ c cs, expandSyms m (s :: rest) = c :: cs ∧ c ≠ '(' ∧ c ≠ ')' := by
  cases s with
  | char c =>
    exact ⟨c, expandSyms m rest, rfl, fun h => hs₁ (h ▸ rfl), fun h => hs₂ (h ▸ rfl)⟩
  | slot i =>
    obtain ⟨x, xs, hx, hxm⟩ := placeholder_eq_cons hm i
    exact ⟨x, xs ++ expandSyms m rest, by simp [hx], not_paren_of_mem (.inl hxm)⟩

/-- The keyword at the front of a guarded text, when the symbols start with one. -/
theorem keywordAt_expandSyms_cons (hm : MarkerOk m) {prev : Option Sym} {s : Sym}
    {rest after : List Sym} {c : Char} {cs word : List Char} {k : Keyword}
    (hcs : expandSyms m (s :: rest) = c :: cs)
    (hk : keywordAtSyms prev (s :: rest) = some (k, word, after)) :
    keywordAt (prev.map (Sym.last m)) (c :: cs) = some (k, word, expandSyms m after) := by
  rw [← hcs, keywordAt_expandSyms hm, hk]
  rfl

/-- The splitter on a guarded text is the splitter over its symbols: with a marker the guard
    may choose, the two fail together, and on success the pieces of the guarded text are the
    pieces over symbols written with the marker. -/
theorem splitLevel_expands (hm : MarkerOk m) (maxDepth : Nat) :
    (∀ depth a, Expands (SymPiece.expandAll m) (splitLevel maxDepth depth (expandSyms m a))
      (splitSyms maxDepth depth a)) ∧
    (∀ depth L prev a, ∀ whole, Expands (SymPiece.expandAll m)
      (walkLevel maxDepth depth whole (L.expand m) (prev.map (Sym.last m)) (expandSyms m a))
      (walkSyms maxDepth depth L prev a)) := by
  refine splitSyms.mutual_induct maxDepth
    (fun depth a => Expands (SymPiece.expandAll m) (splitLevel maxDepth depth (expandSyms m a))
      (splitSyms maxDepth depth a))
    (fun depth L prev a => ∀ whole, Expands (SymPiece.expandAll m)
      (walkLevel maxDepth depth whole (L.expand m) (prev.map (Sym.last m)) (expandSyms m a))
      (walkSyms maxDepth depth L prev a))
    ?blank ?level ?finish ?unclosed ?afterGroup ?tooDeep ?innerFails ?innerEmpty ?group
    ?parenText ?unexpected ?betweenAnd ?andFails ?and ?orFails ?or ?between ?plain
  case blank =>
    intro depth a hblank
    rw [splitLevel, splitSyms, isBlank_expandSyms hm, if_pos hblank, if_pos hblank]
    rfl
  case level =>
    intro depth a hblank ih
    rw [splitLevel, splitSyms, isBlank_expandSyms hm, if_neg hblank, if_neg hblank]
    exact ih _
  case finish =>
    intro depth L prev whole
    rw [expandSyms_nil, walkLevel.eq_1, walkSyms.eq_1]
    exact SymLevel.finish_expands hm L
  case unclosed =>
    intro depth L prev rest hc whole
    have hcc : closeParen 0 [] (expandSyms m rest) = none := by
      have := closeParen_expandSyms hm 0 [] rest
      rw [hc] at this
      simpa using this
    obtain ⟨e, he⟩ := @walkLevel_open_none maxDepth depth whole (L.expand m) (prev.map (Sym.last m))
      _ hcc
    rw [expandSyms_cons, Sym.expand_char, List.singleton_append, he, walkSyms_open_none hc]
    trivial
  case afterGroup =>
    intro depth L prev rest inner after hc _ head hhead hag whole
    replace hhead : ((trimSyms L.current).isEmpty || isWordSyms (trimSyms L.current) "not") =
        true := hhead
    rw [expandSyms_cons, Sym.expand_char, List.singleton_append,
      walkLevel_open_some (closeParen_expandSyms_zero hm hc), groupHead_expand hm,
      walkSyms_open_some hc, if_pos hhead, if_pos hhead]
    simp [hag]
  case tooDeep =>
    intro depth L prev rest inner after hc _ head hhead hag hdeep whole
    replace hhead : ((trimSyms L.current).isEmpty || isWordSyms (trimSyms L.current) "not") =
        true := hhead
    rw [expandSyms_cons, Sym.expand_char, List.singleton_append,
      walkLevel_open_some (closeParen_expandSyms_zero hm hc), groupHead_expand hm,
      walkSyms_open_some hc, if_pos hhead, if_pos hhead]
    simp [hag, hdeep]
  case innerFails =>
    intro depth L prev rest inner after hc _ head hhead hag hdeep hsplit ih whole
    replace hhead : ((trimSyms L.current).isEmpty || isWordSyms (trimSyms L.current) "not") =
        true := hhead
    rw [expandSyms_cons, Sym.expand_char, List.singleton_append,
      walkLevel_open_some (closeParen_expandSyms_zero hm hc), groupHead_expand hm,
      walkSyms_open_some hc, if_pos hhead, if_pos hhead, hsplit]
    rw [hsplit] at ih
    cases hs : splitLevel maxDepth (depth + 1) (expandSyms m inner) with
    | ok x => rw [hs] at ih; exact ih.elim
    | error e => simp [hag, hdeep]
  case innerEmpty =>
    intro depth L prev rest inner after hc _ head hhead hag hdeep hsplit ih whole
    replace hhead : ((trimSyms L.current).isEmpty || isWordSyms (trimSyms L.current) "not") =
        true := hhead
    rw [expandSyms_cons, Sym.expand_char, List.singleton_append,
      walkLevel_open_some (closeParen_expandSyms_zero hm hc), groupHead_expand hm,
      walkSyms_open_some hc, if_pos hhead, if_pos hhead, hsplit]
    rw [hsplit] at ih
    cases hs : splitLevel maxDepth (depth + 1) (expandSyms m inner) with
    | ok x =>
      rw [hs] at ih
      simp only [expands_ok_some] at ih
      simp [hag, hdeep, ih, SymPiece.expandAll]
    | error e => rw [hs] at ih; exact ih.elim
  case group =>
    intro depth L prev rest inner after hc _ head hhead hag hdeep pieces hne hsplit ih ihAfter whole
    replace hhead : ((trimSyms L.current).isEmpty || isWordSyms (trimSyms L.current) "not") =
        true := hhead
    obtain ⟨p, ps, rfl⟩ := List.exists_cons_of_ne_nil hne
    rw [expandSyms_cons, Sym.expand_char, List.singleton_append,
      walkLevel_open_some (closeParen_expandSyms_zero hm hc), groupHead_expand hm,
      walkSyms_open_some hc, if_pos hhead, if_pos hhead, hsplit]
    rw [hsplit] at ih
    cases hs : splitLevel maxDepth (depth + 1) (expandSyms m inner) with
    | ok x =>
      rw [hs] at ih
      simp only [expands_ok_some] at ih
      subst ih
      have ih' := ihAfter whole
      simp only [head] at ih'
      rw [SymLevel.expand_connective, SymLevel.expand_currentText hm, isEmpty_expandSyms hm]
      simpa [hag, hdeep, SymLevel.expand, SymPiece.expandAll, SymPiece.expand] using ih'
    | error e => rw [hs] at ih; exact ih.elim
  case parenText =>
    intro depth L prev rest inner after hc _ head hhead ih whole
    replace hhead : ¬((trimSyms L.current).isEmpty || isWordSyms (trimSyms L.current) "not") =
        true := hhead
    rw [expandSyms_cons, Sym.expand_char, List.singleton_append,
      walkLevel_open_some (closeParen_expandSyms_zero hm hc), groupHead_expand hm,
      walkSyms_open_some hc, if_neg hhead, if_neg hhead]
    simpa [SymLevel.expand] using ih whole
  case unexpected =>
    intro depth L prev tail whole
    rw [expandSyms_cons, Sym.expand_char, List.singleton_append, walkLevel.eq_3, walkSyms.eq_3]
    trivial
  case betweenAnd =>
    intro depth L prev s rest hs₁ hs₂ word after hk _ hbo ih whole
    obtain ⟨c, cs, hcs, hc₁, hc₂⟩ := expandSyms_cons_of_not_paren hm hs₁ hs₂ rest
    rw [hcs, walkLevel_keyword hc₁ hc₂ (keywordAt_expandSyms_cons hm hcs hk),
      walkSyms_keyword hs₁ hs₂ hk]
    simpa [hbo, SymLevel.expand, Option.map_map, Function.comp_def] using ih whole
  case andFails =>
    intro depth L prev s rest hs₁ hs₂ word after hk _ hbo hfin whole
    obtain ⟨c, cs, hcs, hc₁, hc₂⟩ := expandSyms_cons_of_not_paren hm hs₁ hs₂ rest
    obtain ⟨e, he⟩ := SymLevel.finishClause_expand_none hm hfin
    rw [hcs, walkLevel_keyword hc₁ hc₂ (keywordAt_expandSyms_cons hm hcs hk),
      walkSyms_keyword hs₁ hs₂ hk]
    rw [he]
    simp [hbo, hfin]
  case and =>
    intro depth L prev s rest hs₁ hs₂ word after hk _ hbo L' hfin ih whole
    obtain ⟨c, cs, hcs, hc₁, hc₂⟩ := expandSyms_cons_of_not_paren hm hs₁ hs₂ rest
    rw [hcs, walkLevel_keyword hc₁ hc₂ (keywordAt_expandSyms_cons hm hcs hk),
      walkSyms_keyword hs₁ hs₂ hk]
    rw [SymLevel.finishClause_expand_some hm hfin]
    simpa [hbo, hfin, SymLevel.expand, Option.map_map, Function.comp_def] using ih whole
  case orFails =>
    intro depth L prev s rest hs₁ hs₂ word after hk _ hfin whole
    obtain ⟨c, cs, hcs, hc₁, hc₂⟩ := expandSyms_cons_of_not_paren hm hs₁ hs₂ rest
    obtain ⟨e, he⟩ := SymLevel.finishClause_expand_none hm hfin
    rw [hcs, walkLevel_keyword hc₁ hc₂ (keywordAt_expandSyms_cons hm hcs hk),
      walkSyms_keyword hs₁ hs₂ hk]
    rw [he]
    simp [hfin]
  case or =>
    intro depth L prev s rest hs₁ hs₂ word after hk _ L' hfin ih whole
    obtain ⟨c, cs, hcs, hc₁, hc₂⟩ := expandSyms_cons_of_not_paren hm hs₁ hs₂ rest
    rw [hcs, walkLevel_keyword hc₁ hc₂ (keywordAt_expandSyms_cons hm hcs hk),
      walkSyms_keyword hs₁ hs₂ hk]
    rw [SymLevel.finishClause_expand_some hm hfin]
    simpa [hfin, SymLevel.expand, Option.map_map, Function.comp_def] using ih whole
  case between =>
    intro depth L prev s rest hs₁ hs₂ word after hk _ ih whole
    obtain ⟨c, cs, hcs, hc₁, hc₂⟩ := expandSyms_cons_of_not_paren hm hs₁ hs₂ rest
    rw [hcs, walkLevel_keyword hc₁ hc₂ (keywordAt_expandSyms_cons hm hcs hk),
      walkSyms_keyword hs₁ hs₂ hk]
    simpa [SymLevel.expand, Option.map_map, Function.comp_def] using ih whole
  case plain =>
    intro depth L prev s rest hs₁ hs₂ hk ih whole
    have hkc : keywordAt (prev.map (Sym.last m)) (expandSyms m (s :: rest)) = none := by
      rw [keywordAt_expandSyms hm, hk]
      rfl
    rw [walkSyms_none hs₁ hs₂ hk]
    cases s with
    | char c =>
      have hc₁ : c ≠ '(' := fun h => hs₁ (h ▸ rfl)
      have hc₂ : c ≠ ')' := fun h => hs₂ (h ▸ rfl)
      have hk' : keywordAt (prev.map (Sym.last m)) (c :: expandSyms m rest) = none := hkc
      rw [expandSyms_cons, Sym.expand_char, List.singleton_append,
        walkLevel_cons_of_keywordAt_none hc₁ hc₂ hk']
      simpa [SymLevel.expand] using ih whole
    | slot i =>
      rw [expandSyms_cons, Sym.expand_slot, walkLevel_placeholder hm fun x xs hx => by
        rw [← List.cons_append, ← hx, ← Sym.expand_slot, ← expandSyms_cons, hkc]]
      simpa [SymLevel.expand, Sym.last] using ih whole

end Expand

/-! ## What the splitter keeps -/

/-- The placeholders of the clause texts of pieces, in order. -/
def SymPiece.slotsAll (ps : List SymPiece) : List Nat := (SymPiece.textsAll ps).flatMap slotsOf

@[simp] theorem SymPiece.slotsAll_nil : SymPiece.slotsAll [] = [] := rfl

theorem SymPiece.slotsAll_append (ps qs : List SymPiece) :
    SymPiece.slotsAll (ps ++ qs) = SymPiece.slotsAll ps ++ SymPiece.slotsAll qs := by
  simp [SymPiece.slotsAll, SymPiece.textsAll_append]

theorem closeParenSyms_eq {depth : Nat} {acc a inner after : List Sym}
    (h : closeParenSyms depth acc a = some (inner, after)) : acc ++ a = inner ++ .char ')' :: after := by
  induction a generalizing depth acc with
  | nil => simp [closeParenSyms] at h
  | cons s rest ih =>
    simp only [closeParenSyms] at h
    by_cases h₁ : s = .char '('
    · rw [if_pos h₁] at h
      simpa using ih h
    · rw [if_neg h₁] at h
      by_cases h₂ : s = .char ')'
      · rw [if_pos h₂] at h
        subst h₂
        cases depth with
        | zero => cases h; rfl
        | succ d => simpa using ih h
      · rw [if_neg h₂] at h
        simpa using ih h

theorem keywordAtSyms_eq {prev : Option Sym} {a after : List Sym} {word : List Char}
    {k : Keyword} (h : keywordAtSyms prev a = some (k, word, after)) :
    a = word.map .char ++ after := by
  unfold keywordAtSyms at h
  dsimp only at h
  split at h
  · cases h
  · split at h
    · cases h; exact letterRun_eq a
    · split at h
      · cases h; exact letterRun_eq a
      · split at h
        · cases h; exact letterRun_eq a
        · cases h

theorem slotsOf_eq_nil_of_all {p : Char → Bool} {a : List Sym} (h : a.all (Sym.lift p false)) :
    slotsOf a = [] := by
  induction a with
  | nil => rfl
  | cons s a ih =>
    cases s with
    | char c => simp_all
    | slot i => simp at h

namespace SymLevel

/-- Ending a clause moves the gathered text, trimmed, into the pieces. -/
theorem finishClause_texts {L L' : SymLevel} (h : L.finishClause = some L') :
    L'.current = [] ∧
    SymPiece.slotsAll L'.piecesRev.reverse = SymPiece.slotsAll L.piecesRev.reverse ++ slotsOf L.current ∧
    ∀ t ∈ SymPiece.textsAll L'.piecesRev, t ∈ SymPiece.textsAll L.piecesRev ∨ t <:+: L.current := by
  unfold finishClause at h
  dsimp only at h
  split at h
  · split at h
    · cases h
      rename_i hempty
      have hnil : slotsOf L.current = [] := by
        rw [← slotsOf_trimSyms, List.isEmpty_iff.1 hempty, slotsOf_nil]
      exact ⟨rfl, by simp [hnil], fun t ht => .inl ht⟩
    · cases h
  · cases h
    refine ⟨rfl, ?_, ?_⟩
    · rw [List.reverse_cons, SymPiece.slotsAll_append]
      simp [SymPiece.slotsAll, SymPiece.textsAll, SymPiece.texts]
    · intro t ht
      simp only [SymPiece.textsAll, SymPiece.texts, List.mem_append, List.mem_singleton] at ht
      rcases ht with rfl | ht
      · exact .inr (trimSyms_isInfix _)
      · exact .inl ht

theorem finish_texts {L : SymLevel} {P : List SymPiece} (h : L.finish = some P) :
    SymPiece.slotsAll P = SymPiece.slotsAll L.piecesRev.reverse ++ slotsOf L.current ∧
    ∀ t ∈ SymPiece.textsAll P, t ∈ SymPiece.textsAll L.piecesRev ∨ t <:+: L.current := by
  unfold finish at h
  split at h
  · rename_i hblank
    cases h
    simp only [Bool.and_eq_true] at hblank
    refine ⟨by simp [slotsOf_eq_nil_of_all hblank.2], fun t ht => .inl ?_⟩
    simpa [SymPiece.textsAll_eq_flatMap] using ht
  · cases hf : L.finishClause with
    | none => simp [hf] at h
    | some L' =>
      simp only [hf, Option.map_some, Option.some.injEq] at h
      subst h
      obtain ⟨-, hslots, htexts⟩ := finishClause_texts hf
      refine ⟨hslots, fun t ht => htexts t ?_⟩
      simpa [SymPiece.textsAll_eq_flatMap] using ht

end SymLevel


/-- The text gathered before a group holds no placeholder: it is empty or `NOT`. -/
theorem slotsOf_eq_nil_of_groupHead {c : List Sym}
    (h : ((trimSyms c).isEmpty || isWordSyms (trimSyms c) "not") = true) : slotsOf c = [] := by
  rw [← slotsOf_trimSyms]
  rcases Bool.or_eq_true_iff.1 h with h | h
  · rw [List.isEmpty_iff.1 h, slotsOf_nil]
  · exact slotsOf_eq_nil_of_isWordSyms h

/-- The splitter neither drops nor copies a placeholder, and cuts the text into parts of it:
    the slots of the clause texts, in order, are the slots of the text, and every clause text
    occurs in the text. For a level being read, the same holds of the pieces found so far, the
    text gathered and the rest, inside any text `W` that holds them. -/
theorem splitSyms_texts (maxDepth : Nat) :
    (∀ depth a P, splitSyms maxDepth depth a = some P →
      SymPiece.slotsAll P = slotsOf a ∧ ∀ t ∈ SymPiece.textsAll P, t <:+: a) ∧
    (∀ depth L prev a P, walkSyms maxDepth depth L prev a = some P → ∀ W,
      (∀ t ∈ SymPiece.textsAll L.piecesRev, t <:+: W) → L.current ++ a <:+: W →
      SymPiece.slotsAll P = SymPiece.slotsAll L.piecesRev.reverse ++ slotsOf L.current ++ slotsOf a ∧
      ∀ t ∈ SymPiece.textsAll P, t <:+: W) := by
  refine splitSyms.mutual_induct maxDepth
    (fun depth a => ∀ P, splitSyms maxDepth depth a = some P →
      SymPiece.slotsAll P = slotsOf a ∧ ∀ t ∈ SymPiece.textsAll P, t <:+: a)
    (fun depth L prev a => ∀ P, walkSyms maxDepth depth L prev a = some P → ∀ W,
      (∀ t ∈ SymPiece.textsAll L.piecesRev, t <:+: W) → L.current ++ a <:+: W →
      SymPiece.slotsAll P = SymPiece.slotsAll L.piecesRev.reverse ++ slotsOf L.current ++ slotsOf a ∧
      ∀ t ∈ SymPiece.textsAll P, t <:+: W)
    ?blank ?level ?finish ?unclosed ?afterGroup ?tooDeep ?innerFails ?innerEmpty ?group
    ?parenText ?unexpected ?betweenAnd ?andFails ?and ?orFails ?or ?between ?plain
  case blank =>
    intro depth a hblank P h
    rw [splitSyms, if_pos hblank] at h
    cases h
    exact ⟨(slotsOf_eq_nil_of_all hblank).symm, by simp [SymPiece.textsAll]⟩
  case level =>
    intro depth a hblank ih P h
    rw [splitSyms, if_neg hblank] at h
    obtain ⟨hslots, htexts⟩ := ih P h a (by simp [SymPiece.textsAll]) (List.infix_refl a)
    exact ⟨by simpa using hslots, htexts⟩
  case finish =>
    intro depth L prev P h W hW hcur
    rw [walkSyms.eq_1] at h
    obtain ⟨hslots, htexts⟩ := SymLevel.finish_texts h
    refine ⟨by simpa using hslots, fun t ht => ?_⟩
    rcases htexts t ht with ht | ht
    · exact hW t ht
    · exact ht.trans (by simpa using hcur)
  case unclosed =>
    intro depth L prev rest hc P h
    rw [walkSyms_open_none hc] at h
    cases h
  case afterGroup =>
    intro depth L prev rest inner after hc _ head hhead hag P h
    rw [walkSyms_open_some hc, if_pos hhead, if_pos hag] at h
    cases h
  case tooDeep =>
    intro depth L prev rest inner after hc _ head hhead hag hdeep P h
    rw [walkSyms_open_some hc, if_pos hhead, if_neg hag, if_pos hdeep] at h
    cases h
  case innerFails =>
    intro depth L prev rest inner after hc _ head hhead hag hdeep hsplit _ P h
    rw [walkSyms_open_some hc, if_pos hhead, if_neg hag, if_neg hdeep, hsplit] at h
    cases h
  case innerEmpty =>
    intro depth L prev rest inner after hc _ head hhead hag hdeep hsplit _ P h
    rw [walkSyms_open_some hc, if_pos hhead, if_neg hag, if_neg hdeep, hsplit] at h
    cases h
  case group =>
    intro depth L prev rest inner after hc _ head hhead hag hdeep pieces hne hsplit ih ihAfter P h
      W hW hcur
    obtain ⟨p, ps, rfl⟩ := List.exists_cons_of_ne_nil hne
    rw [walkSyms_open_some hc, if_pos hhead, if_neg hag, if_neg hdeep, hsplit] at h
    have hrest := closeParenSyms_eq hc
    simp only [List.nil_append] at hrest
    subst hrest
    -- the group's pieces lie inside its parentheses, which lie inside `W`
    have hrestW : inner ++ Sym.char ')' :: after <:+: W :=
      (List.suffix_cons _ _).isInfix.trans ((List.suffix_append _ _).isInfix.trans hcur)
    have hinner : inner <:+: W := (List.prefix_append _ _).isInfix.trans hrestW
    have hafter : after <:+: W :=
      ((List.suffix_cons _ _).isInfix.trans (List.suffix_append inner _).isInfix).trans hrestW
    obtain ⟨hslots, htexts⟩ := ih _ hsplit
    obtain ⟨hslots', htexts'⟩ := ihAfter P h W
      (fun t ht => by
        rw [SymPiece.textsAll, SymPiece.texts, List.mem_append] at ht
        rcases ht with ht | ht
        · exact (htexts t ht).trans hinner
        · exact hW t ht)
      (by simpa using hafter)
    refine ⟨?_, htexts'⟩
    rw [hslots']
    dsimp only
    rw [slotsOf_eq_nil_of_groupHead hhead, List.reverse_cons, SymPiece.slotsAll_append]
    simp [← hslots, SymPiece.slotsAll, SymPiece.textsAll, SymPiece.texts]
  case parenText =>
    intro depth L prev rest inner after hc _ head hhead ih P h W hW hcur
    rw [walkSyms_open_some hc, if_neg hhead] at h
    have hrest := closeParenSyms_eq hc
    simp only [List.nil_append] at hrest
    subst hrest
    obtain ⟨hslots, htexts⟩ := ih P h W hW (by simpa using hcur)
    exact ⟨by simpa using hslots, htexts⟩
  case unexpected =>
    intro depth L prev tail P h
    rw [walkSyms.eq_3] at h
    cases h
  case betweenAnd =>
    intro depth L prev s rest hs₁ hs₂ word after hk _ hbo ih P h W hW hcur
    rw [walkSyms_keyword hs₁ hs₂ hk] at h
    simp only [hbo, if_true] at h
    rw [keywordAtSyms_eq hk] at hcur ⊢
    obtain ⟨hslots, htexts⟩ := ih P h W hW (by simpa using hcur)
    exact ⟨by simpa using hslots, htexts⟩
  case andFails =>
    intro depth L prev s rest hs₁ hs₂ word after hk _ hbo hfin P h
    rw [walkSyms_keyword hs₁ hs₂ hk] at h
    simp [hbo, hfin] at h
  case and =>
    intro depth L prev s rest hs₁ hs₂ word after hk _ hbo L' hfin ih P h W hW hcur
    rw [walkSyms_keyword hs₁ hs₂ hk] at h
    simp only [hbo, hfin, Bool.false_eq_true, if_false] at h
    rw [keywordAtSyms_eq hk] at hcur ⊢
    obtain ⟨hcur', hslotsL, htextsL⟩ := SymLevel.finishClause_texts hfin
    have hL : ∀ t ∈ SymPiece.textsAll L'.piecesRev, t <:+: W := by
      intro t ht
      rcases htextsL t ht with ht | ht
      · exact hW t ht
      · exact ht.trans ((List.prefix_append _ _).isInfix.trans hcur)
    have hA : after <:+: W :=
      (List.suffix_append _ _).isInfix.trans ((List.suffix_append _ _).isInfix.trans hcur)
    obtain ⟨hslots, htexts⟩ := ih P h W hL (by simpa [hcur'] using hA)
    refine ⟨?_, htexts⟩
    rw [hslots]
    simp [hslotsL, hcur']
  case orFails =>
    intro depth L prev s rest hs₁ hs₂ word after hk _ hfin P h
    rw [walkSyms_keyword hs₁ hs₂ hk] at h
    simp [hfin] at h
  case or =>
    intro depth L prev s rest hs₁ hs₂ word after hk _ L' hfin ih P h W hW hcur
    rw [walkSyms_keyword hs₁ hs₂ hk] at h
    simp only [hfin] at h
    rw [keywordAtSyms_eq hk] at hcur ⊢
    obtain ⟨hcur', hslotsL, htextsL⟩ := SymLevel.finishClause_texts hfin
    have hL : ∀ t ∈ SymPiece.textsAll L'.piecesRev, t <:+: W := by
      intro t ht
      rcases htextsL t ht with ht | ht
      · exact hW t ht
      · exact ht.trans ((List.prefix_append _ _).isInfix.trans hcur)
    have hA : after <:+: W :=
      (List.suffix_append _ _).isInfix.trans ((List.suffix_append _ _).isInfix.trans hcur)
    obtain ⟨hslots, htexts⟩ := ih P h W hL (by simpa [hcur'] using hA)
    refine ⟨?_, htexts⟩
    rw [hslots]
    simp [hslotsL, hcur']
  case between =>
    intro depth L prev s rest hs₁ hs₂ word after hk _ ih P h W hW hcur
    rw [walkSyms_keyword hs₁ hs₂ hk] at h
    rw [keywordAtSyms_eq hk] at hcur ⊢
    obtain ⟨hslots, htexts⟩ := ih P h W hW (by simpa using hcur)
    exact ⟨by simpa using hslots, htexts⟩
  case plain =>
    intro depth L prev s rest hs₁ hs₂ hk ih P h W hW hcur
    rw [walkSyms_none hs₁ hs₂ hk] at h
    obtain ⟨hslots, htexts⟩ := ih P h W hW (by simpa using hcur)
    refine ⟨?_, htexts⟩
    cases s <;> simpa using hslots


end FilterQuery.Query

import FilterQuery.Proofs.StableClauses
import FilterQuery.Proofs.SpanShapes

/-!
# How deep the splitter goes

`splitLevel` reads one level of a filter text and calls itself on the inside of each group,
one level deeper; the depth check comes before that call, so the level at depth `maxDepth`
refuses every group. The recursion is seen here from outside: `walkWith` is the walk of one
level with the splitting of a group's inside given as a parameter (`none` where no group is
allowed), and `walkLevel` is that walk with `splitLevel` one level deeper
(`walkLevel_eq_walkWith`). `splitFrames` runs the splitter on a stack of a given number of
levels, with any function `below` in place of the level under the last one.

A level asks the level below only for the groups it keeps (`walkWith_congr`), and the
parentheses inside a clause, such as those of an `IN` list, are passed over by `closeParen`
without a level of their own. So the levels a text needs are one more than the nesting of the
groups it splits into, and `n` pairs of parentheses around a clause need `n + 1`.

## Key results
- `walkLevel_eq_walkWith`: the walk of a level is the walk with the level below as parameter
- `splitLevel_eq_splitFrames`: the splitter never needs more than the levels down to
  `maxDepth`, whatever stands below them
- `splitFrames_nestsWithin`, `splitFrames_of_nestsWithin`: the pieces nest within the levels
  of the stack, and a stack as deep as their nesting gives them
- `splitLevel_parenthesize_iff`: parentheses around a clause split exactly within the limit
- `split_depth_bounded`: the three together for `split`
-/

namespace FilterQuery.Query

/-! ## One level, with the level below as a parameter -/

/-- The walk of one level (as `walkLevel`), where `sub` splits the inside of a group: `none`
    when this level may hold no group. -/
def walkWith (sub : Option (List Char → Except QueryError (List Piece))) (whole : List Char)
    (l : Level) (prev : Option Char) (cs : List Char) : Except QueryError (List Piece) :=
  match cs with
  | [] => l.finish
  | '(' :: rest =>
    match h : closeParen 0 [] rest with
    | none => .error (.at_ .unclosedParen (String.ofList ('(' :: rest)))
    | some (inner, after) =>
      have := length_closeParen h
      let span := '(' :: inner ++ [')']
      let head := l.currentText
      if head.isEmpty || Text.isWord head "not" then
        if l.afterGroup then .error (.at_ .groupsWithoutConnective (String.ofList span))
        else
          match sub with
          | none => .error (.at_ .tooDeep (String.ofList span))
          | some splitInner =>
            match splitInner inner with
            | .error e => .error e
            | .ok [] => .error (.at_ .emptyGroup (String.ofList span))
            | .ok pieces =>
              walkWith sub whole
                { l with piecesRev := Piece.group l.connective (!head.isEmpty) pieces :: l.piecesRev,
                         pending := none, currentRev := [], afterGroup := true }
                (some ')') after
      else
        walkWith sub whole { l with currentRev := span.reverse ++ l.currentRev } (some ')') after
  | ')' :: rest =>
    .error (.at_ .unexpectedParen (String.ofList (whole.take (whole.length - rest.length))))
  | c :: rest =>
    match h : keywordAt prev (c :: rest) with
    | some (.connective .and, word, after) =>
      have := length_keywordAt h
      if l.betweenOpen then
        walkWith sub whole
          { l with betweenOpen := false, currentRev := word.reverse ++ l.currentRev }
          word.getLast? after
      else
        match l.finishClause with
        | .error e => .error e
        | .ok l' => walkWith sub whole { l' with pending := some .and } word.getLast? after
    | some (.connective .or, word, after) =>
      have := length_keywordAt h
      match l.finishClause with
      | .error e => .error e
      | .ok l' => walkWith sub whole { l' with pending := some .or } word.getLast? after
    | some (.between, word, after) =>
      have := length_keywordAt h
      walkWith sub whole
        { l with betweenOpen := true, currentRev := word.reverse ++ l.currentRev }
        word.getLast? after
    | none => walkWith sub whole { l with currentRev := c :: l.currentRev } (some c) rest
termination_by cs.length
decreasing_by
  all_goals
    simp only [List.length_cons, List.length_nil] at *
    omega

section WalkWith

variable {sub : Option (List Char → Except QueryError (List Piece))} {whole : List Char}
  {l : Level} {prev : Option Char}

theorem walkWith_nil : walkWith sub whole l prev [] = l.finish := by
  rw [walkWith]

theorem walkWith_open_none {rest : List Char} (hc : closeParen 0 [] rest = none) :
    walkWith sub whole l prev ('(' :: rest) =
      .error (.at_ .unclosedParen (String.ofList ('(' :: rest))) := by
  rw [walkWith]
  split
  · rfl
  · rename_i heq
    rw [hc] at heq
    cases heq

theorem walkWith_open_some {rest inner after : List Char}
    (hc : closeParen 0 [] rest = some (inner, after)) :
    walkWith sub whole l prev ('(' :: rest) =
      if l.currentText.isEmpty || Text.isWord l.currentText "not" then
        if l.afterGroup then
          .error (.at_ .groupsWithoutConnective (String.ofList ('(' :: inner ++ [')'])))
        else
          match sub with
          | none => .error (.at_ .tooDeep (String.ofList ('(' :: inner ++ [')'])))
          | some splitInner =>
            match splitInner inner with
            | .error e => .error e
            | .ok [] => .error (.at_ .emptyGroup (String.ofList ('(' :: inner ++ [')'])))
            | .ok pieces =>
              walkWith sub whole
                { l with piecesRev := Piece.group l.connective (!l.currentText.isEmpty) pieces ::
                    l.piecesRev, pending := none, currentRev := [], afterGroup := true }
                (some ')') after
      else
        walkWith sub whole
          { l with currentRev := ('(' :: inner ++ [')']).reverse ++ l.currentRev } (some ')') after := by
  rw [walkWith]
  split
  · rename_i heq
    rw [hc] at heq
    cases heq
  · rename_i inner' after' heq
    rw [hc] at heq
    cases heq
    rfl

theorem walkWith_close {rest : List Char} :
    walkWith sub whole l prev (')' :: rest) =
      .error (.at_ .unexpectedParen (String.ofList (whole.take (whole.length - rest.length)))) := by
  rw [walkWith]

theorem walkWith_keyword {c : Char} {rest word after : List Char} {k : Keyword}
    (hc₁ : c ≠ '(') (hc₂ : c ≠ ')') (hk : keywordAt prev (c :: rest) = some (k, word, after)) :
    walkWith sub whole l prev (c :: rest) =
      match k with
      | .connective .and =>
        if l.betweenOpen then
          walkWith sub whole
            { l with betweenOpen := false, currentRev := word.reverse ++ l.currentRev }
            word.getLast? after
        else
          match l.finishClause with
          | .error e => .error e
          | .ok l' => walkWith sub whole { l' with pending := some .and } word.getLast? after
      | .connective .or =>
        match l.finishClause with
        | .error e => .error e
        | .ok l' => walkWith sub whole { l' with pending := some .or } word.getLast? after
      | .between =>
        walkWith sub whole
          { l with betweenOpen := true, currentRev := word.reverse ++ l.currentRev }
          word.getLast? after := by
  rw [walkWith.eq_4 _ _ _ _ _ _ hc₁ hc₂]
  split
  all_goals
    rename_i heq
    rw [hk] at heq
    cases heq <;> rfl

theorem walkWith_plain {c : Char} {rest : List Char} (hc₁ : c ≠ '(') (hc₂ : c ≠ ')')
    (hk : keywordAt prev (c :: rest) = none) :
    walkWith sub whole l prev (c :: rest) =
      walkWith sub whole { l with currentRev := c :: l.currentRev } (some c) rest := by
  rw [walkWith.eq_4 _ _ _ _ _ _ hc₁ hc₂]
  split
  all_goals first
    | rfl
    | rename_i heq; simp [hk] at heq

end WalkWith

/-! ## The walk of `walkLevel` -/

/-- The walk of a level of `splitLevel` is the walk with `splitLevel` one level deeper as the
    splitter of groups, where the depth allows a group. -/
theorem walkLevel_eq_walkWith (maxDepth depth : Nat) (whole : List Char) :
    ∀ (cs : List Char) (l : Level) (prev : Option Char),
      walkLevel maxDepth depth whole l prev cs =
        walkWith (if depth < maxDepth then some (splitLevel maxDepth (depth + 1)) else none)
          whole l prev cs
  | [], l, prev => by rw [walkLevel.eq_1, walkWith_nil]
  | c :: rest, l, prev => by
    by_cases hopen : c = '('
    · subst hopen
      cases hc : closeParen 0 [] rest with
      | none =>
        rw [walkWith_open_none hc, walkLevel.eq_2]
        split
        · rfl
        · rename_i heq
          rw [hc] at heq
          cases heq
      | some r =>
        obtain ⟨inner, after⟩ := r
        have hshorter : after.length < rest.length + 1 :=
          Nat.lt_succ_of_lt (closeParen_after_lt hc)
        rw [walkLevel_open_some hc, walkWith_open_some hc]
        by_cases hd : depth < maxDepth
        · rw [if_pos hd, if_neg (by omega : ¬maxDepth < depth + 1)]
          dsimp only
          split
          · split
            · rfl
            · cases splitLevel maxDepth (depth + 1) inner with
              | error e => rfl
              | ok pieces =>
                cases pieces with
                | nil => rfl
                | cons p ps =>
                  dsimp only
                  rw [walkLevel_eq_walkWith maxDepth depth whole after, if_pos hd]
          · rw [walkLevel_eq_walkWith maxDepth depth whole after, if_pos hd]
        · rw [if_neg hd, if_pos (by omega : maxDepth < depth + 1)]
          dsimp only
          split
          · rfl
          · rw [walkLevel_eq_walkWith maxDepth depth whole after, if_neg hd]
    · by_cases hclose : c = ')'
      · subst hclose
        rw [walkLevel.eq_3, walkWith_close]
      · cases hk : keywordAt prev (c :: rest) with
        | none =>
          rw [walkLevel_cons_of_keywordAt_none hopen hclose hk, walkWith_plain hopen hclose hk]
          exact walkLevel_eq_walkWith maxDepth depth whole rest _ _
        | some r =>
          obtain ⟨k, word, after⟩ := r
          have hlen := length_keywordAt hk
          rw [walkLevel_keyword hopen hclose hk, walkWith_keyword hopen hclose hk]
          -- the same continuation on both sides, for each keyword
          rcases k with (_ | _) | _
          · dsimp only
            split
            · exact walkLevel_eq_walkWith maxDepth depth whole after _ _
            · cases l.finishClause with
              | error e => rfl
              | ok l' => exact walkLevel_eq_walkWith maxDepth depth whole after _ _
          · dsimp only
            cases l.finishClause with
            | error e => rfl
            | ok l' => exact walkLevel_eq_walkWith maxDepth depth whole after _ _
          · exact walkLevel_eq_walkWith maxDepth depth whole after _ _
termination_by cs => cs.length
decreasing_by all_goals simp only [List.length_cons] at *; omega

/-! ## A stack of levels -/

/-- The splitter on a stack of `frames` levels, from `depth` down: each level walks its text
    with the level under it splitting its groups, and `below` stands in for the level under
    the last one. -/
def splitFrames (maxDepth : Nat) (below : Nat → List Char → Except QueryError (List Piece)) :
    Nat → Nat → List Char → Except QueryError (List Piece)
  | 0, depth, text => below depth text
  | frames + 1, depth, text =>
    if Text.isBlank text then .ok []
    else
      walkWith (if depth < maxDepth then some (splitFrames maxDepth below frames (depth + 1))
        else none) text {} none text

/-- `splitLevel` at `depth` is the splitter on any stack of levels that reaches `maxDepth`:
    no level under the one at `maxDepth` is ever used. -/
theorem splitLevel_eq_splitFrames (maxDepth : Nat)
    (below : Nat → List Char → Except QueryError (List Piece)) :
    ∀ (frames depth : Nat), maxDepth ≤ depth + frames →
      ∀ text, splitLevel maxDepth depth text = splitFrames maxDepth below (frames + 1) depth text
  | 0, depth, hreach, text => by
    -- the last level allows no group, so nothing under it is asked
    have hlast : ¬depth < maxDepth := by omega
    rw [splitLevel, splitFrames, walkLevel_eq_walkWith, if_neg hlast, if_neg hlast]
  | frames + 1, depth, hreach, text => by
    have hbelow : splitLevel maxDepth (depth + 1) =
        splitFrames maxDepth below (frames + 1) (depth + 1) :=
      funext (splitLevel_eq_splitFrames maxDepth below frames (depth + 1) (by omega))
    rw [splitLevel, splitFrames, walkLevel_eq_walkWith, hbelow]

/-! ## What a walk that succeeds adds -/

/-- A piece a walk with `sub` may add: a clause, or a group of pieces that `sub` gave. -/
def Piece.FormedBy (sub : Option (List Char → Except QueryError (List Piece))) (p : Piece) : Prop :=
  (∃ c t, p = .clause c t) ∨ ∃ f t c n qs, sub = some f ∧ f t = .ok qs ∧ p = .group c n qs

theorem finishClause_piecesRev {l l' : Level} (h : l.finishClause = .ok l') :
    ∃ added, l'.piecesRev = added ++ l.piecesRev ∧ ∀ p ∈ added, ∃ c t, p = .clause c t := by
  rcases Level.finishClause_cases h with ⟨-, -, rfl⟩ | ⟨-, rfl⟩
  · exact ⟨[], rfl, by simp⟩
  · exact ⟨[_], rfl, by simp⟩

theorem finish_pieces {l : Level} {ps : List Piece} (h : l.finish = .ok ps) :
    ∃ added, ps = l.piecesRev.reverse ++ added ∧ ∀ p ∈ added, ∃ c t, p = .clause c t := by
  unfold Level.finish at h
  split at h
  · cases h
    exact ⟨[], by simp, by simp⟩
  · cases hf : l.finishClause with
    | error e =>
      rw [hf] at h
      cases h
    | ok l' =>
      rw [hf] at h
      cases h
      obtain ⟨added, hadded, hclause⟩ := finishClause_piecesRev hf
      exact ⟨added.reverse, by simp [hadded], fun p hp => hclause p (List.mem_reverse.1 hp)⟩

section Pieces

variable {sub : Option (List Char → Except QueryError (List Piece))} {whole : List Char}

/-- Pieces put in front of a level's pieces, each formed by the walk, stay formed after the
    rest of the walk. -/
theorem formed_of_extend {l l' : Level} {ps new added : List Piece}
    (hl' : l'.piecesRev = added ++ l.piecesRev) (hadded : ∀ p ∈ added, p.FormedBy sub)
    (hps : ps = l'.piecesRev.reverse ++ new) (hnew : ∀ p ∈ new, p.FormedBy sub) :
    ∃ new', ps = l.piecesRev.reverse ++ new' ∧ ∀ p ∈ new', p.FormedBy sub := by
  refine ⟨added.reverse ++ new, by simp [hps, hl'], fun p hp => ?_⟩
  rcases List.mem_append.1 hp with hp | hp
  · exact hadded p (List.mem_reverse.1 hp)
  · exact hnew p hp

/-- Ending a clause adds a clause at most, so what the rest of the walk adds after it is formed
    by the walk too. -/
theorem formed_of_finishClause {l l' : Level} {conn : Option Connective} {ps : List Piece}
    (hf : l.finishClause = .ok l')
    (hw : ∃ new, ps = { l' with pending := conn }.piecesRev.reverse ++ new ∧
      ∀ p ∈ new, p.FormedBy sub) :
    ∃ new, ps = l.piecesRev.reverse ++ new ∧ ∀ p ∈ new, p.FormedBy sub := by
  obtain ⟨added, hl', hclause⟩ := finishClause_piecesRev hf
  obtain ⟨new, hps, hnew⟩ := hw
  exact formed_of_extend hl' (fun p hp => .inl (hclause p hp)) hps hnew

/-- A walk that succeeds keeps the pieces found before it, in order, and adds clauses and groups
    of what `sub` gave. -/
theorem walkWith_pieces :
    ∀ {cs : List Char} {l : Level} {prev : Option Char} {ps : List Piece},
      walkWith sub whole l prev cs = .ok ps →
        ∃ new, ps = l.piecesRev.reverse ++ new ∧ ∀ p ∈ new, p.FormedBy sub
  | [], l, prev, ps, h => by
    rw [walkWith_nil] at h
    obtain ⟨added, hps, hclause⟩ := finish_pieces h
    exact ⟨added, hps, fun p hp => .inl (hclause p hp)⟩
  | c :: rest, l, prev, ps, h => by
    by_cases hopen : c = '('
    · subst hopen
      cases hc : closeParen 0 [] rest with
      | none =>
        rw [walkWith_open_none hc] at h
        cases h
      | some r =>
        obtain ⟨inner, after⟩ := r
        have hshorter : after.length < rest.length + 1 :=
          Nat.lt_succ_of_lt (closeParen_after_lt hc)
        -- the walk goes on after the span, whether it is a group or clause text
        have ih : ∀ {l' : Level} {ps' : List Piece}, walkWith sub whole l' (some ')') after = .ok ps' →
            ∃ new, ps' = l'.piecesRev.reverse ++ new ∧ ∀ p ∈ new, p.FormedBy sub :=
          fun h' => walkWith_pieces h'
        rw [walkWith_open_some hc] at h
        split at h
        · -- a group: its pieces come from `sub`
          split at h
          · cases h
          · split at h
            · cases h
            · rename_i _ splitInner
              split at h
              · cases h
              · cases h
              · rename_i pieces _ hpieces
                obtain ⟨new, hps, hnew⟩ := ih h
                refine ⟨Piece.group l.connective (!l.currentText.isEmpty) pieces :: new,
                  by rw [hps]; simp, fun p hp => ?_⟩
                rcases List.mem_cons.1 hp with rfl | hp
                · exact .inr ⟨splitInner, inner, _, _, pieces, rfl, hpieces, rfl⟩
                · exact hnew p hp
        · exact (ih h :)
    · by_cases hclose : c = ')'
      · subst hclose
        rw [walkWith_close] at h
        cases h
      · cases hk : keywordAt prev (c :: rest) with
        | none =>
          rw [walkWith_plain hopen hclose hk] at h
          exact (walkWith_pieces h :)
        | some r =>
          obtain ⟨k, word, after⟩ := r
          have hlen := length_keywordAt hk
          have ih : ∀ {l' : Level} {ps' : List Piece},
              walkWith sub whole l' word.getLast? after = .ok ps' →
                ∃ new, ps' = l'.piecesRev.reverse ++ new ∧ ∀ p ∈ new, p.FormedBy sub :=
            fun h' => walkWith_pieces h'
          rw [walkWith_keyword hopen hclose hk] at h
          rcases k with (_ | _) | _
          · dsimp only at h
            split at h
            · exact (ih h :)
            · split at h
              · cases h
              · rename_i l' hf
                exact formed_of_finishClause hf (ih h)
          · dsimp only at h
            split at h
            · cases h
            · rename_i l' hf
              exact formed_of_finishClause hf (ih h)
          · exact (ih h :)
termination_by cs => cs.length
decreasing_by all_goals simp only [List.length_cons] at *; omega

end Pieces

/-! ## Walks with another splitter of groups -/

section Congr

variable {sub sub' : Option (List Char → Except QueryError (List Piece))} {whole : List Char}

/-- `sub'` gives what `sub` gave for every group of the pieces `ps`. -/
def SplitsAlike (sub sub' : Option (List Char → Except QueryError (List Piece))) (ps : List Piece) :
    Prop :=
  ∀ f t qs, sub = some f → f t = .ok qs → (∃ c n, Piece.group c n qs ∈ ps) →
    ∃ g, sub' = some g ∧ g t = .ok qs

/-- A walk that succeeds gives the same pieces with any splitter of groups that agrees on the
    groups it keeps: the walk reaches no other group, and a level that allows none
    (`sub = none`) reaches no group at all. -/
theorem walkWith_congr :
    ∀ {cs : List Char} {l : Level} {prev : Option Char} {ps : List Piece},
      walkWith sub whole l prev cs = .ok ps → SplitsAlike sub sub' ps →
        walkWith sub' whole l prev cs = .ok ps
  | [], l, prev, ps, h, _ => by
    rw [walkWith_nil] at h ⊢
    exact h
  | c :: rest, l, prev, ps, h, halike => by
    by_cases hopen : c = '('
    · subst hopen
      cases hc : closeParen 0 [] rest with
      | none =>
        rw [walkWith_open_none hc] at h
        cases h
      | some r =>
        obtain ⟨inner, after⟩ := r
        have hshorter : after.length < rest.length + 1 :=
          Nat.lt_succ_of_lt (closeParen_after_lt hc)
        have ih : ∀ {l' : Level}, walkWith sub whole l' (some ')') after = .ok ps →
            walkWith sub' whole l' (some ')') after = .ok ps :=
          fun h' => walkWith_congr h' halike
        rw [walkWith_open_some hc] at h ⊢
        by_cases hhead : (l.currentText.isEmpty || Text.isWord l.currentText "not") = true
        · rw [if_pos hhead] at h ⊢
          by_cases hag : l.afterGroup = true
          · rw [if_pos hag] at h
            cases h
          · rw [if_neg hag] at h ⊢
            cases hs : sub with
            | none =>
              rw [hs] at h
              cases h
            | some f =>
              subst hs
              dsimp only at h
              cases hf : f inner with
              | error e =>
                rw [hf] at h
                cases h
              | ok pieces =>
                rw [hf] at h
                cases pieces with
                | nil => cases h
                | cons p ps' =>
                  dsimp only at h
                  -- the group is among the pieces the walk gives, so `sub'` splits it alike
                  have hkept : ∃ c n, Piece.group c n (p :: ps') ∈ ps := by
                    obtain ⟨new, hps, -⟩ := walkWith_pieces h
                    exact ⟨l.connective, !l.currentText.isEmpty, by rw [hps]; simp⟩
                  obtain ⟨g, hs', hg⟩ := halike f inner _ rfl hf hkept
                  subst hs'
                  dsimp only
                  rw [hg]
                  exact ih h
        · rw [if_neg hhead] at h ⊢
          exact ih h
    · by_cases hclose : c = ')'
      · subst hclose
        rw [walkWith_close] at h
        cases h
      · cases hk : keywordAt prev (c :: rest) with
        | none =>
          rw [walkWith_plain hopen hclose hk] at h ⊢
          exact walkWith_congr h halike
        | some r =>
          obtain ⟨k, word, after⟩ := r
          have hlen := length_keywordAt hk
          have ih : ∀ {l' : Level}, walkWith sub whole l' word.getLast? after = .ok ps →
              walkWith sub' whole l' word.getLast? after = .ok ps :=
            fun h' => walkWith_congr h' halike
          rw [walkWith_keyword hopen hclose hk] at h ⊢
          rcases k with (_ | _) | _
          · dsimp only at h ⊢
            by_cases hbo : l.betweenOpen = true
            · rw [if_pos hbo] at h ⊢
              exact ih h
            · rw [if_neg hbo] at h ⊢
              cases hf : l.finishClause with
              | error e =>
                rw [hf] at h
                cases h
              | ok l' =>
                rw [hf] at h
                exact ih h
          · dsimp only at h ⊢
            cases hf : l.finishClause with
            | error e =>
              rw [hf] at h
              cases h
            | ok l' =>
              rw [hf] at h
              exact ih h
          · exact ih h
termination_by cs => cs.length
decreasing_by all_goals simp only [List.length_cons] at *; omega

/-- A walk that succeeds with no group allowed gives the same pieces with any splitter. -/
theorem walkWith_of_none {cs : List Char} {l : Level} {prev : Option Char} {ps : List Piece}
    (h : walkWith none whole l prev cs = .ok ps) : walkWith sub' whole l prev cs = .ok ps :=
  walkWith_congr h fun _ _ _ hnone => by cases hnone

end Congr

/-! ## How deep groups nest -/

mutual

/-- Whether no chain of groups nested in the piece, the piece itself included, is longer
    than `k`. -/
def Piece.nestsWithin : Nat → Piece → Bool
  | _, .clause _ _ => true
  | 0, .group _ _ _ => false
  | k + 1, .group _ _ pieces => Piece.allNestWithin k pieces

/-- Whether every piece of a level nests within `k`. -/
def Piece.allNestWithin (k : Nat) : List Piece → Bool
  | [] => true
  | p :: ps => p.nestsWithin k && Piece.allNestWithin k ps

end

theorem Piece.allNestWithin_iff {k : Nat} {ps : List Piece} :
    Piece.allNestWithin k ps = true ↔ ∀ p ∈ ps, p.nestsWithin k = true := by
  induction ps with
  | nil => simp [Piece.allNestWithin]
  | cons p ps ih => simp [Piece.allNestWithin, ih]

@[simp] theorem Piece.nestsWithin_clause (k : Nat) (c : Connective) (t : List Char) :
    (Piece.clause c t).nestsWithin k = true := by
  cases k <;> rfl

/-- A stack of levels whose last one is at `maxDepth` gives pieces that nest within the number
    of levels under the first: a level can hold a group only of what the level below gave. -/
theorem splitFrames_nestsWithin {maxDepth : Nat}
    {below : Nat → List Char → Except QueryError (List Piece)} :
    ∀ (frames depth : Nat), depth + frames = maxDepth → ∀ {text : List Char} {ps : List Piece},
      splitFrames maxDepth below (frames + 1) depth text = .ok ps →
        Piece.allNestWithin frames ps = true
  | frames, depth, hreach, text, ps, h => by
    rw [splitFrames] at h
    split at h
    · cases h
      rfl
    · obtain ⟨new, rfl, hnew⟩ := walkWith_pieces h
      rw [Piece.allNestWithin_iff]
      intro p hp
      rcases hnew p (by simpa using hp) with ⟨c, t, rfl⟩ | ⟨f, t, c, n, qs, hsub, hf, rfl⟩
      · exact Piece.nestsWithin_clause _ _ _
      · -- a group comes from the level below, which exists only above `maxDepth`
        cases frames with
        | zero => rw [if_neg (by omega)] at hsub; cases hsub
        | succ frames =>
          rw [if_pos (by omega)] at hsub
          cases hsub
          exact splitFrames_nestsWithin frames (depth + 1) (by omega) hf

/-- A level that splits its text into pieces nesting within `k` is a stack of `k + 1` levels,
    whatever stands below them: the levels under it are asked only for the groups it keeps. -/
theorem splitFrames_of_nestsWithin {maxDepth : Nat}
    (below : Nat → List Char → Except QueryError (List Piece)) :
    ∀ (k depth : Nat) {text : List Char} {ps : List Piece},
      splitLevel maxDepth depth text = .ok ps → Piece.allNestWithin k ps = true →
        splitFrames maxDepth below (k + 1) depth text = .ok ps
  | k, depth, text, ps, h, hnest => by
    rw [splitLevel] at h
    rw [splitFrames]
    by_cases hb : Text.isBlank text = true
    · rw [if_pos hb] at h ⊢
      exact h
    · rw [if_neg hb] at h ⊢
      rw [walkLevel_eq_walkWith] at h
      refine walkWith_congr h fun f t qs hsub hf hkept => ?_
      obtain ⟨c, n, hmem⟩ := hkept
      by_cases hd : depth < maxDepth
      · rw [if_pos hd] at hsub
        cases hsub
        -- the group nests within `k`, so its pieces within one less
        have hgroup := Piece.allNestWithin_iff.1 hnest _ hmem
        cases k with
        | zero => cases hgroup
        | succ k =>
          refine ⟨_, if_pos hd, splitFrames_of_nestsWithin below k (depth + 1) hf hgroup⟩
      · rw [if_neg hd] at hsub
        cases hsub

/-! ## Parentheses a level passes over -/

/-- The text after the first character closes what is left to close after that character. -/
theorem ClosesBy.tail {depth : Nat} {c : Char} {s : List Char} (h : ClosesBy depth (c :: s)) :
    ∃ depth', depth' + [c].count ')' = depth + [c].count '(' ∧ ClosesBy depth' s := by
  have hc := h.prefix_le [c] ⟨s, rfl⟩
  have htotal := h.total
  refine ⟨depth + [c].count '(' - [c].count ')', by omega, ⟨fun p hp => ?_, ?_⟩⟩
  · have := h.prefix_le (c :: p) (List.cons_prefix_cons.2 ⟨rfl, hp⟩)
    simp only [List.count_cons, List.count_nil] at this hc ⊢
    omega
  · simp only [List.count_cons, List.count_nil] at htotal hc ⊢
    omega

/-- A text that closes `k` parentheses more than it opens, read with `d + k` parentheses open,
    is passed over whole and leaves `d` open. -/
theorem closeParen_append_of_closesBy {d : Nat} :
    ∀ {s : List Char} {k : Nat} {acc : List Char} (x : List Char), ClosesBy k s →
      closeParen (d + k) acc (s ++ x) = closeParen d (s.reverse ++ acc) x
  | [], k, acc, x, h => by
    have hk : k = 0 := by
      have := h.total
      simp only [List.count_nil] at this
      omega
    subst hk
    rfl
  | c :: s, k, acc, x, h => by
    obtain ⟨k', hk, hs⟩ := h.tail
    by_cases hopen : c = '('
    · subst hopen
      simp only [List.count_singleton_self] at hk
      have hk' : d + k + 1 = d + k' := by simp at hk; omega
      simp only [List.cons_append, closeParen, if_pos, hk', closeParen_append_of_closesBy x hs]
      simp
    · by_cases hclose : c = ')'
      · subst hclose
        simp at hk
        subst hk
        simp only [List.cons_append, closeParen, if_neg hopen, if_pos, Nat.add_succ,
          closeParen_append_of_closesBy x hs]
        simp
      · have hk' : k' = k := by simp [hopen, hclose] at hk; omega
        subst hk'
        simp only [List.cons_append, closeParen, if_neg hopen, if_neg hclose,
          closeParen_append_of_closesBy x hs]
        simp

section Passes

variable {sub : Option (List Char → Except QueryError (List Piece))} {whole : List Char}
  {l : Level} {prev : Option Char}

/-- After a parenthesized span, a walk that succeeds goes on after the span, whether the span is
    a group or clause text. -/
theorem walkWith_open_ok {rest inner after : List Char} {ps : List Piece}
    (hc : closeParen 0 [] rest = some (inner, after))
    (h : walkWith sub whole l prev ('(' :: rest) = .ok ps) :
    ∃ l', walkWith sub whole l' (some ')') after = .ok ps := by
  rw [walkWith_open_some hc] at h
  split at h
  · split at h
    · cases h
    · split at h
      · cases h
      · split at h
        · cases h
        · cases h
        · exact ⟨_, h⟩
  · exact ⟨_, h⟩

/-- After a keyword, a walk that succeeds goes on after the keyword. -/
theorem walkWith_keyword_ok {c : Char} {rest word after : List Char} {k : Keyword}
    {ps : List Piece} (hc₁ : c ≠ '(') (hc₂ : c ≠ ')')
    (hk : keywordAt prev (c :: rest) = some (k, word, after))
    (h : walkWith sub whole l prev (c :: rest) = .ok ps) :
    ∃ l', walkWith sub whole l' word.getLast? after = .ok ps := by
  rw [walkWith_keyword hc₁ hc₂ hk] at h
  rcases k with (_ | _) | _
  · dsimp only at h
    split at h
    · exact ⟨_, h⟩
    · split at h
      · cases h
      · exact ⟨_, h⟩
  · dsimp only at h
    split at h
    · cases h
    · exact ⟨_, h⟩
  · exact ⟨_, h⟩

/-- The text a level walks through with success is balanced: the matching of parentheses
    passes over it whole, wherever it stands. -/
theorem closeParen_append_of_walkWith :
    ∀ {cs : List Char} {l : Level} {prev : Option Char} {ps : List Piece},
      walkWith sub whole l prev cs = .ok ps →
        ∀ d acc x, closeParen d acc (cs ++ x) = closeParen d (cs.reverse ++ acc) x
  | [], _, _, _, _ => fun _ _ _ => rfl
  | c :: rest, l, prev, ps, h => by
    intro d acc x
    by_cases hopen : c = '('
    · subst hopen
      cases hc : closeParen 0 [] rest with
      | none =>
        rw [walkWith_open_none hc] at h
        cases h
      | some r =>
        obtain ⟨inner, after⟩ := r
        have hshorter : after.length < rest.length + 1 :=
          Nat.lt_succ_of_lt (closeParen_after_lt hc)
        obtain ⟨l', h'⟩ := walkWith_open_ok hc h
        obtain ⟨mid, -, hrest, hmid⟩ := closeParen_closesBy hc
        rw [hrest]
        -- the span is passed over one parenthesis deeper, its `)` closes it, and the walk
        -- after it is balanced again
        calc closeParen d acc ('(' :: (mid ++ ')' :: after) ++ x)
            = closeParen (d + 1 + 0) ('(' :: acc) (mid ++ ')' :: (after ++ x)) := by
              simp [closeParen]
          _ = closeParen (d + 1) (mid.reverse ++ '(' :: acc) (')' :: (after ++ x)) :=
              closeParen_append_of_closesBy _ hmid
          _ = closeParen d (')' :: (mid.reverse ++ '(' :: acc)) (after ++ x) := by
              simp [closeParen]
          _ = closeParen d (after.reverse ++ ')' :: (mid.reverse ++ '(' :: acc)) x :=
              closeParen_append_of_walkWith h' d _ x
          _ = closeParen d (('(' :: (mid ++ ')' :: after)).reverse ++ acc) x := by simp
    · by_cases hclose : c = ')'
      · subst hclose
        rw [walkWith_close] at h
        cases h
      · cases hk : keywordAt prev (c :: rest) with
        | none =>
          rw [walkWith_plain hopen hclose hk] at h
          calc closeParen d acc (c :: rest ++ x)
              = closeParen d (c :: acc) (rest ++ x) := by simp [closeParen, hopen, hclose]
            _ = closeParen d (rest.reverse ++ c :: acc) x := closeParen_append_of_walkWith h d _ x
            _ = closeParen d ((c :: rest).reverse ++ acc) x := by simp
        | some r =>
          obtain ⟨k, word, after⟩ := r
          have hlen := length_keywordAt hk
          obtain ⟨l', h'⟩ := walkWith_keyword_ok hopen hclose hk h
          obtain ⟨-, -, halpha, hsplit, -⟩ := keywordAt_some hk
          rw [hsplit]
          -- a keyword is letters only
          calc closeParen d acc (word ++ after ++ x)
              = closeParen d (word.reverse ++ acc) (after ++ x) := by
                rw [List.append_assoc]
                exact closeParen_append_of_not_paren _ fun c hc => ne_paren_of_isAlpha (halpha c hc)
            _ = closeParen d (after.reverse ++ word.reverse ++ acc) x := by
                rw [List.append_assoc]
                exact closeParen_append_of_walkWith h' d _ x
            _ = closeParen d ((word ++ after).reverse ++ acc) x := by simp
termination_by cs => cs.length
decreasing_by all_goals simp only [List.length_cons] at *; omega

end Passes

/-! ## Groups nested around a text -/

/-- The text inside `n` parentheses opened before it and closed after it. -/
def parenthesize (n : Nat) (c : List Char) : List Char :=
  List.replicate n '(' ++ c ++ List.replicate n ')'

theorem parenthesize_zero (c : List Char) : parenthesize 0 c = c := by
  simp [parenthesize]

theorem parenthesize_succ (k : Nat) (c : List Char) :
    parenthesize (k + 1) c = '(' :: (parenthesize k c ++ [')']) := by
  rw [parenthesize, List.replicate_succ, List.replicate_succ']
  simp [parenthesize]

theorem closeParen_replicate_open {d : Nat} {acc : List Char} (k : Nat) (x : List Char) :
    closeParen d acc (List.replicate k '(' ++ x) =
      closeParen (d + k) (List.replicate k '(' ++ acc) x := by
  induction k generalizing d acc with
  | zero => rfl
  | succ k ih =>
    calc closeParen d acc (List.replicate (k + 1) '(' ++ x)
        = closeParen (d + 1) ('(' :: acc) (List.replicate k '(' ++ x) := by
          simp only [List.replicate_succ, List.cons_append, closeParen, if_pos]
      _ = closeParen (d + 1 + k) (List.replicate k '(' ++ '(' :: acc) x := ih
      _ = closeParen (d + (k + 1)) (List.replicate (k + 1) '(' ++ acc) x := by
          rw [List.replicate_succ', List.append_assoc, List.singleton_append, Nat.add_right_comm,
            Nat.add_assoc]

theorem closeParen_replicate_close {d : Nat} {acc : List Char} (k : Nat) (x : List Char) :
    closeParen (d + k) acc (List.replicate k ')' ++ x) =
      closeParen d (List.replicate k ')' ++ acc) x := by
  induction k generalizing acc with
  | zero => rfl
  | succ k ih =>
    calc closeParen (d + (k + 1)) acc (List.replicate (k + 1) ')' ++ x)
        = closeParen (d + k) (')' :: acc) (List.replicate k ')' ++ x) := by
          simp only [List.replicate_succ, List.cons_append, closeParen, ← Nat.add_assoc]
          rfl
      _ = closeParen d (List.replicate k ')' ++ ')' :: acc) x := ih
      _ = closeParen d (List.replicate (k + 1) ')' ++ acc) x := by
          rw [List.replicate_succ', List.append_assoc, List.singleton_append]

/-- Around a balanced text, the first of `k + 1` opening parentheses is closed by the last
    closing one. -/
theorem closeParen_parenthesize {c : List Char}
    (hc : ∀ d acc x, closeParen d acc (c ++ x) = closeParen d (c.reverse ++ acc) x) (k : Nat) :
    closeParen 0 [] (parenthesize k c ++ [')']) = some (parenthesize k c, []) := by
  calc closeParen 0 [] (parenthesize k c ++ [')'])
      = closeParen (0 + k) (List.replicate k '(' ++ [])
          (c ++ (List.replicate k ')' ++ [')'])) := by
        rw [← closeParen_replicate_open]
        simp [parenthesize]
    _ = closeParen (0 + k) (c.reverse ++ List.replicate k '(') (List.replicate k ')' ++ [')']) := by
        rw [hc, List.append_nil]
    _ = closeParen 0 (List.replicate k ')' ++ c.reverse ++ List.replicate k '(') [')'] := by
        rw [closeParen_replicate_close, List.append_assoc]
    _ = some (parenthesize k c, []) := by
        simp [closeParen, parenthesize, List.reverse_replicate]

section Parenthesize

variable {maxDepth : Nat} {c : List Char}

/-- One more pair of parentheses around a balanced text: the level at `depth` holds one group,
    of the pieces the level below gives for the text inside, when the depth allows a group and
    the level below gives pieces. -/
theorem splitLevel_parenthesize_succ
    (hc : ∀ d acc x, closeParen d acc (c ++ x) = closeParen d (c.reverse ++ acc) x)
    (k depth : Nat) {ps : List Piece} :
    splitLevel maxDepth depth (parenthesize (k + 1) c) = .ok ps ↔
      depth < maxDepth ∧ ∃ qs, splitLevel maxDepth (depth + 1) (parenthesize k c) = .ok qs ∧
        qs ≠ [] ∧ ps = [.group .and false qs] := by
  have hblank : Text.isBlank (parenthesize (k + 1) c) = false := by
    rw [parenthesize_succ]
    rfl
  -- the walk starts with nothing gathered, so the span is a group
  have hempty : ({} : Level).currentText.isEmpty = true := rfl
  have hhead : (({} : Level).currentText.isEmpty || Text.isWord ({} : Level).currentText "not") =
      true := by
    rw [hempty, Bool.true_or]
  rw [splitLevel, if_neg (by simp [hblank]), walkLevel_eq_walkWith, parenthesize_succ,
    walkWith_open_some (closeParen_parenthesize hc k), if_pos hhead,
    if_neg (by decide : ¬({} : Level).afterGroup = true)]
  by_cases hd : depth < maxDepth
  · rw [if_pos hd]
    dsimp only
    cases hqs : splitLevel maxDepth (depth + 1) (parenthesize k c) with
    | error e => simp
    | ok qs =>
      cases qs with
      | nil => simp
      | cons q qs =>
        dsimp only
        rw [walkWith_nil]
        simp [Level.finish, Level.connective, Text.isBlank, hd, hempty, eq_comm]
  · rw [if_neg hd]
    simp [hd]

/-- Around a balanced text that every level splits into pieces, `k` pairs of parentheses split
    at `depth` exactly when `depth + k` stays within the limit: each pair takes one level. -/
theorem splitLevel_parenthesize_iff
    (hc : ∀ d acc x, closeParen d acc (c ++ x) = closeParen d (c.reverse ++ acc) x)
    (hsplits : ∀ depth, ∃ ps, splitLevel maxDepth depth c = .ok ps ∧ ps ≠ []) :
    ∀ (k depth : Nat), depth ≤ maxDepth →
      ((∃ ps, splitLevel maxDepth depth (parenthesize k c) = .ok ps ∧ ps ≠ []) ↔
        depth + k ≤ maxDepth)
  | 0, depth, hd => by
    rw [parenthesize_zero]
    exact ⟨fun _ => hd, fun _ => hsplits depth⟩
  | k + 1, depth, hd => by
    constructor
    · rintro ⟨ps, h, -⟩
      obtain ⟨hlt, qs, hqs, hne, -⟩ := (splitLevel_parenthesize_succ hc k depth).1 h
      have hinner := (splitLevel_parenthesize_iff hc hsplits k (depth + 1) hlt).1 ⟨qs, hqs, hne⟩
      omega
    · intro hle
      obtain ⟨qs, hqs, hne⟩ :=
        (splitLevel_parenthesize_iff hc hsplits k (depth + 1) (by omega)).2 (by omega)
      exact ⟨_, (splitLevel_parenthesize_succ hc k depth).2 ⟨by omega, qs, hqs, hne, rfl⟩, by simp⟩

/-- A text that splits into pieces with no group allowed is not blank, and a level that allows
    no group walks it to those pieces. -/
theorem walkWith_none_of_split_zero {ps : List Piece} (h : split c 0 = .ok ps) (hps : ps ≠ []) :
    Text.isBlank c = false ∧ walkWith none c {} none c = .ok ps := by
  rw [split, splitLevel] at h
  by_cases hb : Text.isBlank c = true
  · rw [if_pos hb] at h
    cases h
    exact absurd rfl hps
  · rw [if_neg hb, walkLevel_eq_walkWith, if_neg (Nat.lt_irrefl 0)] at h
    exact ⟨by simpa using hb, h⟩

/-- A text that splits into pieces with no group allowed splits into the same pieces at every
    depth and under every limit. -/
theorem splitLevel_of_split_zero {ps : List Piece} (h : split c 0 = .ok ps) (hps : ps ≠ [])
    (maxDepth depth : Nat) : splitLevel maxDepth depth c = .ok ps := by
  obtain ⟨hb, hwalk⟩ := walkWith_none_of_split_zero h hps
  rw [splitLevel, if_neg (by simp [hb]), walkLevel_eq_walkWith]
  exact walkWith_of_none hwalk

end Parenthesize

/-! ## The depth of the splitter -/

/-- The splitter is a stack of `maxDepth + 1` levels: whatever stands below them is never asked.
    On success no chain of nested groups is longer than `maxDepth`, and a stack of one level
    more than the nesting of the pieces gives them already, so the parentheses of a clause take
    no level. Around a text that splits with no group allowed, `n` pairs of parentheses split
    exactly when `n ≤ maxDepth`. -/
theorem split_depth_bounded (maxDepth : Nat) :
    (∀ text below, split text maxDepth = splitFrames maxDepth below (maxDepth + 1) 0 text) ∧
    (∀ text ps, split text maxDepth = .ok ps →
      Piece.allNestWithin maxDepth ps = true ∧
      ∀ k, Piece.allNestWithin k ps = true → ∀ below,
        splitFrames maxDepth below (k + 1) 0 text = .ok ps) ∧
    (∀ c n, (∃ ps, split c 0 = .ok ps ∧ ps ≠ []) →
      ((∃ ps, split (parenthesize n c) maxDepth = .ok ps) ↔ n ≤ maxDepth)) := by
  have hframes : ∀ text below,
      split text maxDepth = splitFrames maxDepth below (maxDepth + 1) 0 text :=
    fun text below => splitLevel_eq_splitFrames maxDepth below maxDepth 0 (by omega) text
  refine ⟨hframes, fun text ps h => ⟨?_, fun k hk below => ?_⟩, ?_⟩
  · rw [hframes text fun _ _ => .ok []] at h
    exact splitFrames_nestsWithin maxDepth 0 (by omega) h
  · exact splitFrames_of_nestsWithin below k 0 h hk
  · rintro c n ⟨ps, hc, hps⟩
    have hbal := closeParen_append_of_walkWith (walkWith_none_of_split_zero hc hps).2
    have hsplits : ∀ depth, ∃ qs, splitLevel maxDepth depth c = .ok qs ∧ qs ≠ [] :=
      fun depth => ⟨ps, splitLevel_of_split_zero hc hps maxDepth depth, hps⟩
    have hiff := splitLevel_parenthesize_iff hbal hsplits n 0 (Nat.zero_le _)
    constructor
    · rintro ⟨qs, h⟩
      cases n with
      | zero => exact Nat.zero_le _
      | succ k =>
        -- the pieces are one group, so there are some
        obtain ⟨-, rs, -, -, rfl⟩ := (splitLevel_parenthesize_succ hbal k 0).1 h
        have hle := hiff.1 ⟨_, h, by simp⟩
        omega
    · intro hn
      obtain ⟨qs, h, -⟩ := hiff.2 (by omega)
      exact ⟨qs, h⟩

/-- The comparison `x = 1` splits alone; in three parentheses it does not split under a bound
    of two levels, in two it does. -/
theorem split_depth_bounded_parenthesized :
    (∃ ps, split "x = 1".toList 0 = .ok ps ∧ ps ≠ []) ∧
    ¬ (∃ ps, split (parenthesize 3 "x = 1".toList) 2 = .ok ps) ∧
    (∃ ps, split (parenthesize 2 "x = 1".toList) 2 = .ok ps) := by
  -- the clause is walked character by character: no keyword, no parenthesis
  have hsplit : split "x = 1".toList 0 = .ok [.clause .and "x = 1".toList] := by
    have htext : "x = 1".toList = ['x', ' ', '=', ' ', '1'] := by decide
    rw [split, splitLevel, if_neg (by decide), htext]
    simp (disch := decide) only [walkLevel_cons_of_keywordAt_none]
    rw [walkLevel.eq_1]
    rfl
  have hc : ∃ ps, split "x = 1".toList 0 = .ok ps ∧ ps ≠ [] := ⟨_, hsplit, by simp⟩
  have hiff₃ := (split_depth_bounded 2).2.2 "x = 1".toList 3 hc
  have hiff₂ := (split_depth_bounded 2).2.2 "x = 1".toList 2 hc
  exact ⟨hc, fun h => absurd (hiff₃.1 h) (by decide), hiff₂.2 (by decide)⟩

end FilterQuery.Query

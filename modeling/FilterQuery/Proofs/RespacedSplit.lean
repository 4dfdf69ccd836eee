import FilterQuery.Proofs.Spacing
import FilterQuery.Proofs.SwappedSpan

/-!
# The splitter does not count white space

Two level texts with the same squash (`Text.squash`: every run of white space written as one
space) are split alike: both splits fail, or both give the same pieces up to the white space
inside their clause texts (`split_respace`). `Piece.respace` squashes every clause text of a
piece, and two lists of pieces *differ only in white space* when they respace to the same list.

The splitter reads white space in four places, and each sees the same in both texts:
* a run of white space is gathered into the clause text, where only its squash is kept
  (`walkLevel_ws_run`, `Level.Respaced`);
* a keyword must follow white space, `)` or the start, and be followed by white space, `(` or
  the end, and its letters hold none (`keywordAt_respace`);
* the text before a `(` is trimmed and compared with `NOT`, and a clause text is trimmed
  (`Level.Respaced.currentText`);
* a blank level and a blank tail after a group are tested by `Text.isBlank`.

The walk is compared step by step, with a whole run of white space taken at once on both
sides: the two texts start with runs of different lengths, but the walks agree again after
them. The proof is by well-founded recursion on the length of the first text; a group's own
text and the text after a keyword or a group are shorter than the text they were found in.

## Key results
- `closeParen_respace`, `keywordAt_respace`: the splitter's two scans
- `finishClause_respaced`, `finish_respaced`: ending a clause and a level
- `walkLevel_respace`: the walks of two texts with the same squash
- `split_respace`: the splits of two texts with the same squash
-/

namespace FilterQuery.Query

open Text (squash isWhiteSpace)

/-! ## Pieces up to white space -/

mutual

/-- The piece with every clause text squashed. -/
def Piece.respace : Piece → Piece
  | .clause conn text => .clause conn (squash text)
  | .group conn negated pieces => .group conn negated (Piece.respaceAll pieces)

/-- The pieces with every clause text squashed. -/
def Piece.respaceAll : List Piece → List Piece
  | [] => []
  | p :: ps => p.respace :: Piece.respaceAll ps

end

namespace Piece

@[simp] theorem respaceAll_nil : respaceAll [] = [] := by simp [respaceAll]

@[simp] theorem respaceAll_cons (p : Piece) (ps : List Piece) :
    respaceAll (p :: ps) = p.respace :: respaceAll ps := by simp [respaceAll]

theorem respaceAll_eq_map (ps : List Piece) : respaceAll ps = ps.map respace := by
  induction ps with
  | nil => rfl
  | cons p ps ih => simp [ih]

theorem respaceAll_reverse (ps : List Piece) : respaceAll ps.reverse = (respaceAll ps).reverse := by
  simp [respaceAll_eq_map]

@[simp] theorem respaceAll_eq_nil_iff {ps : List Piece} : respaceAll ps = [] ↔ ps = [] := by
  cases ps <;> simp

end Piece

/-- Two lists of pieces that differ only in the white space of their clause texts. -/
def PiecesRespaced (ps₁ ps₂ : List Piece) : Prop := Piece.respaceAll ps₁ = Piece.respaceAll ps₂

/-! ## Levels up to white space -/

/-- Two states of a level that differ only in the white space of their texts. -/
structure Level.Respaced (l₁ l₂ : Level) : Prop where
  pieces : PiecesRespaced l₁.piecesRev l₂.piecesRev
  pending : l₁.pending = l₂.pending
  current : squash l₁.currentRev = squash l₂.currentRev
  afterGroup : l₁.afterGroup = l₂.afterGroup
  betweenOpen : l₁.betweenOpen = l₂.betweenOpen

namespace Level.Respaced

variable {l₁ l₂ : Level}

theorem empty : Level.Respaced {} {} := ⟨rfl, rfl, rfl, rfl, rfl⟩

/-- The gathered clause texts, trimmed, have the same squash. -/
theorem currentText (h : l₁.Respaced l₂) : squash l₁.currentText = squash l₂.currentText :=
  Text.squash_trim_congr (Text.squash_reverse_congr h.current)

/-- Gathering texts with the same squash. -/
theorem gather (h : l₁.Respaced l₂) {u₁ u₂ : List Char} (hu : squash u₁ = squash u₂) :
    Level.Respaced { l₁ with currentRev := u₁ ++ l₁.currentRev }
      { l₂ with currentRev := u₂ ++ l₂.currentRev } :=
  ⟨h.pieces, h.pending, Text.squash_append_congr hu h.current, h.afterGroup, h.betweenOpen⟩

end Level.Respaced

/-- Ending the clauses of two levels that differ only in white space: both fail, or both give
    levels that do. -/
theorem finishClause_respaced {l₁ l₂ : Level} (h : l₁.Respaced l₂) :
    Paired Level.Respaced l₁.finishClause l₂.finishClause := by
  unfold Level.finishClause
  dsimp only
  rw [h.afterGroup, Text.isEmpty_congr h.currentText]
  cases l₂.afterGroup
  · -- the clause text becomes a piece
    refine ⟨?_, rfl, rfl, rfl, rfl⟩
    simp only [PiecesRespaced, Piece.respaceAll_cons, Piece.respace, Level.connective, h.pending,
      h.currentText]
    rw [h.pieces]
  · -- after a group only white space may have been gathered
    cases l₂.currentText.isEmpty
    · trivial
    · exact ⟨h.pieces, h.pending, rfl, rfl, rfl⟩

/-- The pieces of two levels read to the end. -/
theorem finish_respaced {l₁ l₂ : Level} (h : l₁.Respaced l₂) :
    Paired PiecesRespaced l₁.finish l₂.finish := by
  unfold Level.finish
  rw [h.afterGroup, Text.isBlank_congr h.current]
  split
  · show PiecesRespaced _ _
    rw [PiecesRespaced, Piece.respaceAll_reverse, Piece.respaceAll_reverse, h.pieces]
  · refine Paired.bind (finishClause_respaced h) fun l₁' l₂' h' => ?_
    show PiecesRespaced _ _
    rw [PiecesRespaced, Piece.respaceAll_reverse, Piece.respaceAll_reverse, h'.pieces]

/-- Ending a clause and going on from two levels that differ only in white space. -/
theorem finishClause_then {l₁ l₂ : Level} (h : l₁.Respaced l₂) {α β : Type} {R : α → β → Prop}
    {f₁ : Level → Except QueryError α} {f₂ : Level → Except QueryError β}
    (hf : ∀ l₁' l₂', l₁'.Respaced l₂' → Paired R (f₁ l₁') (f₂ l₂')) :
    Paired R (match l₁.finishClause with | .error e => .error e | .ok l' => f₁ l')
      (match l₂.finishClause with | .error e => .error e | .ok l' => f₂ l') := by
  have hfin := finishClause_respaced h
  cases hf₁ : l₁.finishClause <;> cases hf₂ : l₂.finishClause <;> rw [hf₁, hf₂] at hfin
  · trivial
  · cases hfin
  · cases hfin
  · exact hf _ _ hfin

/-! ## The splitter's scans -/

theorem ne_paren_of_ws {c : Char} (hc : isWhiteSpace c = true) : c ≠ '(' ∧ c ≠ ')' := by
  constructor <;> rintro rfl <;> exact absurd hc (by decide)

theorem isAlpha_of_ws {c : Char} (hc : isWhiteSpace c = true) : c.isAlpha = false := by
  cases h : c.isAlpha
  · rfl
  · rw [Text.isWhiteSpace_of_isAlpha h] at hc
    exact absurd hc Bool.false_ne_true

/-- A nonempty run of white space read in reverse squashes as the run does. -/
theorem squash_reverse_run {w : List Char} (hw : w ≠ []) (hws : ∀ c ∈ w, isWhiteSpace c = true) :
    squash w.reverse = [' '] :=
  Text.squash_run (List.reverse_ne_nil_iff.2 hw) fun c hc => hws c (List.mem_reverse.1 hc)

/-- The closing parentheses of two texts with the same squash: both missing, or found with
    inner texts and rests of the same squash. -/
theorem closeParen_respace : ∀ (depth : Nat) (acc₁ acc₂ r₁ r₂ : List Char),
    squash acc₁ = squash acc₂ → squash r₁ = squash r₂ →
    Option.Rel (fun a b => squash a.1 = squash b.1 ∧ squash a.2 = squash b.2)
      (closeParen depth acc₁ r₁) (closeParen depth acc₂ r₂)
  | depth, acc₁, acc₂, [], r₂, _, h => by
    rw [Text.eq_nil_of_squash_eq h]
    exact .none
  | depth, acc₁, acc₂, c :: a, r₂, hacc, h => by
    cases hc : isWhiteSpace c
    · obtain ⟨b, rfl, hab⟩ := Text.squash_eq_squash_cons hc h
      have hacc' := Text.squash_cons_congr c hacc
      by_cases hl : c = '('
      · simp only [closeParen, if_pos hl]
        exact closeParen_respace (depth + 1) _ _ a b hacc' hab
      · by_cases hr : c = ')'
        · simp only [closeParen, if_neg hl, if_pos hr]
          cases depth with
          | zero => exact .some ⟨Text.squash_reverse_congr hacc, hab⟩
          | succ d => exact closeParen_respace d _ _ a b hacc' hab
        · simp only [closeParen, if_neg hl, if_neg hr]
          exact closeParen_respace depth _ _ a b hacc' hab
    · -- a run of white space on each side, gathered whole
      obtain ⟨d, b, rfl, hd, hab⟩ := Text.squash_eq_squash_cons_ws hc h
      obtain ⟨w₁, hw₁, hws₁, hx⟩ := Text.exists_run_of_ws hc a
      obtain ⟨w₂, hw₂, hws₂, hy⟩ := Text.exists_run_of_ws hd b
      have hrun : squash w₁.reverse = squash w₂.reverse := by
        rw [squash_reverse_run hw₁ hws₁, squash_reverse_run hw₂ hws₂]
      have := (List.dropWhile_sublist isWhiteSpace (l := a)).length_le
      rw [hx, hy, closeParen_append_of_not_paren _ fun c hc => ne_paren_of_ws (hws₁ c hc),
        closeParen_append_of_not_paren _ fun c hc => ne_paren_of_ws (hws₂ c hc)]
      exact closeParen_respace depth _ _ _ _ (Text.squash_append_congr hrun hacc) hab
termination_by _ _ _ r₁ => r₁.length
decreasing_by all_goals simp only [List.length_cons]; omega

theorem boundaryAfter_respace {a b : List Char} (h : squash a = squash b) :
    boundaryAfter a = boundaryAfter b := by
  cases a with
  | nil => rw [Text.eq_nil_of_squash_eq h]
  | cons c a =>
    cases hc : isWhiteSpace c
    · obtain ⟨b, rfl, -⟩ := Text.squash_eq_squash_cons hc h
      rfl
    · obtain ⟨d, b, rfl, hd, -⟩ := Text.squash_eq_squash_cons_ws hc h
      simp [boundaryAfter, hc, hd]

/-- The keywords at the front of two texts with the same squash, after characters that are
    boundaries alike: both missing, or the same keyword with the same letters and rests of
    the same squash. -/
theorem keywordAt_respace {p₁ p₂ : Option Char} (hp : boundaryBefore p₁ = boundaryBefore p₂)
    {x y : List Char} (h : squash x = squash y) :
    Option.Rel (fun a b => a.1 = b.1 ∧ a.2.1 = b.2.1 ∧ squash a.2.2 = squash b.2.2)
      (keywordAt p₁ x) (keywordAt p₂ y) := by
  -- the letters of a keyword are no white space
  obtain ⟨hword, hafter⟩ := Text.takeWhile_eq_of_squash_eq
    (p := fun c => c.isAlpha) (fun c hc => Text.isWhiteSpace_of_isAlpha hc) h
  unfold keywordAt
  dsimp only
  rw [hp, hword, boundaryAfter_respace hafter]
  split_ifs
  · exact .none
  · exact .some ⟨rfl, rfl, hafter⟩
  · exact .some ⟨rfl, rfl, hafter⟩
  · exact .some ⟨rfl, rfl, hafter⟩
  · exact .none

/-! ## The walk over a level -/

section Walk

variable {maxDepth depth : Nat} {whole : List Char}

theorem keywordAt_of_ws {prev : Option Char} {c : Char} (hc : isWhiteSpace c = true)
    (rest : List Char) : keywordAt prev (c :: rest) = none := by
  simp [keywordAt, isAlpha_of_ws hc]

/-- A run of white space is gathered into the clause text. -/
theorem walkLevel_ws_run : ∀ {w : List Char} {l : Level} {prev : Option Char} (rest : List Char),
    (∀ c ∈ w, isWhiteSpace c = true) →
    walkLevel maxDepth depth whole l prev (w ++ rest) =
      walkLevel maxDepth depth whole { l with currentRev := w.reverse ++ l.currentRev }
        (w.getLast?.or prev) rest
  | [], l, prev, rest, _ => by simp
  | z :: zs, l, prev, rest, hws => by
    have hz := hws z List.mem_cons_self
    obtain ⟨hz₁, hz₂⟩ := ne_paren_of_ws hz
    rw [List.cons_append, walkLevel_cons_of_keywordAt_none hz₁ hz₂ (keywordAt_of_ws hz _),
      walkLevel_ws_run rest fun c hc => hws c (List.mem_cons_of_mem _ hc), List.getLast?_cons]
    have hprev : zs.getLast?.or (some z) = (some (zs.getLast?.getD z)).or prev := by
      cases zs.getLast? <;> rfl
    simp [hprev]

/-- After a non-empty run of white space a keyword may start. -/
theorem boundaryBefore_run {w : List Char} (hw : w ≠ []) (hws : ∀ c ∈ w, isWhiteSpace c = true)
    (prev : Option Char) : boundaryBefore (w.getLast?.or prev) = true := by
  obtain ⟨e, he⟩ := List.getLast?_isSome.2 hw |> Option.isSome_iff_exists.1
  simp [he, boundaryBefore, hws e (List.mem_of_getLast? he)]

/-- The walks of two level texts with the same squash, from levels that differ only in white
    space and after characters that are boundaries alike, both fail or give pieces that differ
    only in white space. -/
def WalkRespaced (maxDepth depth : Nat) (x y : List Char) : Prop :=
  ∀ (whole₁ whole₂ : List Char) (l₁ l₂ : Level) (p₁ p₂ : Option Char), l₁.Respaced l₂ →
    boundaryBefore p₁ = boundaryBefore p₂ →
    Paired PiecesRespaced (walkLevel maxDepth depth whole₁ l₁ p₁ x)
      (walkLevel maxDepth depth whole₂ l₂ p₂ y)

/-- A level split from texts whose walks are related. -/
theorem splitLevel_respace_of_walk {x y : List Char} (hw : WalkRespaced maxDepth depth x y)
    (h : squash x = squash y) :
    Paired PiecesRespaced (splitLevel maxDepth depth x) (splitLevel maxDepth depth y) := by
  rw [splitLevel, splitLevel, Text.isBlank_congr h]
  split
  · exact (rfl : PiecesRespaced [] [])
  · exact hw _ _ _ _ _ _ Level.Respaced.empty rfl

theorem walkRespaced_nil : WalkRespaced maxDepth depth [] [] := by
  intro _ _ l₁ l₂ _ _ hl _
  rw [walkLevel.eq_1, walkLevel.eq_1]
  exact finish_respaced hl

theorem walkRespaced_close (a b : List Char) : WalkRespaced maxDepth depth (')' :: a) (')' :: b) := by
  intro _ _ _ _ _ _ _ _
  rw [walkLevel.eq_3, walkLevel.eq_3]
  trivial

/-- Two runs of white space are gathered whole, and the walks go on after them alike. -/
theorem walkRespaced_ws {c d : Char} {a b : List Char} (hc : isWhiteSpace c = true)
    (hd : isWhiteSpace d = true)
    (hrest : WalkRespaced maxDepth depth (a.dropWhile isWhiteSpace) (b.dropWhile isWhiteSpace)) :
    WalkRespaced maxDepth depth (c :: a) (d :: b) := by
  intro whole₁ whole₂ l₁ l₂ p₁ p₂ hl _
  obtain ⟨w₁, hw₁, hws₁, hx⟩ := Text.exists_run_of_ws hc a
  obtain ⟨w₂, hw₂, hws₂, hy⟩ := Text.exists_run_of_ws hd b
  have hrun : squash w₁.reverse = squash w₂.reverse := by
    rw [squash_reverse_run hw₁ hws₁, squash_reverse_run hw₂ hws₂]
  rw [hx, hy, walkLevel_ws_run _ hws₁, walkLevel_ws_run _ hws₂]
  refine hrest _ _ _ _ _ _ (hl.gather hrun) ?_
  rw [boundaryBefore_run hw₁ hws₁, boundaryBefore_run hw₂ hws₂]

/-- A character that is neither white space nor a parenthesis: gathered into the clause text,
    or the start of the same keyword in both texts. -/
theorem walkRespaced_cons {c : Char} {a b : List Char} (hl : c ≠ '(') (hr : c ≠ ')') (hab : squash a = squash b)
    (hrest : WalkRespaced maxDepth depth a b)
    (hafter : ∀ x y, x.length < (c :: a).length → squash x = squash y →
      WalkRespaced maxDepth depth x y) :
    WalkRespaced maxDepth depth (c :: a) (c :: b) := by
  intro whole₁ whole₂ l₁ l₂ p₁ p₂ hlev hp
  have hk := keywordAt_respace hp (Text.squash_cons_congr c hab)
  generalize hk₁ : keywordAt p₁ (c :: a) = k₁ at hk
  generalize hk₂ : keywordAt p₂ (c :: b) = k₂ at hk
  cases hk with
  | none =>
    rw [walkLevel_cons_of_keywordAt_none hl hr hk₁, walkLevel_cons_of_keywordAt_none hl hr hk₂]
    exact hrest _ _ _ _ _ _ (hlev.gather (show squash [c] = squash [c] from rfl)) rfl
  | @some r₁ r₂ hrel =>
    obtain ⟨k, word, after₁⟩ := r₁
    obtain ⟨k', word', after₂⟩ := r₂
    obtain ⟨rfl, rfl, hsq⟩ := hrel
    rw [walkLevel_keyword hl hr hk₁, walkLevel_keyword hl hr hk₂]
    -- the walks go on after the keyword, from the same character
    have hnext := hafter after₁ after₂ (length_keywordAt hk₁) hsq
    cases k with
    | connective conn =>
      cases conn with
      | and =>
        dsimp only
        rw [hlev.betweenOpen]
        split
        · exact hnext _ _ _ _ _ _
            ⟨hlev.pieces, hlev.pending, Text.squash_append_congr rfl hlev.current,
              hlev.afterGroup, rfl⟩ rfl
        · exact finishClause_then hlev fun l₁' l₂' h' =>
            hnext _ _ _ _ _ _ ⟨h'.pieces, rfl, h'.current, h'.afterGroup, h'.betweenOpen⟩ rfl
      | or =>
        exact finishClause_then hlev fun l₁' l₂' h' =>
          hnext _ _ _ _ _ _ ⟨h'.pieces, rfl, h'.current, h'.afterGroup, h'.betweenOpen⟩ rfl
    | between =>
      exact hnext _ _ _ _ _ _
        ⟨hlev.pieces, hlev.pending, Text.squash_append_congr rfl hlev.current,
          hlev.afterGroup, rfl⟩ rfl

/-- An opening parenthesis: both texts close it alike, and the group or the span gathered
    into the clause text differ only in white space. -/
theorem walkRespaced_open {a b : List Char} (hab : squash a = squash b)
    (hrec : ∀ x y, x.length < ('(' :: a).length → squash x = squash y →
      ∀ d, WalkRespaced maxDepth d x y) :
    WalkRespaced maxDepth depth ('(' :: a) ('(' :: b) := by
  intro whole₁ whole₂ l₁ l₂ p₁ p₂ hl _
  have hc := closeParen_respace 0 [] [] a b rfl hab
  generalize hc₁ : closeParen 0 [] a = c₁ at hc
  generalize hc₂ : closeParen 0 [] b = c₂ at hc
  cases hc with
  | none =>
    obtain ⟨e₁, he₁⟩ := @walkLevel_open_none maxDepth depth whole₁ l₁ p₁ a hc₁
    obtain ⟨e₂, he₂⟩ := @walkLevel_open_none maxDepth depth whole₂ l₂ p₂ b hc₂
    rw [he₁, he₂]
    trivial
  | @some r₁ r₂ hrel =>
    obtain ⟨inner₁, after₁⟩ := r₁
    obtain ⟨inner₂, after₂⟩ := r₂
    obtain ⟨hinner, hafter⟩ := hrel
    have hlen := length_closeParen hc₁
    simp only [List.length_nil, Nat.zero_add] at hlen
    rw [walkLevel_open_some hc₁, walkLevel_open_some hc₂]
    have hhead := hl.currentText
    have hempty := Text.isEmpty_congr hhead
    have hnot := Text.isWord_congr
      (show ∀ c ∈ "not".toList, isWhiteSpace c = false by simp [isWhiteSpace]) hhead
    rw [hempty, hnot, hl.afterGroup]
    split
    · split
      · trivial
      · split
        · trivial
        · -- the group's own pieces, then the walk after it
          have hsplit := splitLevel_respace_of_walk
            (hrec inner₁ inner₂ (by simp; omega) hinner (depth + 1)) hinner
          have hnext := hrec after₁ after₂ (by simp; omega) hafter depth
          generalize hs₁ : splitLevel maxDepth (depth + 1) inner₁ = s₁ at hsplit
          generalize hs₂ : splitLevel maxDepth (depth + 1) inner₂ = s₂ at hsplit
          cases s₁ with
          | error e₁ =>
            cases s₂ with
            | error e₂ => trivial
            | ok ps₂ => cases hsplit
          | ok ps₁ =>
            cases s₂ with
            | error e₂ => cases hsplit
            | ok ps₂ =>
              cases ps₁ with
              | nil =>
                cases ps₂ with
                | nil => trivial
                | cons _ _ => cases hsplit
              | cons q₁ qs₁ =>
                cases ps₂ with
                | nil => cases hsplit
                | cons q₂ qs₂ =>
                  refine hnext _ _ _ _ _ _ ⟨?_, rfl, rfl, rfl, hl.betweenOpen⟩ rfl
                  simp only [PiecesRespaced, Piece.respaceAll_cons, Piece.respace,
                    Level.connective, hl.pending]
                  rw [← Piece.respaceAll_cons, ← Piece.respaceAll_cons, hsplit, hl.pieces]
    · -- the span is part of the clause text
      have hspan : squash ('(' :: inner₁ ++ [')']).reverse =
          squash ('(' :: inner₂ ++ [')']).reverse :=
        Text.squash_reverse_congr (Text.squash_append_congr (Text.squash_cons_congr '(' hinner) rfl)
      exact hrec after₁ after₂ (by simp; omega) hafter depth _ _ _ _ _ _
        ⟨hl.pieces, hl.pending, Text.squash_append_congr hspan hl.current, rfl, hl.betweenOpen⟩ rfl

end Walk

/-- The walks of two level texts with the same squash. -/
theorem walkLevel_respace (maxDepth : Nat) :
    ∀ (depth : Nat) (x y : List Char), squash x = squash y → WalkRespaced maxDepth depth x y
  | depth, [], y, h => by
    rw [Text.eq_nil_of_squash_eq h]
    exact walkRespaced_nil
  | depth, c :: a, y, h => by
    cases hc : isWhiteSpace c
    · obtain ⟨b, rfl, hab⟩ := Text.squash_eq_squash_cons hc h
      by_cases hl : c = '('
      · subst hl
        exact walkRespaced_open hab fun x y _ hxy d => walkLevel_respace maxDepth d x y hxy
      · by_cases hr : c = ')'
        · subst hr
          exact walkRespaced_close a b
        · exact walkRespaced_cons hl hr hab (walkLevel_respace maxDepth depth a b hab)
            fun x y _ hxy => walkLevel_respace maxDepth depth x y hxy
    · obtain ⟨d, b, rfl, hd, hab⟩ := Text.squash_eq_squash_cons_ws hc h
      have := (List.dropWhile_sublist isWhiteSpace (l := a)).length_le
      exact walkRespaced_ws hc hd (walkLevel_respace maxDepth depth _ _ hab)
termination_by _ x => x.length
decreasing_by all_goals simp only [List.length_cons] at *; omega

/-- Two filter texts with the same squash split alike: both fail, or both give the same pieces
    up to the white space in their clause texts. -/
theorem split_respace {x y : List Char} (h : squash x = squash y) (maxDepth : Nat) :
    Paired PiecesRespaced (split x maxDepth) (split y maxDepth) :=
  splitLevel_respace_of_walk (walkLevel_respace maxDepth 0 x y h) h

end FilterQuery.Query

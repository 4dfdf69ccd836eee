import FilterQuery.Proofs.ErrorFragments
import FilterQuery.Proofs.Spacing

/-!
# The splitter keeps the text it splits

The pieces of a level can be written back as text (`Piece.renderList`): the first piece, then
every other one after the keyword of its connective; a clause as its text, a group as its
own pieces in parentheses, after `NOT` when it is negated. Written back so, the pieces of a
successful split are the text that was split, once white space is deleted from both and ASCII
letters are lowered (`Text.skeleton`): the splitter drops nothing but white space and invents
nothing (`skeleton_renderList_split`). The pieces are also well shaped (`Piece.LevelShaped`):
the first piece of every level is joined by `AND`, and no group is empty.

The walk of a level is followed with an invariant on its state (`Level.Consistent`): a
connective is pending, or a group has just closed, exactly when a piece has been found, and
never both. Under it the text that a state stands for (`Level.render`: its pieces, the keyword
of the pending connective and the gathered text), followed by what is left of the level, has
the skeleton of the level's text at every step.

## Key results
- `Text.skeleton_trim`, `Text.skeleton_of_isWord`: what trimming and keywords keep
- `Level.finishClause_render`, `Level.finish_render`: ending a clause or a level
- `walkLevel_render`: the walk of a level from a consistent state
- `skeleton_renderList_split`: the pieces of a split, written back, are the text split
-/

namespace FilterQuery.Text

/-- A text with its white space deleted and its ASCII letters lowered. -/
def skeleton (s : List Char) : List Char := (s.filter fun c => !isWhiteSpace c).map asciiLower

example : skeleton " nOT\t(a OR b)".toList = "not(aorb)".toList := by decide

@[simp] theorem skeleton_nil : skeleton [] = [] := rfl

@[simp] theorem skeleton_append (s t : List Char) :
    skeleton (s ++ t) = skeleton s ++ skeleton t := by
  simp [skeleton, List.filter_append]

theorem skeleton_cons_of_not_ws {c : Char} (hc : isWhiteSpace c = false) (s : List Char) :
    skeleton (c :: s) = asciiLower c :: skeleton s := by
  simp [skeleton, hc]

theorem skeleton_cons_of_ws {c : Char} (hc : isWhiteSpace c = true) (s : List Char) :
    skeleton (c :: s) = skeleton s := by
  simp [skeleton, hc]

theorem skeleton_reverse (s : List Char) : skeleton s.reverse = (skeleton s).reverse := by
  simp [skeleton, List.filter_reverse]

theorem skeleton_dropWhile (s : List Char) : skeleton (s.dropWhile isWhiteSpace) = skeleton s := by
  induction s with
  | nil => rfl
  | cons c s ih =>
    cases hc : isWhiteSpace c
    · simp [hc]
    · rw [List.dropWhile_cons, if_pos hc, ih, skeleton_cons_of_ws hc]

/-- Trimming removes white space only. -/
theorem skeleton_trim (s : List Char) : skeleton (trim s) = skeleton s := by
  rw [trim, skeleton_reverse, skeleton_dropWhile, skeleton_reverse, skeleton_dropWhile,
    List.reverse_reverse]

theorem skeleton_eq_nil_of_isBlank {s : List Char} (h : isBlank s = true) : skeleton s = [] := by
  simpa [skeleton, List.filter_eq_nil_iff, isBlank] using h

/-- A keyword with no white space in it, written in any ASCII case, has the skeleton of the
    keyword. -/
theorem skeleton_of_isWord {s : List Char} {word : String}
    (hword : ∀ c ∈ word.toList, isWhiteSpace c = false) (h : isWord s word = true) :
    skeleton s = word.toList.map asciiLower := by
  have hs := not_ws_of_isWord hword h
  rw [skeleton, List.filter_eq_self.2 (by simpa using hs)]
  simpa [isWord, eqIgnoreCase] using h

end FilterQuery.Text

namespace FilterQuery.Query

open Text (skeleton isWhiteSpace)

/-! ## Pieces written back as text -/

mutual

/-- The text of a piece: a clause's text, or a group's pieces in parentheses, after `NOT` when
    the group is negated. -/
def Piece.render : Piece → List Char
  | .clause _ text => text
  | .group _ negated pieces =>
    (if negated then "NOT".toList else []) ++ '(' :: Piece.renderList pieces ++ [')']

/-- The text of the pieces of a level: the first piece, then the others after the keywords of
    their connectives. -/
def Piece.renderList : List Piece → List Char
  | [] => []
  | p :: ps => p.render ++ Piece.renderTail ps

/-- The pieces of a level after the first, each after the keyword of its connective. -/
def Piece.renderTail : List Piece → List Char
  | [] => []
  | p :: ps => p.conn.keyword.toList ++ p.render ++ Piece.renderTail ps

end

namespace Piece

@[simp] theorem renderList_nil : renderList [] = [] := by simp [renderList]

@[simp] theorem renderTail_nil : renderTail [] = [] := by simp [renderTail]

theorem renderList_cons (p : Piece) (ps : List Piece) :
    renderList (p :: ps) = p.render ++ renderTail ps := by simp [renderList]

theorem renderTail_cons (p : Piece) (ps : List Piece) :
    renderTail (p :: ps) = p.conn.keyword.toList ++ p.render ++ renderTail ps := by
  simp [renderTail]

theorem render_group (conn : Connective) (negated : Bool) (pieces : List Piece) :
    (Piece.group conn negated pieces).render =
      (if negated then "NOT".toList else []) ++ '(' :: renderList pieces ++ [')'] := by
  simp [render]

theorem renderTail_append (ps qs : List Piece) :
    renderTail (ps ++ qs) = renderTail ps ++ renderTail qs := by
  induction ps with
  | nil => simp
  | cons p ps ih => simp [renderTail_cons, ih]

/-- A piece added at the end of a level is written after the keyword of its connective,
    unless it is the first. -/
theorem renderList_append_singleton (ps : List Piece) (p : Piece) :
    renderList (ps ++ [p]) =
      renderList ps ++ (if ps.isEmpty then [] else p.conn.keyword.toList) ++ p.render := by
  cases ps with
  | nil => simp [renderList_cons]
  | cons q qs => simp [renderList_cons, renderTail_append, renderTail_cons]

end Piece

/-! ## Well-shaped pieces -/

/-- The first piece of a level, if any, is joined by `AND`. -/
def FirstAnd (pieces : List Piece) : Prop := ∀ p ∈ pieces.head?, p.conn = .and

/-- A piece is well shaped when every group in it holds pieces, the first of them joined by
    `AND`. -/
inductive Piece.Shaped : Piece → Prop
  | clause (conn : Connective) (text : List Char) : Piece.Shaped (.clause conn text)
  | group (conn : Connective) (negated : Bool) {pieces : List Piece} (nonempty : pieces ≠ [])
      (first : FirstAnd pieces) (all : ∀ p ∈ pieces, Piece.Shaped p) :
      Piece.Shaped (.group conn negated pieces)

/-- The pieces of a level are well shaped: the first is joined by `AND`, and every piece is
    well shaped. -/
def Piece.LevelShaped (pieces : List Piece) : Prop := FirstAnd pieces ∧ ∀ p ∈ pieces, p.Shaped

theorem Piece.LevelShaped.nil : Piece.LevelShaped [] := ⟨by simp [FirstAnd], by simp⟩

/-- A well-shaped piece added at the end of a level keeps it well shaped, when it is joined
    by `AND` if it comes first. -/
theorem Piece.LevelShaped.append_singleton {ps : List Piece} {p : Piece}
    (hps : Piece.LevelShaped ps) (hp : p.Shaped) (hfirst : ps = [] → p.conn = .and) :
    Piece.LevelShaped (ps ++ [p]) := by
  refine ⟨?_, ?_⟩
  · cases ps with
    | nil => simpa [FirstAnd] using hfirst rfl
    | cons q qs => simpa [FirstAnd] using hps.1
  · intro q hq
    rcases List.mem_append.1 hq with hq | hq
    · exact hps.2 q hq
    · rw [List.mem_singleton.1 hq]
      exact hp

/-! ## The state of a level as text -/

namespace Level

/-- The keyword of the pending connective, if there is one. -/
def pendingText (l : Level) : List Char := (l.pending.map fun c => c.keyword.toList).getD []

/-- The text a state of a level stands for: its pieces, the keyword of the pending connective
    and the text gathered since. -/
def render (l : Level) : List Char :=
  Piece.renderList l.piecesRev.reverse ++ l.pendingText ++ l.currentRev.reverse

/-- The invariant of a level's walk. -/
structure Consistent (l : Level) : Prop where
  /-- A connective is pending, or a group has just closed, exactly when a piece was found. -/
  joined : (l.pending.isSome || l.afterGroup) = !l.piecesRev.isEmpty
  /-- No connective has been read since the group that just closed. -/
  pending_of_afterGroup : l.afterGroup = true → l.pending = none
  /-- The pieces found are well shaped. -/
  shaped : Piece.LevelShaped l.piecesRev.reverse

theorem Consistent.empty : ({} : Level).Consistent :=
  ⟨rfl, (fun h => by cases h), by simpa using Piece.LevelShaped.nil⟩

/-- Gathering text, or opening or closing a `BETWEEN`, keeps a state consistent. -/
theorem Consistent.gather {l : Level} (hl : l.Consistent) (u : List Char) (b : Bool) :
    ({ l with currentRev := u, betweenOpen := b } : Level).Consistent :=
  ⟨hl.joined, hl.pending_of_afterGroup, hl.shaped⟩

/-- A piece found with no group just closed is written after the pending keyword, and keeps
    the pieces well shaped. -/
theorem Consistent.push {l : Level} (hl : l.Consistent) (hg : l.afterGroup = false) {p : Piece}
    (hp : p.Shaped) (hconn : p.conn = l.connective) :
    Piece.renderList (p :: l.piecesRev).reverse =
        Piece.renderList l.piecesRev.reverse ++ l.pendingText ++ p.render ∧
      Piece.LevelShaped (p :: l.piecesRev).reverse := by
  have hjoined := hl.joined
  rw [hg, Bool.or_false] at hjoined
  rw [List.reverse_cons, Piece.renderList_append_singleton]
  refine ⟨?_, hl.shaped.append_singleton hp fun h => ?_⟩
  · cases hps : l.piecesRev with
    | nil =>
      rw [hps] at hjoined
      simp [pendingText, Option.not_isSome_iff_eq_none.1 (by simpa using hjoined)]
    | cons q qs =>
      rw [hps] at hjoined
      obtain ⟨c, hc⟩ := Option.isSome_iff_exists.1 (by simpa using hjoined)
      simp [pendingText, hc, hconn, connective]
  · -- the first piece of a level comes with no connective read
    rw [List.reverse_eq_nil_iff] at h
    rw [h] at hjoined
    simp [hconn, connective, Option.not_isSome_iff_eq_none.1 (by simpa using hjoined)]

/-- How a clause ends: after a group only white space may have been gathered, and nothing is
    added; otherwise the gathered text, trimmed, is a new clause. -/
theorem finishClause_cases {l l' : Level} (h : l.finishClause = .ok l') :
    (l.afterGroup = true ∧ l.currentText = [] ∧
        l' = { l with currentRev := [], afterGroup := false, betweenOpen := false }) ∨
      (l.afterGroup = false ∧
        l' = { l with piecesRev := Piece.clause l.connective l.currentText :: l.piecesRev,
                      pending := none, currentRev := [], afterGroup := false,
                      betweenOpen := false }) := by
  unfold finishClause at h
  dsimp only at h
  split_ifs at h with hg hempty
  · cases h
    exact .inl ⟨hg, List.isEmpty_iff.1 hempty, rfl⟩
  · cases h
    exact .inr ⟨by simpa using hg, rfl⟩

/-- Ending a clause writes the text the state stood for into its pieces, and leaves a state
    with a piece, no connective pending and nothing gathered. -/
theorem finishClause_render {l l' : Level} (hl : l.Consistent) (h : l.finishClause = .ok l') :
    skeleton (Piece.renderList l'.piecesRev.reverse) = skeleton l.render ∧
      Piece.LevelShaped l'.piecesRev.reverse ∧ l'.piecesRev ≠ [] ∧ l'.pending = none ∧
      l'.afterGroup = false ∧ l'.currentRev = [] := by
  rcases finishClause_cases h with ⟨hg, hempty, rfl⟩ | ⟨hg, rfl⟩
  · -- after a group: only white space was gathered, and no connective is pending
    have hblank : skeleton l.currentRev.reverse = [] := by
      rw [← Text.skeleton_trim]
      exact congrArg skeleton hempty
    have hjoined := hl.joined
    rw [hg, Bool.or_true] at hjoined
    refine ⟨?_, hl.shaped, by simpa using hjoined, hl.pending_of_afterGroup hg, rfl, rfl⟩
    simp [render, pendingText, hl.pending_of_afterGroup hg, hblank]
  · obtain ⟨hrender, hshaped⟩ := hl.push hg (Piece.Shaped.clause l.connective l.currentText) rfl
    refine ⟨?_, hshaped, by simp, rfl, rfl, rfl⟩
    dsimp only
    rw [hrender]
    simp [render, Piece.render, currentText, Text.skeleton_trim]

/-- A connective read after a clause that ended: the state is consistent again, and stands for
    its pieces followed by the connective's keyword. -/
theorem finishClause_connect {l l' : Level} (hl : l.Consistent) (h : l.finishClause = .ok l')
    (c : Connective) :
    ({ l' with pending := some c } : Level).Consistent ∧
      skeleton ({ l' with pending := some c } : Level).render =
        skeleton l.render ++ skeleton c.keyword.toList := by
  obtain ⟨hrender, hshaped, hne, -, hg, hcur⟩ := finishClause_render hl h
  refine ⟨⟨?_, fun h => by simp [hg] at h, hshaped⟩, ?_⟩
  · simpa [hg] using hne
  · have hnew : ({ l' with pending := some c } : Level).render =
        Piece.renderList l'.piecesRev.reverse ++ c.keyword.toList := by
      simp [render, pendingText, hcur]
    rw [hnew, Text.skeleton_append, hrender]

/-- The pieces of a level read to its end are the text its last state stands for. -/
theorem finish_render {l : Level} {pieces : List Piece} (hl : l.Consistent)
    (h : l.finish = .ok pieces) :
    skeleton (Piece.renderList pieces) = skeleton l.render ∧ Piece.LevelShaped pieces := by
  unfold finish at h
  split at h
  · -- a group closed the level, and only white space follows it
    rename_i hcond
    simp only [Bool.and_eq_true] at hcond
    cases h
    refine ⟨?_, hl.shaped⟩
    simp [render, pendingText, hl.pending_of_afterGroup hcond.1,
      Text.skeleton_eq_nil_of_isBlank (s := l.currentRev.reverse)
        (by simpa [Text.isBlank] using hcond.2)]
  · cases hf : l.finishClause with
    | error e => rw [hf] at h; cases h
    | ok l' =>
      rw [hf] at h
      cases h
      obtain ⟨hrender, hshaped, -⟩ := finishClause_render hl hf
      exact ⟨hrender, hshaped⟩

end Level

/-! ## The walk of a level -/

/-- The walks of the text `cs` at depth `depth` from a consistent state give pieces that,
    written back, are the text the state stands for followed by `cs`, and that are well
    shaped. -/
def WalkRenders (maxDepth depth : Nat) (cs : List Char) : Prop :=
  ∀ (whole : List Char) (l : Level) (prev : Option Char) (pieces : List Piece), l.Consistent →
    walkLevel maxDepth depth whole l prev cs = .ok pieces →
    skeleton (Piece.renderList pieces) = skeleton (l.render ++ cs) ∧ Piece.LevelShaped pieces

section Walk

variable {maxDepth depth : Nat}

/-- A level whose walks are written back splits into pieces that are written back. -/
theorem splitLevel_render_of_walk {text : List Char} (h : WalkRenders maxDepth depth text)
    {pieces : List Piece} (hs : splitLevel maxDepth depth text = .ok pieces) :
    skeleton (Piece.renderList pieces) = skeleton text ∧ Piece.LevelShaped pieces := by
  rw [splitLevel] at hs
  split at hs
  · rename_i hblank
    cases hs
    exact ⟨(Text.skeleton_eq_nil_of_isBlank hblank).symm, Piece.LevelShaped.nil⟩
  · simpa [Level.render, Level.pendingText] using h text {} none pieces Level.Consistent.empty hs

/-- Text gathered into the clause is written back where it stood. -/
theorem Level.render_gather (l : Level) (u : List Char) (b : Bool) :
    ({ l with currentRev := u.reverse ++ l.currentRev, betweenOpen := b } : Level).render =
      l.render ++ u := by
  simp [Level.render, Level.pendingText]

theorem walkRenders_nil : WalkRenders maxDepth depth [] := by
  intro whole l prev pieces hl h
  rw [walkLevel.eq_1] at h
  simpa using Level.finish_render hl h

theorem walkRenders_close (rest : List Char) : WalkRenders maxDepth depth (')' :: rest) := by
  intro whole l prev pieces _ h
  rw [walkLevel.eq_3] at h
  cases h

/-- The connective found by `keywordAt` is written as its keyword. -/
theorem skeleton_keywordAt {prev : Option Char} {cs word after : List Char} {c : Connective}
    (h : keywordAt prev cs = some (.connective c, word, after)) :
    skeleton word = skeleton c.keyword.toList := by
  unfold keywordAt at h
  dsimp only at h
  split_ifs at h with h₁ h₂ h₃ h₄ <;> cases h
  · rw [Text.skeleton_of_isWord (by simp [isWhiteSpace]) h₂]
    decide
  · rw [Text.skeleton_of_isWord (by simp [isWhiteSpace]) h₃]
    decide

/-- A character that is no parenthesis is gathered, or starts a keyword: `BETWEEN` and the
    `AND` it claims are gathered, and a connective ends the clause and is pending. -/
theorem walkRenders_cons {c : Char} {rest : List Char} (hl : c ≠ '(') (hr : c ≠ ')')
    (ih : ∀ after, after.length < (c :: rest).length → WalkRenders maxDepth depth after) :
    WalkRenders maxDepth depth (c :: rest) := by
  intro whole l prev pieces hcons hw
  cases hk : keywordAt prev (c :: rest) with
  | none =>
    rw [walkLevel_cons_of_keywordAt_none hl hr hk] at hw
    have hnext := ih rest (by simp) whole _ _ pieces (hcons.gather _ _) hw
    simpa [Level.render, Level.pendingText] using hnext
  | some r =>
    obtain ⟨k, word, after⟩ := r
    have heq := keywordAt_eq hk
    have hlen := length_keywordAt hk
    have hgather : ∀ b, walkLevel maxDepth depth whole
        { l with betweenOpen := b, currentRev := word.reverse ++ l.currentRev } word.getLast? after =
          .ok pieces →
        skeleton (Piece.renderList pieces) = skeleton (l.render ++ c :: rest) ∧
          Piece.LevelShaped pieces := by
      intro b hw'
      have hnext := ih after hlen whole _ _ pieces (hcons.gather _ _) hw'
      rwa [Level.render_gather, List.append_assoc, ← heq] at hnext
    have hconnect : ∀ conn : Connective,
        keywordAt prev (c :: rest) = some (.connective conn, word, after) → ∀ l',
        l.finishClause = .ok l' →
        walkLevel maxDepth depth whole { l' with pending := some conn } word.getLast? after =
          .ok pieces →
        skeleton (Piece.renderList pieces) = skeleton (l.render ++ c :: rest) ∧
          Piece.LevelShaped pieces := by
      intro conn hkc l' hf hw'
      obtain ⟨hcons', hrender⟩ := Level.finishClause_connect hcons hf conn
      obtain ⟨hnext, hshaped⟩ := ih after hlen whole _ _ pieces hcons' hw'
      refine ⟨?_, hshaped⟩
      rw [hnext, Text.skeleton_append, hrender, heq, ← skeleton_keywordAt hkc]
      simp
    rw [walkLevel_keyword hl hr hk] at hw
    rcases k with (_ | _) | _
    · dsimp only at hw
      split_ifs at hw
      · exact hgather false hw
      · split at hw
        · cases hw
        · exact hconnect .and hk _ ‹_› hw
    · dsimp only at hw
      split at hw
      · cases hw
      · exact hconnect .or hk _ ‹_› hw
    · exact hgather true hw

/-- The text before a group, empty or `NOT` up to white space, is written as `NOT` when it is
    not empty. -/
theorem Level.skeleton_groupHead {l : Level}
    (h : (l.currentText.isEmpty || Text.isWord l.currentText "not") = true) :
    skeleton (if !l.currentText.isEmpty then "NOT".toList else []) =
      skeleton l.currentRev.reverse := by
  have htrim : skeleton l.currentRev.reverse = skeleton l.currentText := by
    rw [Level.currentText, Text.skeleton_trim]
  rw [htrim]
  cases hempty : l.currentText.isEmpty
  · rw [hempty, Bool.false_or] at h
    rw [Text.skeleton_of_isWord (by simp [isWhiteSpace]) h]
    decide
  · simp [List.isEmpty_iff.1 hempty]

/-- A matched parenthesis opens a group when nothing but `NOT` was gathered before it, and the
    group is written back from its own pieces; otherwise the parenthesized text is gathered. -/
theorem walkRenders_open {rest : List Char}
    (ih : ∀ cs, cs.length < ('(' :: rest).length → ∀ d, WalkRenders maxDepth d cs) :
    WalkRenders maxDepth depth ('(' :: rest) := by
  intro whole l prev pieces hcons hw
  cases hc : closeParen 0 [] rest with
  | none =>
    obtain ⟨e, he⟩ := @walkLevel_open_none maxDepth depth whole l prev _ hc
    rw [he] at hw
    cases hw
  | some r =>
    obtain ⟨inner, after⟩ := r
    have hrest := closeParen_eq hc
    simp only [List.reverse_nil, List.nil_append] at hrest
    subst hrest
    have hinner : inner.length < ('(' :: (inner ++ ')' :: after)).length := by
      simp only [List.length_cons, List.length_append]
      omega
    have hafter : after.length < ('(' :: (inner ++ ')' :: after)).length := by
      simp only [List.length_cons, List.length_append]
      omega
    rw [walkLevel_open_some hc] at hw
    split_ifs at hw with hhead hg hdepth
    · split at hw
      · cases hw
      · cases hw
      -- a group: its own pieces are written back from its text
      rename_i group hne hs
      obtain ⟨hsplit, hfirst, hall⟩ := splitLevel_render_of_walk (ih inner hinner (depth + 1)) hs
      have hgroup : (Piece.group l.connective (!l.currentText.isEmpty) group).Shaped :=
        .group _ _ hne hfirst hall
      obtain ⟨hrender, hshaped⟩ := hcons.push (by simpa using hg) hgroup rfl
      obtain ⟨hnext, hnshaped⟩ := ih after hafter depth whole _ _ pieces
        ⟨by simp, fun _ => rfl, hshaped⟩ hw
      refine ⟨?_, hnshaped⟩
      have hopen : isWhiteSpace '(' = false := by decide
      have hclose : isWhiteSpace ')' = false := by decide
      rw [hnext]
      simp only [Level.render, Level.pendingText, hrender, Piece.render_group, Text.skeleton_append,
        Text.skeleton_cons_of_not_ws hopen, Text.skeleton_cons_of_not_ws hclose, hsplit,
        List.reverse_nil, List.append_nil, List.nil_append, Option.map_none,
        Option.getD_none, List.cons_append, List.append_assoc]
      rw [Level.skeleton_groupHead hhead]
    · -- the parenthesized text is part of the clause
      have hnext := ih after hafter depth whole _ _ pieces (hcons.gather _ _) hw
      simpa [Level.render, Level.pendingText] using hnext

end Walk

/-- The walk of every level text from a consistent state. -/
theorem walkLevel_render (maxDepth : Nat) : ∀ (depth : Nat) (cs : List Char),
    WalkRenders maxDepth depth cs
  | depth, [] => walkRenders_nil
  | depth, c :: rest => by
    by_cases hl : c = '('
    · subst hl
      exact walkRenders_open fun cs _ d => walkLevel_render maxDepth d cs
    · by_cases hr : c = ')'
      · subst hr
        exact walkRenders_close rest
      · exact walkRenders_cons hl hr fun after _ => walkLevel_render maxDepth depth after
termination_by _ cs => cs.length
decreasing_by all_goals simp only [List.length_cons] at *; omega

/-- The splitter neither loses nor invents text: the pieces of a split, written back, are the
    text split once white space is deleted and ASCII letters are lowered; the first piece of
    every level is joined by `AND`, and no group is empty. -/
theorem skeleton_renderList_split {text : List Char} {maxDepth : Nat} {pieces : List Piece}
    (h : split text maxDepth = .ok pieces) :
    skeleton (Piece.renderList pieces) = skeleton text ∧ Piece.LevelShaped pieces :=
  splitLevel_render_of_walk (walkLevel_render maxDepth 0 text) h

/-- `a OR NOT (b)` splits into a clause and a negated group joined by `OR`, which written back
    is the text less its spaces. -/
theorem skeleton_renderList_split_negated_group :
    split "a OR NOT (b)".toList 64 =
        .ok [.clause .and ['a'], .group .or true [.clause .and ['b']]] ∧
      skeleton (Piece.renderList [.clause .and ['a'], .group .or true [.clause .and ['b']]]) =
        skeleton "a OR NOT (b)".toList ∧
      Piece.LevelShaped [.clause .and ['a'], .group .or true [.clause .and ['b']]] := by
  have htext : "a OR NOT (b)".toList = ['a', ' ', 'O', 'R', ' ', 'N', 'O', 'T', ' ', '(', 'b', ')'] := by
    decide
  have hor : keywordAt (some ' ') ['O', 'R', ' ', 'N', 'O', 'T', ' ', '(', 'b', ')'] =
      some (.connective .or, ['O', 'R'], [' ', 'N', 'O', 'T', ' ', '(', 'b', ')']) := by decide
  have hfinish : Level.finishClause { currentRev := [' ', 'a'] } =
      .ok { piecesRev := [.clause .and ['a']] } := rfl
  have hclose : closeParen 0 [] ['b', ')'] = some (['b'], []) := rfl
  have hinner : splitLevel 64 1 ['b'] = .ok [.clause .and ['b']] := by
    rw [splitLevel, if_neg (by decide)]
    simp (disch := decide) only [walkLevel_cons_of_keywordAt_none]
    rw [walkLevel.eq_1]
    rfl
  -- the walk: `a` and a space are gathered, `OR` ends the clause, `NOT ` is gathered, and the
  -- parenthesis opens a group
  have hsplit : split "a OR NOT (b)".toList 64 =
      .ok [.clause .and ['a'], .group .or true [.clause .and ['b']]] := by
    rw [split, splitLevel, if_neg (by decide), htext]
    simp (disch := decide) only [walkLevel_cons_of_keywordAt_none]
    rw [walkLevel_keyword (by decide) (by decide) hor]
    dsimp only
    rw [hfinish]
    dsimp only
    simp (disch := decide) only [walkLevel_cons_of_keywordAt_none]
    rw [walkLevel_open_some hclose, if_pos (by decide), if_neg (by decide), if_neg (by decide),
      hinner]
    dsimp only
    rw [walkLevel.eq_1]
    rfl
  exact ⟨hsplit, skeleton_renderList_split hsplit⟩

end FilterQuery.Query

import FilterQuery.Query.Basic
import FilterQuery.Query.Error

/-! # Splitting a guarded text into clauses and groups

A guarded filter text is cut, level by level, into *pieces*: clause texts and parenthesized
groups, each with the connective (`AND` or `OR`) that joins it to the piece before it.
There is no precedence here; the pieces of a level are folded later, left to right.

Reading a level, character by character:
* `(` finds its matching `)`. When the text gathered since the last connective is empty or
  `NOT`, the span is a group: it is split as its own level one deeper (too deep, or empty,
  is refused) and must be followed by a connective or the end. Otherwise the span is part of
  the clause text.
* An unmatched `)` is refused.
* A keyword is a run of ASCII letters with white space, `)` or the start before it and white
  space, `(` or the end after it: `AND`, `OR` or `BETWEEN` in any case. A connective ends the
  clause gathered so far, except the first `AND` after a `BETWEEN`, which stays in the clause.
* Anything else is clause text. Clause texts are trimmed; an empty one is kept (it is dropped
  when the pieces are folded).

Errors carry the piece of the level's text they are about. -/

namespace FilterQuery

namespace Query

/-- A piece of a split filter text. -/
inductive Piece where
  /-- The text of one clause, joined by the connective to the piece before it. -/
  | clause (conn : Connective) (text : List Char)
  /-- A parenthesized group, possibly negated by `NOT`, and its own pieces. -/
  | group (conn : Connective) (negated : Bool) (pieces : List Piece)
  deriving Inhabited, Repr

/-- The connective that joins a piece to the one before it. -/
def Piece.conn : Piece → Connective
  | .clause c _ => c
  | .group c _ _ => c

/-- After an opening parenthesis: the text up to the matching `)` and the text after it.
    `depth` counts the parentheses opened inside; `acc` is the inner text read, reversed. -/
def closeParen : Nat → List Char → List Char → Option (List Char × List Char)
  | _, _, [] => none
  | depth, acc, c :: rest =>
    if c = '(' then closeParen (depth + 1) (c :: acc) rest
    else if c = ')' then
      match depth with
      | 0 => some (acc.reverse, rest)
      | d + 1 => closeParen d (c :: acc) rest
    else closeParen depth (c :: acc) rest

/-- What `closeParen` returns holds the characters it read, less the closing parenthesis. -/
theorem length_closeParen {depth : Nat} {acc cs inner after : List Char}
    (h : closeParen depth acc cs = some (inner, after)) :
    inner.length + after.length + 1 = acc.length + cs.length := by
  induction cs generalizing depth acc with
  | nil => simp [closeParen] at h
  | cons c rest ih =>
    simp only [closeParen] at h
    split at h
    · have := ih h; simp at this ⊢; omega
    · split at h
      · split at h
        · cases h; simp only [List.length_reverse, List.length_cons]; omega
        · have := ih h; simp at this ⊢; omega
      · have := ih h; simp at this ⊢; omega

/-- The keywords the splitter recognizes. -/
inductive Keyword where
  | connective (c : Connective)
  | between
  deriving DecidableEq, Inhabited, Repr

/-- Whether a character may stand before a keyword. -/
def boundaryBefore : Option Char → Bool
  | none => true
  | some c => Text.isWhiteSpace c || c = ')'

/-- Whether a character may stand after a keyword. -/
def boundaryAfter : List Char → Bool
  | [] => true
  | c :: _ => Text.isWhiteSpace c || c = '('

/-- The keyword at the front of `cs`, given the character before it: the keyword, its
    letters, and the text after it. -/
def keywordAt (prev : Option Char) (cs : List Char) : Option (Keyword × List Char × List Char) :=
  let word := cs.takeWhile fun c => c.isAlpha
  let after := cs.dropWhile fun c => c.isAlpha
  if !boundaryBefore prev || word.isEmpty || !boundaryAfter after then none
  else if Text.isWord word "and" then some (.connective .and, word, after)
  else if Text.isWord word "or" then some (.connective .or, word, after)
  else if Text.isWord word "between" then some (.between, word, after)
  else none

/-- The text after a keyword is shorter than the text it was found in. -/
theorem length_keywordAt {prev : Option Char} {cs word after : List Char} {k : Keyword}
    (h : keywordAt prev cs = some (k, word, after)) : after.length < cs.length := by
  unfold keywordAt at h
  dsimp only at h
  have hsplit := List.takeWhile_append_dropWhile (p := fun c : Char => c.isAlpha) (l := cs)
  split at h
  · contradiction
  · rename_i hcond
    have hne : (cs.takeWhile fun c => c.isAlpha) ≠ [] := by
      intro he; simp [he] at hcond
    have hlen : 0 < (cs.takeWhile fun c => c.isAlpha).length := by
      cases hw : (cs.takeWhile fun c => c.isAlpha) with
      | nil => exact absurd hw hne
      | cons _ _ => simp
    have : (cs.takeWhile fun c => c.isAlpha).length +
        (cs.dropWhile fun c => c.isAlpha).length = cs.length := by
      rw [← List.length_append, hsplit]
    split at h
    · cases h; omega
    · split at h
      · cases h; omega
      · split at h
        · cases h; omega
        · contradiction

/-- The state of one level while it is read. -/
structure Level where
  /-- Pieces found so far, the last first. -/
  piecesRev : List Piece := []
  /-- The connective read since the last piece. -/
  pending : Option Connective := none
  /-- Clause text gathered since the last piece, reversed. -/
  currentRev : List Char := []
  /-- Whether the last piece is a group. -/
  afterGroup : Bool := false
  /-- Whether a `BETWEEN` waits for its `AND`. -/
  betweenOpen : Bool := false

namespace Level

/-- The connective for the next piece: the one read, or `AND`. -/
def connective (l : Level) : Connective := l.pending.getD .and

/-- The gathered clause text, trimmed. -/
def currentText (l : Level) : List Char := Text.trim l.currentRev.reverse

/-- Ends the clause gathered so far. After a group only white space may have been
    gathered, and nothing is added. -/
def finishClause (l : Level) : Except QueryError Level :=
  let text := l.currentText
  if l.afterGroup then
    if text.isEmpty then .ok { l with currentRev := [], afterGroup := false, betweenOpen := false }
    else .error (.at_ .textAfterGroup (String.ofList text))
  else
    .ok { l with piecesRev := Piece.clause l.connective text :: l.piecesRev, pending := none,
                 currentRev := [], afterGroup := false, betweenOpen := false }

/-- The pieces of a level whose text has been read to the end. -/
def finish (l : Level) : Except QueryError (List Piece) :=
  if l.afterGroup && Text.isBlank l.currentRev then .ok l.piecesRev.reverse
  else do
    let l ← l.finishClause
    return l.piecesRev.reverse

end Level

mutual

/-- Splits the text of one level at nesting depth `depth`. A blank text has no pieces. -/
def splitLevel (maxDepth depth : Nat) (text : List Char) : Except QueryError (List Piece) :=
  if Text.isBlank text then .ok []
  else walkLevel maxDepth depth text {} none text
termination_by (text.length, 1)

/-- Reads the rest `cs` of a level's text `whole`; `prev` is the character before `cs`. -/
def walkLevel (maxDepth depth : Nat) (whole : List Char) (l : Level) (prev : Option Char)
    (cs : List Char) : Except QueryError (List Piece) :=
  match cs with
  | [] => l.finish
  | '(' :: rest =>
    match h : closeParen 0 [] rest with
    | none => .error (.at_ .unclosedParen (String.ofList ('(' :: rest)))
    | some (inner, after) =>
      have := length_closeParen h
      let span := '(' :: inner ++ [')']
      let head := l.currentText
      if head.isEmpty || Text.isWord head "not" then
        if l.afterGroup then .error (.at_ .groupsWithoutConnective (String.ofList span))
        else if maxDepth < depth + 1 then .error (.at_ .tooDeep (String.ofList span))
        else
          match splitLevel maxDepth (depth + 1) inner with
          | .error e => .error e
          | .ok [] => .error (.at_ .emptyGroup (String.ofList span))
          | .ok pieces =>
            walkLevel maxDepth depth whole
              { l with piecesRev := Piece.group l.connective (!head.isEmpty) pieces :: l.piecesRev,
                       pending := none, currentRev := [], afterGroup := true }
              (some ')') after
      else
        walkLevel maxDepth depth whole { l with currentRev := span.reverse ++ l.currentRev }
          (some ')') after
  | ')' :: rest =>
    .error (.at_ .unexpectedParen (String.ofList (whole.take (whole.length - rest.length))))
  | c :: rest =>
    match h : keywordAt prev (c :: rest) with
    | some (.connective .and, word, after) =>
      have := length_keywordAt h
      if l.betweenOpen then
        walkLevel maxDepth depth whole
          { l with betweenOpen := false, currentRev := word.reverse ++ l.currentRev }
          word.getLast? after
      else
        match l.finishClause with
        | .error e => .error e
        | .ok l' => walkLevel maxDepth depth whole { l' with pending := some .and } word.getLast? after
    | some (.connective .or, word, after) =>
      have := length_keywordAt h
      match l.finishClause with
      | .error e => .error e
      | .ok l' => walkLevel maxDepth depth whole { l' with pending := some .or } word.getLast? after
    | some (.between, word, after) =>
      have := length_keywordAt h
      walkLevel maxDepth depth whole
        { l with betweenOpen := true, currentRev := word.reverse ++ l.currentRev }
        word.getLast? after
    | none => walkLevel maxDepth depth whole { l with currentRev := c :: l.currentRev } (some c) rest
termination_by (cs.length, 0)
decreasing_by
  all_goals
    apply Prod.Lex.left
    simp only [List.length_cons, List.length_nil] at *
    omega

end

/-- Splits a guarded filter text as described in the module header. -/
def split (text : List Char) (maxDepth : Nat) : Except QueryError (List Piece) :=
  splitLevel maxDepth 0 text

end Query

end FilterQuery

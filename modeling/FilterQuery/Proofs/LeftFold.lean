import FilterQuery.Proofs.Valuation
import FilterQuery.Proofs.QuoteOpacity

/-!
# Siblings are folded left to right

The pieces of one level of a filter are joined without precedence: `a OR b AND c` is
`(a OR b) AND c`. Whatever the leaves are worth, the tree `build` makes of a level has the
value of the *strict left fold* of its siblings (`eval_build_eq_leftFold`). Clauses with no
text are dropped; each other clause is worth the tree it reads to, each group the tree its own
pieces build to, negated under `NOT`; and the values are joined from the left, each by the
connective written before it, the first one's connective unused. A level with no sibling left
is `true`.

The fold of the reader goes through `Predicate.combine`, which flattens, drops identities and
stops at absorbing constants; `eval_combine` says none of that changes a value, so the only
thing the proof follows is the order in which the siblings are joined.

## Key results
- `siblingValue_eq`: a sibling's value is the value of the tree built from it
- `eval_buildPieces_some`: folding onto a tree built so far
- `eval_build_eq_leftFold`: the value of a level is the strict left fold of its siblings
-/

namespace FilterQuery.Query

variable {dates : DateRecognizer}

/-- Whether a piece is a clause with no text, which the fold drops. -/
def Piece.isEmptyClause : Piece → Bool
  | .clause _ [] => true
  | _ => false

/-- The strict left fold of values: the first value, joined to each later value by that
    value's connective. The first connective is not used; no value at all is `true`. -/
def leftFold : List (Connective × Bool) → Bool
  | [] => true
  | (_, v) :: rest => rest.foldl (fun acc cw => cw.1.apply acc cw.2) v

-- `true OR false AND false` is `false`: the `OR` is not done last.
example : leftFold [(.and, true), (.or, false), (.and, false)] = false := by decide

section

variable (dates) (g : Guarded) (like : LikeSyntax) (leaf : Predicate → Bool)

/-- A sibling with its connective and its value: a clause is worth the tree it reads to, a
    group the tree its pieces build to, negated under `NOT`. -/
def siblingValue : Piece → Except QueryError (Connective × Bool)
  | .clause conn text => (readClause dates g like text).map fun p => (conn, p.eval leaf)
  | .group conn negated pieces =>
    (build dates g like pieces).map fun p => (conn, if negated then !p.eval leaf else p.eval leaf)

/-- The values of the siblings that are not empty clauses, left to right. -/
def siblingValues (pieces : List Piece) : Except QueryError (List (Connective × Bool)) :=
  (pieces.filter fun p => !p.isEmptyClause).mapM (siblingValue dates g like leaf)

theorem siblingValues_empty (conn : Connective) (rest : List Piece) :
    siblingValues dates g like leaf
        (.clause conn [] :: rest) = siblingValues dates g like leaf rest := by
  simp [siblingValues, Piece.isEmptyClause]

theorem siblingValues_cons {p : Piece} (hp : p.isEmptyClause = false) (rest : List Piece) :
    siblingValues dates g like leaf (p :: rest) = do
      let v ← siblingValue dates g like leaf p
      let vs ← siblingValues dates g like leaf rest
      return v :: vs := by
  simp [siblingValues, hp, List.mapM_cons]

/-- A sibling's value is the value of the tree built from it. -/
theorem siblingValue_eq (p : Piece) :
    siblingValue dates g like leaf p =
        (buildPiece dates g like p).map fun t => (p.conn, t.eval leaf) := by
  cases p with
  | clause conn text => rfl
  | group conn negated pieces =>
    simp only [siblingValue, build, buildPiece, Piece.conn]
    cases buildPieces dates g like pieces none with
    | error e => rfl
    | ok t =>
      cases negated
      · rfl
      · show Except.ok (conn, !t.eval leaf) = Except.ok (conn, t.negate.eval leaf)
        rw [Predicate.eval_negate]

theorem ne_clause_nil_of_isEmptyClause {p : Piece} (hp : p.isEmptyClause = false)
    (c : Connective) : p ≠ .clause c [] := by
  rintro rfl
  simp [Piece.isEmptyClause] at hp

theorem eq_clause_nil_of_isEmptyClause {p : Piece} (hp : p.isEmptyClause = true) :
    ∃ c, p = .clause c [] := by
  cases p with
  | clause c text =>
    cases text with
    | nil => exact ⟨c, rfl⟩
    | cons _ _ => simp [Piece.isEmptyClause] at hp
  | group => simp [Piece.isEmptyClause] at hp

/-- Folding the siblings onto a tree already built joins each value to the value so far. -/
theorem eval_buildPieces_some (pieces : List Piece) (previous : Predicate) :
    (buildPieces dates g like pieces (some previous)).map (Predicate.eval leaf) =
      (siblingValues dates g like leaf pieces).map
        fun vs => vs.foldl (fun acc cw => cw.1.apply acc cw.2) (previous.eval leaf) := by
  induction pieces generalizing previous with
  | nil => rfl
  | cons p rest ih =>
    cases hp : p.isEmptyClause
    · -- the piece is read and joined to the tree so far by its own connective
      rw [buildPieces_cons (ne_clause_nil_of_isEmptyClause hp) rest,
        siblingValues_cons dates g like leaf hp, siblingValue_eq]
      cases buildPiece dates g like p with
      | error e => rfl
      | ok current =>
        have hjoin : (Predicate.combine p.conn [previous, current]).eval leaf =
            p.conn.apply (previous.eval leaf) (current.eval leaf) := by
          simp [Predicate.eval_combine]
        have hrest := ih (Predicate.combine p.conn [previous, current])
        rw [hjoin] at hrest
        simp only [except_ok_bind, hrest]
        cases siblingValues dates g like leaf rest <;> rfl
    · -- an empty clause is dropped
      obtain ⟨conn, rfl⟩ := eq_clause_nil_of_isEmptyClause hp
      rw [siblingValues_empty]
      exact ih previous

/-- The tree built from the pieces of a level is worth the strict left fold of the values of
    its siblings, whatever the leaves are worth; and it is built exactly when every sibling
    can be read. -/
theorem eval_build_eq_leftFold (pieces : List Piece) :
    (build dates g like pieces).map (Predicate.eval leaf) =
      (siblingValues dates g like leaf pieces).map leftFold := by
  induction pieces with
  | nil => rfl
  | cons p rest ih =>
    cases hp : p.isEmptyClause
    · -- the first sibling starts the fold with its own value
      rw [build, buildPieces_cons (ne_clause_nil_of_isEmptyClause hp) rest,
        siblingValues_cons dates g like leaf hp, siblingValue_eq]
      cases buildPiece dates g like p with
      | error e => rfl
      | ok first =>
        simp only [except_ok_bind]
        rw [eval_buildPieces_some]
        cases siblingValues dates g like leaf rest <;> rfl
    · obtain ⟨conn, rfl⟩ := eq_clause_nil_of_isEmptyClause hp
      rw [siblingValues_empty]
      exact ih

end

end FilterQuery.Query

import FilterQuery.Query.Split
import FilterQuery.Query.Clause

/-! # Folding pieces into a predicate

The pieces of a level are folded strictly left to right: empty clause texts are dropped, each
clause is read (`readClause`), each group is built from its own pieces and negated when it
is a `NOT` group, and every piece after the first is joined to the result so far with its
own connective by `Predicate.combine`. A level with no piece left is `true`.

`Query.parse` is the whole reading of a filter text: guard the quoted spans, split, fold. -/

namespace FilterQuery

namespace Query

mutual

/-- The predicate of a list of pieces, folded left to right onto `acc`. -/
def buildPieces (dates : DateRecognizer) (g : Guarded) (like : LikeSyntax) :
    List Piece → Option Predicate → Except QueryError Predicate
  | [], acc => .ok (acc.getD (.const true))
  | .clause _ [] :: rest, acc => buildPieces dates g like rest acc
  | p :: rest, acc => do
    let current ← buildPiece dates g like p
    let next := match acc with
      | none => current
      | some previous => Predicate.combine p.conn [previous, current]
    buildPieces dates g like rest (some next)

/-- The predicate of one piece. -/
def buildPiece (dates : DateRecognizer) (g : Guarded) (like : LikeSyntax) :
    Piece → Except QueryError Predicate
  | .clause _ text => readClause dates g like text
  | .group _ negated pieces => do
    let inner ← buildPieces dates g like pieces none
    return if negated then inner.negate else inner

end

/-- The predicate of the pieces of a split text. -/
def build (dates : DateRecognizer) (g : Guarded) (like : LikeSyntax) (pieces : List Piece) :
    Except QueryError Predicate :=
  buildPieces dates g like pieces none

/-- Reads a filter text into a predicate. -/
def parse (opts : ParseOptions) (text : String) : Except QueryError Predicate := do
  let g ← guard text.toList opts.quotes opts.placeholderMaxLen
  let pieces ← split g.text opts.maxDepth
  build opts.dates g opts.like pieces

end Query

end FilterQuery

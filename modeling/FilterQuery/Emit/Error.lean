import FilterQuery.Query.Basic

/-! # Errors of the backends

A predicate tree that reads fine can still be refused by a backend: a field the data does
not have, an ordering test against `NULL` (which means nothing to a document store), a
`LIKE` pattern that is not a regular expression, or a row of data that cannot be loaded. -/

namespace FilterQuery

/-- Why a backend refuses a predicate or its data. -/
inductive EmitError where
  /-- A predicate tests a field the data does not have. -/
  | unknownField (field : String)
  /-- An operator the backend cannot express, and why. -/
  | unsupportedOperator (operator : String) (reason : String)
  /-- A `LIKE` pattern that is not a valid regular expression, and the compiler's message. -/
  | invalidPattern (pattern : String) (message : String)
  /-- A row (by its index from zero) that cannot be loaded, and what is wrong with it. -/
  | invalidRow (index : Nat) (detail : String)
  deriving DecidableEq, Inhabited, Repr

namespace EmitError

/-- The reason given for an ordering test against `NULL`. -/
def nullOrderingReason : String :=
  "ordering comparisons against NULL have no meaning; use IS [NOT] NULL"

/-- The error for an ordering test (`>`, `<`, `>=`, `<=` or `BETWEEN`) against `NULL`. -/
def orderingAgainstNull (operator : String) : EmitError :=
  .unsupportedOperator operator nullOrderingReason

/-- The backtick, which sets names off in messages. -/
def tick : String := String.singleton (Char.ofNat 0x60)

/-- The sentence that describes the error. -/
def message : EmitError → String
  | .unknownField f => "unknown field " ++ tick ++ f ++ tick
  | .unsupportedOperator op reason => "unsupported operator " ++ tick ++ op ++ tick ++ ": " ++ reason
  | .invalidPattern p msg => "invalid LIKE pattern " ++ tick ++ p ++ tick ++ ": " ++ msg
  | .invalidRow i detail => "invalid row " ++ toString i ++ ": " ++ detail

end EmitError

end FilterQuery

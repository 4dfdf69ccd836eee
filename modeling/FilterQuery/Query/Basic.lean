import FilterQuery.Date.Layout

/-! # Words of the filter language

The connectives that join clauses, the comparison operators, and the options that a filter
text is read with. -/

namespace FilterQuery

namespace Query

/-- How two sibling clauses are joined. -/
inductive Connective where
  | and
  | or
  deriving DecidableEq, Inhabited, Repr

/-- The keyword of a connective. -/
def Connective.keyword : Connective → String
  | .and => "AND"
  | .or => "OR"

/-- The name of a connective in an outline. -/
def Connective.title : Connective → String
  | .and => "And"
  | .or => "Or"

/-- A comparison operator. -/
inductive CompareOp where
  | eq
  | ne
  | gt
  | lt
  | ge
  | le
  deriving DecidableEq, Inhabited, Repr

/-- The symbol of an operator as written in filter text. -/
def CompareOp.symbol : CompareOp → String
  | .eq => "="
  | .ne => "!="
  | .gt => ">"
  | .lt => "<"
  | .ge => ">="
  | .le => "<="

/-- Whether the operator orders its operands (rather than testing equality). -/
def CompareOp.isOrdering : CompareOp → Bool
  | .eq | .ne => false
  | _ => true

/-- How a `LIKE` pattern is read: as a regular expression, or with the `%` and `_`
    wildcards. -/
inductive LikeSyntax where
  | regex
  | sql
  deriving DecidableEq, Inhabited, Repr

/-- A recognizer of date literals: the date-time an unquoted value denotes, if it is a date. -/
abbrev DateRecognizer := String → Option DateTime

/-- The options a filter text is read with. -/
structure ParseOptions where
  /-- Characters that open and close quoted spans. -/
  quotes : List Char := ['\'', '"', Char.ofNat 0x60]
  /-- The deepest nesting of parenthesized groups allowed. -/
  maxDepth : Nat := 64
  /-- The longest placeholder marker tried. -/
  placeholderMaxLen : Nat := 4
  /-- How `LIKE` patterns are read. -/
  like : LikeSyntax := .regex
  /-- How an unquoted value is recognized as a date: the ISO-like layouts by default. -/
  dates : DateRecognizer := DateTime.readLiteral?
  deriving Inhabited

end Query

end FilterQuery

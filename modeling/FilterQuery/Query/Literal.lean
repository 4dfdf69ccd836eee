import FilterQuery.Query.Basic
import FilterQuery.Query.Guard
import FilterQuery.Binary64.Decimal
import FilterQuery.Binary64.Text
import FilterQuery.Date.Rfc3339

/-! # Literal values

A value in a clause is one of: `NULL`, a boolean, a 64-bit signed integer, a binary64
float, a text, or a date-time. `Literal.read` decides which, in this order:
1. an empty value is refused;
2. a value that is exactly a placeholder is the content of its quoted span;
3. any other value that contains the marker is refused;
4. `null` and `none`, `true` and `false` (any ASCII case);
5. a number: only digits, `.`, `+`, `-`, `e`, `E` and at least one digit; a signed
   integer when it fits in 64 bits, otherwise a finite float;
6. a date, as the date recognizer of the options reads it (`DateTime.readLiteral?` by default);
7. a value with white space in it is refused;
8. anything else is a text.

`Literal.render` writes a literal as filter text: `NULL`, `TRUE`, `FALSE`, the integer, the
float's number text, a text in single quotes with `\` and `'` escaped by a backslash, or a
date-time as `YYYY-MM-DD hh:mm:ss` with its fraction. -/

namespace FilterQuery

namespace Query

/-- A literal value of a clause. -/
inductive Literal where
  | null
  | bool (b : Bool)
  | int (i : Int)
  | float (x : Binary64)
  | text (s : String)
  | date (t : DateTime)
  deriving Inhabited, Repr

/-- The 64-bit signed integer written by an optional sign and digits, if it fits. -/
def readInt64? (cs : List Char) : Option Int :=
  let (neg, digits) := match cs with
    | '-' :: rest => (true, rest)
    | '+' :: rest => (false, rest)
    | _ => (false, cs)
  if digits.isEmpty || !digits.all Char.isDigit then none
  else
    let v : Int := Binary64.digitsValue digits
    let v := if neg then -v else v
    if -(Nat.pow 2 63 : Int) ≤ v ∧ v < (Nat.pow 2 63 : Int) then some v else none

/-- Characters a number may be written with. -/
def isNumberChar (c : Char) : Bool :=
  c.isDigit || c = '.' || c = '-' || c = '+' || c = 'e' || c = 'E'

/-- A number: an integer when it fits in 64 bits, otherwise a finite float. -/
def readNumber? (cs : List Char) : Option Literal :=
  if !cs.all isNumberChar || !cs.any Char.isDigit then none
  else match readInt64? cs with
    | some i => some (.int i)
    | none => match Binary64.readText? (String.ofList cs) with
      | some x => if x.isFinite then some (.float x) else none
      | none => none

/-- Reads a value as described in the module header. -/
def Literal.read (dates : DateRecognizer) (g : Guarded) (cs : List Char) :
    Except QueryError Literal :=
  if cs.isEmpty then .error (.bare .missingValue)
  else match g.lookup? cs with
    | some quoted => .ok (.text (String.ofList (unquote quoted)))
    | none =>
      if g.touches cs then .error (.bare .literalNotAlone)
      else if Text.isWord cs "null" || Text.isWord cs "none" then .ok .null
      else if Text.isWord cs "true" then .ok (.bool true)
      else if Text.isWord cs "false" then .ok (.bool false)
      else match readNumber? cs with
        | some n => .ok n
        | none => match dates (String.ofList cs) with
          | some t => .ok (.date t)
          | none =>
            if cs.any Text.isWhiteSpace then .error (.bare (.unrecognizedValue (String.ofList cs)))
            else .ok (.text (String.ofList cs))

/-- A text with `\` and the quote character escaped by a backslash. -/
def escapeWith (quote : Char) (s : List Char) : List Char :=
  s.flatMap fun c => if c = '\\' || c = quote then ['\\', c] else [c]

/-- The literal as written in filter text. -/
def Literal.render : Literal → String
  | .null => "NULL"
  | .bool true => "TRUE"
  | .bool false => "FALSE"
  | .int i => toString i
  | .float x => x.toText
  | .text s => "'" ++ String.ofList (escapeWith '\'' s.toList) ++ "'"
  | .date t => t.toText

/-- Whether the literal is `NULL`. -/
def Literal.isNull : Literal → Bool
  | .null => true
  | _ => false

end Query

end FilterQuery

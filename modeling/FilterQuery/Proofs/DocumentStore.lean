import FilterQuery.Emit.Document
import FilterQuery.Proofs.NumberOrder
import FilterQuery.Proofs.DateRoundTrip
import FilterQuery.Proofs.Utf8Order

/-!
# How a document store reads a filter document

`Document.satisfies row doc` decides whether a row, a JSON object, satisfies a filter
document the way a document store does:
* a document holds when each of its clauses does: `$and`, `$or` and `$nor` take all, any or
  none of the documents in their array, `$not` the opposite of its document, `$expr` its
  boolean; any other key is a field, whose value in the row (`null` when the row lacks it)
  must pass the clause's test;
* a test that is an object of `$`-operators (and not a `{"$date": …}` object) passes when
  each operator does; any other test is a value the cell must equal;
* values are ordered only within a class: booleans (`false` first), numbers by their exact
  value across integers and floats, texts by their UTF-8 bytes, date-times as instants;
  `null` orders against nothing and equals only `null`;
* `$regex` searches a text cell for the pattern anywhere in it.

`Mirrors j c` relates a JSON value to the cell it stands for when the two readings agree on
it: a number that binary64 holds exactly, a text, a boolean, `null`, or a `{"$date": …}`
object whose text reads as the date-time. Between such values the store's order is the
table's (`order?_eq_compare?`, `equal_eq_equals`): a document and a mask test a row alike.

## Key results
- `Document.order?_eq_compare?`, `Document.equal_eq_equals`: on mirrored values the store
  orders and equates as the table does
- `Document.mirrors_toJson`: the JSON of an exact literal mirrors it
- `Document.Mirrors.ofJson`: a mirrored cell is what the table reads from the JSON
-/

namespace FilterQuery

open Query

namespace Document

/-! ## Values in the store's order -/

/-- Where a value stands in the store's order: its class and its value there. -/
inductive Key where
  | bool (b : Bool)
  | number (q : ℚ)
  | text (bytes : List UInt8)
  | instant (t : DateTime)

/-- The date-time a `{"$date": …}` object names, its text read as RFC 3339. -/
def instant? (fields : List (String × Json)) : Option DateTime :=
  match fields.lookup "$date" with
  | some (.str text) => (DateTime.readRfc3339 text).toOption
  | _ => none

/-- The key of a value; `null`, arrays, other objects and a float that is not finite have
    none. -/
def key? : Json → Option Key
  | .bool b => some (.bool b)
  | .int i => some (.number i)
  | .float x => if x.isFinite then some (.number x.toRat) else none
  | .str s => some (.text (s.toList.flatMap String.utf8EncodeChar))
  | .obj fields => (instant? fields).map .instant
  | _ => none

/-- The order of two values of one class; `none` across classes. -/
def order? (a b : Json) : Option Ordering :=
  match key? a, key? b with
  | some (.bool x), some (.bool y) => some (compare x y)
  | some (.number x), some (.number y) => some (compare x y)
  | some (.text x), some (.text y) => some (compareOfLessAndEq x y)
  | some (.instant x), some (.instant y) => some (x.compare y)
  | _, _ => none

/-- Whether a value is `null`. -/
def isNull : Json → Bool
  | .null => true
  | _ => false

/-- Equality in the store: `null` equals `null`, and values of one class equal when they
    order equal. -/
def equal (a b : Json) : Bool := (isNull a && isNull b) || order? a b == some .eq

/-! ## Tests of a field -/

/-- Whether a field's test is a document of operators rather than a value: a non-empty
    object whose keys all start with `$` and that names no date. -/
def isOperators (fields : List (String × Json)) : Bool :=
  !fields.isEmpty && fields.all (fun kv => kv.1.startsWith "$") && (fields.lookup "$date").isNone

/-- `$regex`: the pattern compiles and is found somewhere in a text cell. -/
def regexHolds (cell pattern : Json) : Bool :=
  match cell, pattern with
  | .str s, .str p =>
    match Regex.compile p with
    | .ok node => node.isMatch s
    | .error _ => false
  | _, _ => false

/-- The items of an array; no item for another value. -/
def items (j : Json) : List Json := j.arr?.getD []

mutual

/-- Whether a cell passes a field's test (see the module header). -/
def passes (cell : Json) : Json → Bool
  | .obj fields => if isOperators fields then passesAll cell fields else equal cell (.obj fields)
  | test => equal cell test

/-- Whether a cell passes each operator of an operator document. -/
def passesAll (cell : Json) : List (String × Json) → Bool
  | [] => true
  | (op, arg) :: rest =>
    (match op with
      | "$ne" => !equal cell arg
      | "$gt" => order? cell arg == some .gt
      | "$lt" => order? cell arg == some .lt
      | "$gte" => order? cell arg == some .gt || order? cell arg == some .eq
      | "$lte" => order? cell arg == some .lt || order? cell arg == some .eq
      | "$in" => (items arg).any (equal cell)
      | "$nin" => !(items arg).any (equal cell)
      | "$regex" => regexHolds cell arg
      | "$not" => !passes cell arg
      | _ => false) && passesAll cell rest

end

/-! ## Documents -/

/-- The value a row holds under a field: `null` where the row lacks it. -/
def cellOf (row : Json) (field : String) : Json := (row.field? field).getD .null

mutual

/-- Whether a row satisfies a filter document (see the module header). -/
def satisfies (row : Json) : Json → Bool
  | .obj clauses => satisfiesAll row clauses
  | _ => false

/-- Whether a row satisfies every clause of a document. -/
def satisfiesAll (row : Json) : List (String × Json) → Bool
  | [] => true
  | (key, arg) :: rest =>
    (match key with
      | "$and" => (verdicts row arg).all id
      | "$or" => (verdicts row arg).any id
      | "$nor" => !(verdicts row arg).any id
      | "$not" => !satisfies row arg
      | "$expr" => arg.bool?.getD false
      | field => passes (cellOf row field) arg) && satisfiesAll row rest

/-- Whether a row satisfies each document of an array. -/
def verdicts (row : Json) : Json → List Bool
  | .arr docs => verdictsList row docs
  | _ => []

/-- Whether a row satisfies each of a list of documents. -/
def verdictsList (row : Json) : List Json → List Bool
  | [] => []
  | d :: ds => satisfies row d :: verdictsList row ds

end

/-! ## Values the store and the table read alike -/

/-- A JSON value and the cell it stands for, when the store and the table read it alike:
    `null`, a boolean, an integer within `±2^53`, a finite float, a text, or a
    `{"$date": …}` object whose text reads as the date-time. -/
inductive Mirrors : Json → Literal → Prop
  | null : Mirrors .null .null
  | bool (b : Bool) : Mirrors (.bool b) (.bool b)
  | int {i : Int} : i.natAbs ≤ 2 ^ 53 → Mirrors (.int i) (.int i)
  | float {x : Binary64} : x.isFinite = true → Mirrors (.float x) (.float x)
  | text (s : String) : Mirrors (.str s) (.text s)
  | date {text : String} {t : DateTime} :
      DateTime.readRfc3339 text = .ok t → Mirrors (.obj [("$date", .str text)]) (.date t)

/-- A literal whose JSON the store reads as the literal itself: a number that binary64 holds
    exactly, or a date-time as the reader gives it, of whole milliseconds and in a year of
    four digits; `NULL`, booleans and texts always are. -/
inductive ExactLiteral : Literal → Prop
  | null : ExactLiteral .null
  | bool (b : Bool) : ExactLiteral (.bool b)
  | text (s : String) : ExactLiteral (.text s)
  | number {v : Literal} {x : ℚ} : Cell.ExactNumber v x → ExactLiteral v
  | date {t : DateTime} : t.Stored → 0 ≤ t.date.year ∧ t.date.year ≤ 9999 →
      t.time.nanos % 1000000 = 0 → ExactLiteral (.date t)

/-- The table reads a mirrored value as the cell it mirrors. -/
theorem Mirrors.ofJson {j : Json} {c : Literal} (h : Mirrors j c) : Cell.ofJson j = .ok c := by
  cases h with
  | date hread => simp [Cell.ofJson, Cell.readDateObject, hread]
  | _ => rfl

/-- The JSON of an exact literal stands for the literal: a date-time of whole milliseconds
    in a year of four digits reads back from its text unchanged. -/
theorem mirrors_toJson {v : Literal} (h : ExactLiteral v) : Mirrors (Cell.toJson v) v := by
  cases h with
  | null => exact .null
  | bool b => exact .bool b
  | text s => exact .text s
  | number hx =>
    cases hx with
    | int ha => exact .int ha
    | float hx => rw [Cell.toJson, if_pos hx]; exact .float hx
  | date hstored hyear hms =>
    refine .date ?_
    rw [DateTime.readRfc3339_toRfc3339Millis hstored hyear,
      DateTime.truncMillis_eq_self_iff.2 hms]

/-- The key of a mirrored value, read off the cell. -/
def cellKey? : Literal → Option Key
  | .bool b => some (.bool b)
  | .int i => some (.number i)
  | .float x => some (.number x.toRat)
  | .text s => some (.text (s.toList.flatMap String.utf8EncodeChar))
  | .date t => some (.instant t)
  | .null => none

theorem Mirrors.key? {j : Json} {c : Literal} (h : Mirrors j c) : key? j = cellKey? c := by
  cases h with
  | float hx => simp [Document.key?, cellKey?, hx]
  | date hread => simp [Document.key?, cellKey?, instant?, hread, Except.toOption]
  | _ => rfl

/-- Between mirrored values the store orders as the table does: booleans, exact numbers
    (through binary64 in the table, exactly in the store), texts (by code point in the
    table, by UTF-8 bytes in the store) and date-times, and nothing across classes. -/
theorem order?_eq_compare? {a b : Json} {c v : Literal} (ha : Mirrors a c) (hb : Mirrors b v) :
    order? a b = Cell.compare? c v := by
  rw [order?, ha.key?, hb.key?]
  cases ha with
  | int hi =>
    cases hb with
    | int hj => exact (Cell.compare?_exact (.int hi) (.int hj)).symm
    | float hy => exact (Cell.compare?_exact (.int hi) (.float hy)).symm
    | _ => rfl
  | float hx =>
    cases hb with
    | int hj => exact (Cell.compare?_exact (.float hx) (.int hj)).symm
    | float hy => exact (Cell.compare?_exact (.float hx) (.float hy)).symm
    | _ => rfl
  | text s =>
    cases hb with
    | text s' =>
      simp only [cellKey?, Cell.compare?, Cell.compareText,
        Text.compareOfLessAndEq_flatMap_utf8EncodeChar]
    | _ => rfl
  | _ => cases hb <;> rfl

/-- Between mirrored values the store's equality is the table's. -/
theorem equal_eq_equals {a b : Json} {c v : Literal} (ha : Mirrors a c) (hb : Mirrors b v) :
    equal a b = Cell.equals c v := by
  rw [equal, order?_eq_compare? ha hb]
  cases ha <;> cases hb <;> rfl

/-! ## Documents of the emitter's shapes -/

section Shapes

variable {row cell : Json}

theorem satisfies_and (docs : List Json) :
    satisfies row (.obj [("$and", .arr docs)]) = (verdictsList row docs).all id := by
  simp [satisfies, satisfiesAll, verdicts]

theorem satisfies_or (docs : List Json) :
    satisfies row (.obj [("$or", .arr docs)]) = (verdictsList row docs).any id := by
  simp [satisfies, satisfiesAll, verdicts]

theorem satisfies_not (doc : Json) : satisfies row (.obj [("$not", doc)]) = !satisfies row doc := by
  simp [satisfies, satisfiesAll]

theorem satisfies_nor (doc : Json) :
    satisfies row (.obj [("$nor", .arr [doc])]) = !satisfies row doc := by
  simp [satisfies, satisfiesAll, verdicts, verdictsList]

/-- A clause under a key that is not an operator tests the row's value there. -/
theorem satisfies_fieldDoc {field : String} (hfield : field.startsWith "$" = false) (test : Json) :
    satisfies row (fieldDoc field test) = passes (cellOf row field) test := by
  simp only [fieldDoc, satisfies, satisfiesAll, Bool.and_true]
  split
  case h_6 => rfl
  -- the operator keys all start with `$`
  all_goals simp at hfield

/-- A test of one operator other than `$date` is read as that operator. -/
theorem passes_operator {op : String} (hop : op.startsWith "$" = true) (hdate : op ≠ "$date")
    (arg : Json) : passes cell (.obj [(op, arg)]) = passesAll cell [(op, arg)] := by
  have hbeq : ("$date" == op) = false := beq_false_of_ne (Ne.symm hdate)
  have hops : isOperators [(op, arg)] = true := by
    simp [isOperators, hop, List.lookup, hbeq]
  simp only [passes, hops, if_true]

/-- A mirrored value is no operator document: the cell must equal it. -/
theorem passes_of_mirrors {b : Json} {v : Literal} (hb : Mirrors b v) :
    passes cell b = equal cell b := by
  cases hb with
  | date => simp [passes, isOperators]
  | _ => simp [passes]

end Shapes

end Document

end FilterQuery

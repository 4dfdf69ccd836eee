import FilterQuery.Query.Predicate
import FilterQuery.Table.Basic
import FilterQuery.Regex.Parse

/-! # Row masks

`Mask.evaluate` decides a predicate for every row of a table at once, column by column: the
answer is one boolean per row.

Before any column is read, `Mask.prepare` walks the tree depth first and, at each leaf, in
this order: refuses an ordering test or a `BETWEEN` against `NULL`; compiles a `LIKE`
pattern not met before (a pattern that does not compile is refused); and refuses a field
the table does not have. A table with no rows has no columns.

A leaf tests each cell of its field's column the way a document store does:
* `=` is `Cell.equals` and `!=` its negation; the ordering operators hold when the cell and
  the value are of one class and ordered so (`Cell.compare?`);
* `BETWEEN` holds when the cell is at least the low end and at most the high end;
* `IN` holds when the cell equals one of the values;
* `LIKE` holds for a text cell in which the pattern matches somewhere;
* `IS NULL` holds for a null cell;
and a negated leaf holds where the plain one does not. So a null cell satisfies `IS NULL`,
`!=`, every negated form and `IN (…, NULL)`, and nothing else. Junctions combine the masks
of their children row by row, starting from the connective's identity and stopping once every
row is decided; a negation flips its child's mask. The evaluator refuses a field the table
lacks and a `LIKE` pattern that was not compiled, as `prepare` already did. -/

namespace FilterQuery

open Query

/-- The patterns compiled so far, by their text. -/
abbrev Patterns := List (String × Regex.Node)

namespace Mask

/-- Checks that the table has a field. -/
def checkField (t : Table) (field : String) (pats : Patterns) : Except EmitError Patterns :=
  match t.column? field with
  | some _ => .ok pats
  | none => .error (.unknownField field)

mutual

/-- Checks a tree before evaluation and compiles its patterns (see the module header). -/
def prepare (t : Table) : Predicate → Patterns → Except EmitError Patterns
  | .const _, pats => .ok pats
  | .junction _ children, pats => prepareAll t children pats
  | .negation child, pats => prepare t child pats
  | .compare f op v, pats =>
    if op.isOrdering && v.isNull then .error (EmitError.orderingAgainstNull op.symbol)
    else checkField t f pats
  | .between f lo hi _, pats =>
    if lo.isNull || hi.isNull then .error (EmitError.orderingAgainstNull "BETWEEN")
    else checkField t f pats
  | .like f pattern _, pats =>
    match pats.lookup pattern with
    | some _ => checkField t f pats
    | none =>
      match Regex.compile pattern with
      | .ok node => checkField t f (pats ++ [(pattern, node)])
      | .error msg => .error (.invalidPattern pattern msg)
  | .member f _ _, pats => checkField t f pats
  | .isNull f _, pats => checkField t f pats

/-- `prepare` over the children of a junction, left to right. -/
def prepareAll (t : Table) : List Predicate → Patterns → Except EmitError Patterns
  | [], pats => .ok pats
  | p :: rest, pats => do prepareAll t rest (← prepare t p pats)

end

/-- Whether a cell satisfies a comparison. -/
def compareCell (cell : Literal) (op : CompareOp) (v : Literal) : Bool :=
  match op with
  | .eq => Cell.equals cell v
  | .ne => !Cell.equals cell v
  | .gt => Cell.compare? cell v == some .gt
  | .lt => Cell.compare? cell v == some .lt
  | .ge => Cell.compare? cell v == some .gt || Cell.compare? cell v == some .eq
  | .le => Cell.compare? cell v == some .lt || Cell.compare? cell v == some .eq

/-- Whether a cell satisfies a leaf, negation included. -/
def leafHolds (pats : Patterns) (p : Predicate) (cell : Literal) : Bool :=
  match p with
  | .compare _ op v => compareCell cell op v
  | .between _ lo hi n =>
    (compareCell cell .ge lo && compareCell cell .le hi) != n
  | .member _ vs n => vs.any (Cell.equals cell) != n
  | .like _ pattern n =>
    (match cell, pats.lookup pattern with
      | .text s, some node => node.isMatch s
      | _, _ => false) != n
  | .isNull _ n => cell.isNull != n
  | _ => false

/-- Combines masks row by row. -/
def combineMasks (conn : Connective) (a b : List Bool) : List Bool :=
  List.zipWith (match conn with | .and => (· && ·) | .or => (· || ·)) a b

/-- The column of a field, or the error for a field the table does not have. -/
def column (t : Table) (field : String) : Except EmitError (List Literal) :=
  match t.column? field with
  | some cells => .ok cells
  | none => .error (.unknownField field)

/-- A leaf's test applied down its field's column. -/
def mapCells (t : Table) (field : String) (test : Literal → Bool) :
    Except EmitError (List Bool) := do
  let cells ← column t field
  return cells.map test

mutual

/-- The mask of a prepared predicate over a table. A field the table lacks and a `LIKE`
    pattern that was not compiled are errors; after `prepare` neither happens. -/
def eval (t : Table) (pats : Patterns) : Predicate → Except EmitError (List Bool)
  | .const v => .ok (List.replicate t.rows v)
  | .junction conn children =>
    evalAll t pats conn children (List.replicate t.rows (Predicate.identity conn))
  | .negation child => do
    let mask ← eval t pats child
    return mask.map (!·)
  | .compare f op v => mapCells t f (leafHolds pats (.compare f op v))
  | .between f lo hi n => mapCells t f (leafHolds pats (.between f lo hi n))
  | .member f vs n => mapCells t f (leafHolds pats (.member f vs n))
  | .like f pattern n =>
    match pats.lookup pattern with
    | some _ => mapCells t f (leafHolds pats (.like f pattern n))
    | none => .error (.invalidPattern pattern "pattern was not compiled")
  | .isNull f n => mapCells t f (leafHolds pats (.isNull f n))

/-- Folds the masks of a junction's children into `acc`, left to right. Before each child it
    stops if every row already has the value that decides the junction (`false` under `AND`,
    `true` under `OR`). -/
def evalAll (t : Table) (pats : Patterns) (conn : Connective) :
    List Predicate → List Bool → Except EmitError (List Bool)
  | [], acc => .ok acc
  | p :: rest, acc =>
    if acc.all (· == !Predicate.identity conn) then .ok acc
    else do
      let mask ← eval t pats p
      evalAll t pats conn rest (combineMasks conn acc mask)

end

/-- The mask of a predicate over a table, or why it cannot be evaluated there. -/
def evaluate (p : Predicate) (t : Table) : Except EmitError (List Bool) := do
  let pats ← prepare t p []
  eval t pats p

end Mask

end FilterQuery

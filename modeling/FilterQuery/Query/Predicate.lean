import FilterQuery.Query.Literal
import FilterQuery.Query.Basic

/-! # Predicate trees

A filter reads into a `Predicate`: a constant, a leaf that tests one field, a junction of
two or more children under one connective, or a negation.

`Predicate.combine` joins children under a connective and keeps the tree in normal form:
a constant equal to the connective's identity is dropped, a constant that absorbs it decides
the whole junction, children that are junctions under the same connective are spliced in,
and a junction of no child is the identity while a junction of one child is that child.
`Predicate.negate` folds a constant and wraps anything else.

`Predicate.fields` lists the fields of the leaves, depth first and left to right, each once
at its first occurrence. -/

namespace FilterQuery

namespace Query

/-- A predicate over the fields of a row. -/
inductive Predicate where
  /-- Always true or always false. -/
  | const (value : Bool)
  /-- `field op value`. -/
  | compare (field : String) (op : CompareOp) (value : Literal)
  /-- `field [NOT] BETWEEN low AND high`, both ends included. -/
  | between (field : String) (low high : Literal) (negated : Bool)
  /-- `field [NOT] IN (values)`. -/
  | member (field : String) (values : List Literal) (negated : Bool)
  /-- `field [NOT] LIKE pattern`, the pattern a regular expression. -/
  | like (field : String) (pattern : String) (negated : Bool)
  /-- `field IS [NOT] NULL`. -/
  | isNull (field : String) (negated : Bool)
  /-- All (`AND`) or any (`OR`) of the children. -/
  | junction (conn : Connective) (children : List Predicate)
  /-- The negation of the child. -/
  | negation (child : Predicate)
  deriving Inhabited, Repr

namespace Predicate

/-- The value of `combine` over no children: true for `AND`, false for `OR`. -/
def identity : Connective → Bool
  | .and => true
  | .or => false

/-- Adds the children `cs` to the spliced children `acc` (reversed), or stops at an
    absorbing constant. -/
def flattenInto (conn : Connective) : List Predicate → List Predicate → Option (List Predicate)
  | [], acc => some acc
  | .const v :: rest, acc =>
    if v = identity conn then flattenInto conn rest acc else none
  | .junction c inner :: rest, acc =>
    if c = conn then flattenInto conn rest (inner.reverse ++ acc)
    else flattenInto conn rest (.junction c inner :: acc)
  | p :: rest, acc => flattenInto conn rest (p :: acc)

/-- Joins children under a connective, in normal form (see the module header). -/
def combine (conn : Connective) (children : List Predicate) : Predicate :=
  match flattenInto conn children [] with
  | none => .const (!identity conn)
  | some [] => .const (identity conn)
  | some [p] => p
  | some flat => .junction conn flat.reverse

/-- The conjunction of the children. -/
def all (children : List Predicate) : Predicate := combine .and children

/-- The disjunction of the children. -/
def any (children : List Predicate) : Predicate := combine .or children

/-- The negation of a predicate; a constant is folded. -/
def negate : Predicate → Predicate
  | .const v => .const !v
  | p => .negation p

/-- Whether the predicate is neither a junction nor a negation. -/
def isLeaf : Predicate → Bool
  | .junction _ _ | .negation _ => false
  | _ => true

/-- The field a leaf tests. -/
def field? : Predicate → Option String
  | .compare f _ _ | .between f _ _ _ | .member f _ _ | .like f _ _ | .isNull f _ => some f
  | _ => none

mutual

/-- Adds the fields of a predicate to `seen`, each once, in order of first occurrence. -/
def collectFields : Predicate → List String → List String
  | .junction _ children, seen => collectFieldsList children seen
  | .negation child, seen => collectFields child seen
  | p, seen =>
    match p.field? with
    | some f => if f ∈ seen then seen else seen ++ [f]
    | none => seen

/-- `collectFields` over a list of children, left to right. -/
def collectFieldsList : List Predicate → List String → List String
  | [], seen => seen
  | p :: rest, seen => collectFieldsList rest (collectFields p seen)

end

/-- The fields of the leaves, depth first, each once at its first occurrence. -/
def fields (p : Predicate) : List String := collectFields p []

end Predicate

end Query

end FilterQuery

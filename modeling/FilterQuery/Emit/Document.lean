import FilterQuery.Query.Predicate
import FilterQuery.Table.Cell

/-! # Filter documents

`Document.emit` writes a predicate tree as a filter document of a document store:

| predicate              | document                                  |
|------------------------|-------------------------------------------|
| `1`, `0`               | `{}`, `{"$expr": false}`                  |
| `a = v`                | `{"a": v}`                                |
| `a != v`, `a > v`, …   | `{"a": {"$ne": v}}`, `{"a": {"$gt": v}}`  |
| `a BETWEEN x AND y`    | `{"a": {"$gte": x, "$lte": y}}`           |
| `a IN (…)`             | `{"a": {"$in": […]}}` (`$nin` negated)    |
| `a LIKE p`             | `{"a": {"$regex": p}}`                    |
| `a IS NULL`            | `{"a": null}` (`{"$ne": null}` negated)   |
| `x AND y`, `x OR y`    | `{"$and": […]}`, `{"$or": […]}`           |
| `NOT (x)`              | `{"$not": x}` or `{"$nor": [x]}`          |

A negated `BETWEEN` or `LIKE` wraps its operator document in a field-level `$not`. Dates
are written as `{"$date": …}` objects. An ordering test against `NULL` has no document and
is refused. -/

namespace FilterQuery

open Query

/-- How `NOT (…)` is written. -/
inductive NegationStyle where
  /-- `{"$not": child}`. -/
  | not
  /-- `{"$nor": [child]}`, which a store accepts at the top level of a filter. -/
  | nor
  deriving DecidableEq, Inhabited, Repr

namespace Document

/-- `{field: test}`. -/
def fieldDoc (field : String) (test : Json) : Json := .obj [(field, test)]

/-- An operator document, wrapped in `$not` when negated. -/
def negateIf (negated : Bool) (ops : Json) : Json :=
  if negated then .obj [("$not", ops)] else ops

/-- The operator key of a comparison other than equality. -/
def compareKey : CompareOp → String
  | .eq => "$eq"
  | .ne => "$ne"
  | .gt => "$gt"
  | .lt => "$lt"
  | .ge => "$gte"
  | .le => "$lte"

/-- The document of a leaf. -/
def emitLeaf : Predicate → Except EmitError Json
  | .compare f op v =>
    if op.isOrdering && v.isNull then .error (EmitError.orderingAgainstNull op.symbol)
    else match op with
      | .eq => .ok (fieldDoc f (Cell.toJson v))
      | _ => .ok (fieldDoc f (.obj [(compareKey op, Cell.toJson v)]))
  | .between f lo hi n =>
    if lo.isNull || hi.isNull then .error (EmitError.orderingAgainstNull "BETWEEN")
    else .ok (fieldDoc f (negateIf n (.obj [("$gte", Cell.toJson lo), ("$lte", Cell.toJson hi)])))
  | .member f vs n =>
    .ok (fieldDoc f (.obj [(if n then "$nin" else "$in", .arr (vs.map Cell.toJson))]))
  | .like f p n => .ok (fieldDoc f (negateIf n (.obj [("$regex", .str p)])))
  | .isNull f n => .ok (fieldDoc f (if n then .obj [("$ne", .null)] else .null))
  | .const true => .ok (.obj [])
  | .const false => .ok (.obj [("$expr", .bool false)])
  | _ => .ok (.obj [])

mutual

/-- The filter document of a predicate, as described in the module header. -/
def emit (style : NegationStyle) : Predicate → Except EmitError Json
  | .junction conn children => do
    let docs ← emitChildren style children
    return .obj [(match conn with | .and => "$and" | .or => "$or", .arr docs)]
  | .negation child => do
    let doc ← emit style child
    return match style with
      | .not => .obj [("$not", doc)]
      | .nor => .obj [("$nor", .arr [doc])]
  | p => emitLeaf p

/-- The documents of a junction's children, left to right; the first refusal wins. -/
def emitChildren (style : NegationStyle) : List Predicate → Except EmitError (List Json)
  | [] => .ok []
  | p :: rest => do
    let d ← emit style p
    let ds ← emitChildren style rest
    return d :: ds

end

/-- The `$match` stage of a predicate, or `none` for an always-true predicate, which needs
    no stage. -/
def matchStage (style : NegationStyle) (p : Predicate) : Except EmitError (Option Json) :=
  match p with
  | .const true => .ok none
  | _ => do return some (.obj [("$match", ← emit style p)])

end Document

end FilterQuery

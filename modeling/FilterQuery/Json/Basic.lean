import FilterQuery.Binary64.Basic

/-! # JSON values

A JSON value keeps the kind of number it was written as: an integer that fits in 64 signed
bits is an `int`, every other number is a `float`. Objects are association lists whose keys
are kept sorted and unique (`Json.setField` replaces an existing key), the shape that rows
and requests are read into. -/

namespace FilterQuery

/-- A JSON value. -/
inductive Json where
  | null
  | bool (b : Bool)
  | int (i : Int)
  | float (x : Binary64)
  | str (s : String)
  | arr (items : List Json)
  | obj (fields : List (String × Json))
  deriving Inhabited, Repr

namespace Json

/-- Inserts or replaces `key` in a key-sorted association list, keeping it sorted. -/
def setField (fields : List (String × Json)) (key : String) (value : Json) :
    List (String × Json) :=
  match fields with
  | [] => [(key, value)]
  | (k, v) :: rest =>
    if key < k then (key, value) :: (k, v) :: rest
    else if key = k then (key, value) :: rest
    else (k, v) :: setField rest key value

/-- The object with the given fields, sorted by key; a later field replaces an earlier one. -/
def ofFields (fields : List (String × Json)) : Json :=
  .obj (fields.foldl (fun acc (k, v) => setField acc k v) [])

/-- The value under `key`, if this is an object that has it. -/
def field? (j : Json) (key : String) : Option Json :=
  match j with
  | .obj fields => fields.lookup key
  | _ => none

/-- The text, if this is a string. -/
def str? : Json → Option String
  | .str s => some s
  | _ => none

/-- The flag, if this is a boolean. -/
def bool? : Json → Option Bool
  | .bool b => some b
  | _ => none

/-- The integer, if this is an integer. -/
def int? : Json → Option Int
  | .int i => some i
  | _ => none

/-- The items, if this is an array. -/
def arr? : Json → Option (List Json)
  | .arr items => some items
  | _ => none

end Json

end FilterQuery

import FilterQuery.Toml.Scalar

/-! # TOML documents

`Toml.read` reads a TOML 1.0 document into a table, or refuses it. A document is a sequence
of lines, each blank, a comment, a `key = value` pair, a table header `[key]` or an
array-of-tables header `[[key]]`, optionally followed by a comment.

Tables keep the rules that stop a table from being defined twice:
* a key is defined at most once in its table;
* a header defines its table once; a table created only as the parent of another header
  may be defined later, but not a table created by dotted keys;
* dotted keys create tables, and may go on into tables that were only created (by dotted
  keys or as parents), not into tables defined by a header;
* `[[key]]` adds a table to an array of tables, and keys go on into its last table;
* a value written inline (an inline table or an array) is closed: no header or dotted key
  may add to it.

Inline tables `{ k = v, … }` sit on one line, without a trailing comma; arrays `[v, …]` may
spread over lines, hold comments, and end with a comma. -/

namespace FilterQuery

namespace Toml

/-- An entry of a table while the document is read. -/
inductive Entry where
  /-- A value given by `key = value`. -/
  | value (v : Value)
  /-- A table: `implicit` while only created, not defined; `dotted` when created by dotted
      keys. -/
  | table (implicit dotted : Bool) (fields : List (String × Entry))
  /-- An array of tables. -/
  | tables (items : List (List (String × Entry)))
  deriving Inhabited, Repr

/-- The fields of a table while the document is read. -/
abbrev Fields := List (String × Entry)

/-- Replaces the entry of a key. -/
def Fields.replace (fields : Fields) (key : String) (e : Entry) : Fields :=
  fields.map fun (k, v) => if k = key then (k, e) else (k, v)

/-- Applies `f` to the table at `path`, creating missing tables; `dotted` picks the rules of
    dotted keys (see the module header). In an array of tables the last table is meant. -/
def updateAt (dotted : Bool) (f : Fields → Except String Fields) :
    List String → Fields → Except String Fields
  | [], fields => f fields
  | k :: rest, fields =>
    match fields.lookup k with
    | none => do
      let inner ← updateAt dotted f rest []
      return fields ++ [(k, .table true dotted inner)]
    | some (.value _) => .error "key is not a table"
    | some (.tables items) =>
      match items.getLast? with
      | some last => do
        let inner ← updateAt dotted f rest last
        return fields.replace k (.tables (items.dropLast ++ [inner]))
      | none => .error "empty array of tables"
    | some (.table implicit dot inner) =>
      if dotted && !implicit then .error "dotted key into a defined table"
      else do
        let inner' ← updateAt dotted f rest inner
        return fields.replace k (.table implicit dot inner')

/-- Defines a key of a table by a (possibly dotted) key. -/
def insertValue (key : List String) (v : Value) (fields : Fields) : Except String Fields :=
  match key.getLast? with
  | none => .error "empty key"
  | some last =>
    updateAt true (fun fs =>
      if (fs.lookup last).isSome then .error "duplicate key" else .ok (fs ++ [(last, .value v)]))
      key.dropLast fields

/-- Defines the table of a `[key]` header. -/
def defineTable (path : List String) (root : Fields) : Except String Fields :=
  match path.getLast? with
  | none => .error "empty key"
  | some last =>
    updateAt false (fun fs =>
      match fs.lookup last with
      | none => .ok (fs ++ [(last, .table false false [])])
      | some (.table true false inner) => .ok (fs.replace last (.table false false inner))
      | some _ => .error "table defined twice")
      path.dropLast root

/-- Adds a table to the array of a `[[key]]` header. -/
def appendTable (path : List String) (root : Fields) : Except String Fields :=
  match path.getLast? with
  | none => .error "empty key"
  | some last =>
    updateAt false (fun fs =>
      match fs.lookup last with
      | none => .ok (fs ++ [(last, .tables [[]])])
      | some (.tables items) => .ok (fs.replace last (.tables (items ++ [[]])))
      | some _ => .error "not an array of tables")
      path.dropLast root

mutual

/-- The value of an entry. -/
def Entry.toValue : Entry → Value
  | .value v => v
  | .table _ _ fields => .table (fieldsToValues fields)
  | .tables items => .arr (tablesToValues items)

/-- The values of the fields of a table. -/
def fieldsToValues : Fields → List (String × Value)
  | [] => []
  | (k, e) :: rest => (k, e.toValue) :: fieldsToValues rest

/-- The values of the tables of an array. -/
def tablesToValues : List Fields → List Value
  | [] => []
  | t :: rest => .table (fieldsToValues t) :: tablesToValues rest

end

/-- Drops white space, newlines and comments, as arrays allow between items. -/
def skipBlankLines : Nat → List Char → Except String (List Char)
  | 0, cs => .ok cs
  | fuel + 1, cs =>
    match skipSpace cs with
    | '#' :: rest => do skipBlankLines fuel (← readComment rest)
    | rest =>
      match newline? rest with
      | some after => skipBlankLines fuel after
      | none => .ok rest

mutual

/-- Reads a value. -/
def readValue (fuel : Nat) (cs : List Char) : Except String (Value × List Char) :=
  match fuel with
  | 0 => .error "document too deep"
  | fuel + 1 =>
    match readString? cs with
    | some r => do let (s, rest) ← r; return (.str s, rest)
    | none =>
      match cs with
      | '[' :: rest => readArray fuel [] rest
      | '{' :: rest => readInlineTable fuel [] true rest
      | _ => readScalar cs

/-- Reads the items of an array after its `[` (or after a comma). -/
def readArray (fuel : Nat) (acc : List Value) (cs : List Char) : Except String (Value × List Char) :=
  match fuel with
  | 0 => .error "document too deep"
  | fuel + 1 => do
    let cs ← skipBlankLines (cs.length + 1) cs
    match cs with
    | ']' :: rest => return (.arr acc.reverse, rest)
    | _ => do
      let (v, rest) ← readValue fuel cs
      let rest ← skipBlankLines (rest.length + 1) rest
      match rest with
      | ',' :: more => readArray fuel (v :: acc) more
      | ']' :: more => return (.arr (v :: acc).reverse, more)
      | _ => throw "expected , or ] in array"

/-- Reads the pairs of an inline table after its `{` (or after a comma; `first` before the
    first pair, where `}` may close an empty table). -/
def readInlineTable (fuel : Nat) (fields : Fields) (first : Bool) (cs : List Char) :
    Except String (Value × List Char) :=
  match fuel with
  | 0 => .error "document too deep"
  | fuel + 1 => do
    let cs := skipSpace cs
    match cs with
    | '}' :: rest =>
      if first then return (.table (fieldsToValues fields), rest)
      else throw "trailing comma in inline table"
    | _ => do
      let (key, rest) ← readKey cs
      let rest := skipSpace rest
      let rest ← match rest with
        | '=' :: r => pure r
        | _ => throw "expected ="
      let (v, rest) ← readValue fuel (skipSpace rest)
      let fields ← insertValue key v fields
      match skipSpace rest with
      | ',' :: more => readInlineTable fuel fields false more
      | '}' :: more => return (.table (fieldsToValues fields), more)
      | _ => throw "expected , or \x7d in inline table"

end

/-- Checks that a line ends after its content: white space, a comment, then a newline or
    the end. -/
def endLine (cs : List Char) : Except String (List Char) := do
  let cs ← skipSpaceAndComment cs
  match cs with
  | [] => return []
  | _ =>
    match newline? cs with
    | some rest => return rest
    | none => throw "expected the end of the line"

/-- Reads the key of a header up to its closing bracket(s). -/
def readHeaderKey (close : List Char) (cs : List Char) : Except String (List String × List Char) := do
  let (key, rest) ← readKey (skipSpace cs)
  let rest := skipSpace rest
  if close.isPrefixOf rest then return (key, rest.drop close.length)
  else throw "unclosed table header"

/-- Reads the lines of a document; `current` is the path of the table that pairs go to. -/
def readLines : Nat → Fields → List String → List Char → Except String Fields
  | 0, _, _, _ => .error "document too long"
  | fuel + 1, root, current, cs =>
    match skipSpace cs with
    | [] => .ok root
    | '#' :: rest => do readLines fuel root current (← endLine ('#' :: rest))
    | '\n' :: rest => readLines fuel root current rest
    | '\r' :: '\n' :: rest => readLines fuel root current rest
    | '[' :: '[' :: rest => do
      let (path, after) ← readHeaderKey [']', ']'] rest
      let root ← appendTable path root
      readLines fuel root path (← endLine after)
    | '[' :: rest => do
      let (path, after) ← readHeaderKey [']'] rest
      let root ← defineTable path root
      readLines fuel root path (← endLine after)
    | line => do
      let (key, rest) ← readKey line
      let rest ← match skipSpace rest with
        | '=' :: r => pure r
        | _ => throw "expected ="
      let (v, rest) ← readValue (rest.length + 1) (skipSpace rest)
      let root ← updateAt false (insertValue key v) current root
      readLines fuel root current (← endLine rest)

/-- Reads a TOML document into its top-level table. -/
def read (text : String) : Except String (List (String × Value)) := do
  let cs := text.toList
  let root ← readLines (cs.length + 1) [] [] cs
  return fieldsToValues root

end Toml

end FilterQuery

import FilterQuery.Table.Cell

/-! # Columnar tables

A `Table` is a number of rows and a list of named columns, kept sorted by name, each with
one cell per row. A table is loaded from JSON objects: every key of any row becomes a
column, and a row without the key holds `NULL` there. The keys of a row are read in sorted
order, so the first bad cell reported is the one whose key sorts first.

A column can be added or replaced later (`Table.withColumn`); it must have one cell per row,
except that a table with no column and no row takes its row count from the first column
given to it. -/

namespace FilterQuery

open Query

/-- A table of cells, column by column. -/
structure Table where
  /-- The number of rows. -/
  rows : Nat := 0
  /-- The columns, sorted by name; each has `rows` cells. -/
  columns : List (String × List Literal) := []
  deriving Inhabited, Repr

namespace Table

/-- The cells of a column, if the table has it. -/
def column? (t : Table) (name : String) : Option (List Literal) := t.columns.lookup name

/-- The column names, in sorted order. -/
def columnNames (t : Table) : List String := t.columns.map Prod.fst

/-- Inserts or replaces a column in a name-sorted list of columns. -/
def setColumn (columns : List (String × List Literal)) (name : String) (cells : List Literal) :
    List (String × List Literal) :=
  match columns with
  | [] => [(name, cells)]
  | (k, c) :: rest =>
    if name < k then (name, cells) :: (k, c) :: rest
    else if name = k then (name, cells) :: rest
    else (k, c) :: setColumn rest name cells

/-- The cells of a row, key by key; the first value that is no cell is reported as a bad
    row `index`. -/
def rowCells (index : Nat) : List (String × Json) → Except EmitError (List (String × Literal))
  | [] => .ok []
  | (k, j) :: rest =>
    match Cell.ofJson j with
    | .ok v => do return (k, v) :: (← rowCells index rest)
    | .error detail => .error (.invalidRow index detail)

/-- The cells of the rows from `index` on, after the rows already read (`acc`, reversed);
    every row must be an object. -/
def rowsCells (acc : List (List (String × Literal))) :
    Nat → List Json → Except EmitError (List (List (String × Literal)))
  | _, [] => .ok acc.reverse
  | index, .obj fields :: rest => do
    let row ← rowCells index fields
    rowsCells (row :: acc) (index + 1) rest
  | index, _ :: _ => .error (.invalidRow index "expected a JSON object")

/-- Inserts a name into a sorted list of names, once. -/
def insertName (name : String) : List String → List String
  | [] => [name]
  | k :: rest =>
    if name < k then name :: k :: rest
    else if name = k then k :: rest
    else k :: insertName name rest

/-- The sorted names of all the keys of the rows. -/
def keyNames (rows : List (List (String × Literal))) : List String :=
  rows.foldl (fun names row => row.foldl (fun names kv => insertName kv.1 names) names) []

/-- The table of a list of JSON objects, as described in the module header. -/
def ofJsonRows (rows : List Json) : Except EmitError Table := do
  let cells ← rowsCells [] 0 rows
  let columns := (keyNames cells).map fun name =>
    (name, cells.map fun row => (row.lookup name).getD .null)
  return { rows := rows.length, columns }

/-- Adds or replaces a column, which must have one cell per row (see the module header). -/
def withColumn (t : Table) (name : String) (cells : List Literal) : Except EmitError Table :=
  let rows := if t.columns.isEmpty && t.rows == 0 then cells.length else t.rows
  if cells.length = rows then .ok { rows, columns := setColumn t.columns name cells }
  else
    .error (.invalidRow (min cells.length rows)
      ("column has " ++ toString cells.length ++ " cells but the table has " ++ toString rows ++
        " rows"))

/-- Row `index` as a JSON object with every column, nulls included; none past the last row. -/
def rowJson (t : Table) (index : Nat) : Option Json :=
  if index < t.rows then
    some (.obj (t.columns.map fun (k, cells) => (k, Cell.toJson (cells.getD index .null))))
  else none

/-- All the rows as JSON objects, read off the columns at once: when every column has one
    cell per row, row `i` is `t.rowJson i`. -/
def rowsJson (t : Table) : List Json :=
  let fieldsOfRows := t.columns.foldr
    (fun (k, cells) rows => List.zipWith (fun c fields => (k, Cell.toJson c) :: fields) cells rows)
    (List.replicate t.rows [])
  fieldsOfRows.map .obj

end Table

end FilterQuery

import Mathlib
import FilterQuery.Table.Basic

/-!
# Tables loaded from JSON rows

`Table.ofJsonRows` reads a list of JSON values into columns. This module says what it does on
every list of rows:
* it succeeds exactly when every row is an object whose every value is a cell (`RowLoads`);
* the table it gives then has one row per JSON row and one column per key that occurs in some
  row, the columns sorted by name; a column holds, row by row, the cell of the row's value
  under its key, or `NULL` when the row lacks the key (`Json.cellAt`); and row `i` written back
  as JSON has every column, null cells included (`LoadedFrom`);
* otherwise it fails at the first row that does not load, with that row's message
  (`RowFails`): `expected a JSON object` for a row that is no object, else the message of its
  bad value under the least key.

The loader reads the values of a row in the order the object lists them. Objects read from
JSON text list their keys sorted and once each (`Json.KeysSorted`), and on those the first bad
value listed is the one under the least key.

## Key results
- `rowCells_eq_ok_iff`, `rowCells_eq_error`: the cells of one row
- `rowsCells_eq_ok_iff`, `rowsCells_eq_error`: the cells of all the rows
- `keyNames_pairwise`, `mem_keyNames`: the column names, sorted, are the keys of the rows
- `ofJsonRows_spec`: what loading does on every list of rows
-/

namespace FilterQuery

open Query

namespace Json

/-- The keys of an object are sorted and distinct, as `setField` keeps them. Values of other
    kinds have no keys. -/
def KeysSorted (j : Json) : Prop :=
  ∀ fields, j = .obj fields → (fields.map Prod.fst).Pairwise (· < ·)

/-- The cell of a JSON value, `NULL` for a value that is no cell. -/
def cellOrNull (j : Json) : Literal := (Cell.ofJson j).toOption.getD .null

/-- The cell a row holds under a key: the cell of its value, `NULL` when the row lacks the
    key. -/
def cellAt (row : Json) (k : String) : Literal := ((row.field? k).map cellOrNull).getD .null

@[simp] theorem keysSorted_obj {fields : List (String × Json)} :
    (Json.obj fields).KeysSorted ↔ (fields.map Prod.fst).Pairwise (· < ·) :=
  ⟨fun h => h fields rfl, fun h _ hj => by cases hj; exact h⟩

theorem cellOrNull_of_ok {j : Json} {v : Literal} (h : Cell.ofJson j = .ok v) :
    cellOrNull j = v := by
  simp [cellOrNull, h, Except.toOption]

/-- Under a key the row has, the cell is the one its value reads to. -/
theorem cellAt_of_field? {row j : Json} {k : String} {v : Literal} (hk : row.field? k = some j)
    (hv : Cell.ofJson j = .ok v) : row.cellAt k = v := by
  simp [cellAt, hk, cellOrNull_of_ok hv]

/-- Under a key the row lacks, the cell is `NULL`. -/
theorem cellAt_of_field?_none {row : Json} {k : String} (hk : row.field? k = none) :
    row.cellAt k = .null := by
  simp [cellAt, hk]

end Json

namespace Table

/-- A row that loads: an object whose every value is a cell. -/
def RowLoads (row : Json) : Prop :=
  ∃ fields, row = .obj fields ∧ ∀ kv ∈ fields, ∃ v, Cell.ofJson kv.2 = .ok v

/-- The message a row that does not load is refused with: a row that is no object is refused
    as such, an object with the message of its bad value under the least key. -/
inductive RowFails : Json → String → Prop
  | notObject {row : Json} : (∀ fields, row ≠ .obj fields) → RowFails row "expected a JSON object"
  | badValue {fields : List (String × Json)} {k : String} {j : Json} {msg : String} :
      (k, j) ∈ fields → Cell.ofJson j = .error msg →
      (∀ kv ∈ fields, kv.1 < k → ∃ v, Cell.ofJson kv.2 = .ok v) → RowFails (.obj fields) msg

/-- The cells a row reads to: the row is an object of cells, each key with its cell. -/
def RowCells (row : Json) (kvs : List (String × Literal)) : Prop :=
  ∃ fields, row = .obj fields ∧ (∀ kv ∈ fields, ∃ v, Cell.ofJson kv.2 = .ok v) ∧
    kvs = fields.map fun kv => (kv.1, Json.cellOrNull kv.2)

theorem rowLoads_iff_exists_rowCells {row : Json} : RowLoads row ↔ ∃ kvs, RowCells row kvs := by
  constructor
  · rintro ⟨fields, rfl, hcells⟩
    exact ⟨_, fields, rfl, hcells, rfl⟩
  · rintro ⟨kvs, fields, rfl, hcells, -⟩
    exact ⟨fields, rfl, hcells⟩

/-! ## One row -/

/-- Reading the values of a row succeeds exactly when each is a cell. -/
theorem rowCells_eq_ok_iff {index : Nat} {fields : List (String × Json)}
    {kvs : List (String × Literal)} :
    rowCells index fields = .ok kvs ↔
      (∀ kv ∈ fields, ∃ v, Cell.ofJson kv.2 = .ok v) ∧
        kvs = fields.map fun kv => (kv.1, Json.cellOrNull kv.2) := by
  induction fields generalizing kvs with
  | nil => simp [rowCells, eq_comm]
  | cons kv rest ih =>
    obtain ⟨k, j⟩ := kv
    cases hj : Cell.ofJson j with
    | error msg => simp [rowCells, hj]
    | ok v =>
      cases hrest : rowCells index rest with
      | error e =>
        simp only [rowCells, hj, hrest]
        constructor
        · intro h; cases h
        · rintro ⟨hcells, rfl⟩
          have := ih.2 ⟨fun kv hkv => hcells kv (List.mem_cons_of_mem _ hkv), rfl⟩
          rw [hrest] at this
          cases this
      | ok kvs' =>
        obtain ⟨hcells, rfl⟩ := ih.1 hrest
        simp only [rowCells, hj, hrest, List.map_cons, Json.cellOrNull_of_ok hj,
          List.forall_mem_cons]
        constructor
        · rintro ⟨⟩
          exact ⟨⟨⟨v, rfl⟩, hcells⟩, rfl⟩
        · rintro ⟨-, rfl⟩
          rfl

/-- Reading the values of a row fails at the first one listed that is no cell, with its
    message. -/
theorem rowCells_eq_error {index : Nat} {e : EmitError} :
    ∀ {fields : List (String × Json)}, rowCells index fields = .error e →
      ∃ pre k j post msg, fields = pre ++ (k, j) :: post ∧
        (∀ kv ∈ pre, ∃ v, Cell.ofJson kv.2 = .ok v) ∧ Cell.ofJson j = .error msg ∧
        e = .invalidRow index msg
  | [], h => by cases h
  | (k, j) :: rest, h => by
    cases hj : Cell.ofJson j with
    | error msg =>
      simp only [rowCells, hj] at h
      cases h
      exact ⟨[], k, j, rest, msg, rfl, by simp, hj, rfl⟩
    | ok v =>
      cases hrest : rowCells index rest with
      | error e' =>
        simp only [rowCells, hj, hrest] at h
        cases h
        obtain ⟨pre, k', j', post, msg, rfl, hpre, hbad, rfl⟩ := rowCells_eq_error hrest
        refine ⟨(k, j) :: pre, k', j', post, msg, rfl, ?_, hbad, rfl⟩
        rintro kv (_ | ⟨_, hkv⟩)
        · exact ⟨v, hj⟩
        · exact hpre kv hkv
      | ok kvs =>
        simp only [rowCells, hj, hrest] at h
        cases h

/-- In an object whose keys are sorted, the first bad value listed is the one under the least
    key. -/
theorem rowFails_of_first {pre post : List (String × Json)} {k : String} {j : Json}
    {msg : String} (hsorted : (Json.obj (pre ++ (k, j) :: post)).KeysSorted)
    (hpre : ∀ kv ∈ pre, ∃ v, Cell.ofJson kv.2 = .ok v) (hbad : Cell.ofJson j = .error msg) :
    RowFails (.obj (pre ++ (k, j) :: post)) msg := by
  -- every key listed after the bad value is greater than its key
  have hafter : ∀ kv ∈ post, k < kv.1 := by
    have hkeys := hsorted _ rfl
    rw [List.map_append, List.map_cons, List.pairwise_append, List.pairwise_cons] at hkeys
    exact fun kv hkv => hkeys.2.1.1 kv.1 (List.mem_map_of_mem hkv)
  refine @RowFails.badValue _ k j msg (by simp) hbad ?_
  intro kv hkv hlt
  rcases List.mem_append.1 hkv with hkv | hkv
  · exact hpre kv hkv
  · exfalso
    rcases List.mem_cons.1 hkv with rfl | hpost
    · exact lt_irrefl _ hlt
    · exact lt_asymm hlt (hafter kv hpost)

/-- The key-value lists a row reads to determine one another. -/
theorem rowCells_obj_iff {index : Nat} {fields : List (String × Json)}
    {kvs : List (String × Literal)} : RowCells (.obj fields) kvs ↔ rowCells index fields = .ok kvs := by
  rw [rowCells_eq_ok_iff]
  constructor
  · rintro ⟨fields', hfields, hcells, rfl⟩
    cases hfields
    exact ⟨hcells, rfl⟩
  · rintro ⟨hcells, rfl⟩
    exact ⟨fields, rfl, hcells, rfl⟩

/-! ## All the rows -/

/-- A row that is no object is refused as soon as it is reached. -/
theorem rowsCells_of_not_obj {row : Json} (hne : ∀ fields, row ≠ .obj fields)
    (acc : List (List (String × Literal))) (index : Nat) (rest : List Json) :
    rowsCells acc index (row :: rest) = .error (.invalidRow index "expected a JSON object") := by
  cases row with
  | obj fields => exact absurd rfl (hne fields)
  | _ => rfl

/-- Reading the rows succeeds exactly when each row reads to its cells; the cells of the rows
    follow those already read. -/
theorem rowsCells_eq_ok_iff {rows : List Json} :
    ∀ {acc : List (List (String × Literal))} {index : Nat} {cells : List (List (String × Literal))},
      rowsCells acc index rows = .ok cells ↔
        ∃ rest, List.Forall₂ RowCells rows rest ∧ cells = acc.reverse ++ rest := by
  induction rows with
  | nil => intro acc index cells; simp [rowsCells, eq_comm]
  | cons row rows ih =>
    intro acc index cells
    by_cases hobj : ∃ fields, row = .obj fields
    · obtain ⟨fields, rfl⟩ := hobj
      cases hrow : rowCells index fields with
      | error e =>
        simp only [rowsCells, hrow]
        constructor
        · intro h; cases h
        · rintro ⟨_ | ⟨kvs, rest⟩, hrel, -⟩
          · cases hrel
          · rw [List.forall₂_cons, @rowCells_obj_iff index _ _, hrow] at hrel
            cases hrel.1
      | ok kvs =>
        simp only [rowsCells, hrow]
        change rowsCells (kvs :: acc) (index + 1) rows = .ok cells ↔ _
        rw [ih]
        constructor
        · rintro ⟨rest, hrel, rfl⟩
          exact ⟨kvs :: rest, List.Forall₂.cons ((@rowCells_obj_iff index _ _).2 hrow) hrel,
            by simp⟩
        · rintro ⟨_ | ⟨kvs', rest⟩, hrel, rfl⟩
          · cases hrel
          · rw [List.forall₂_cons, @rowCells_obj_iff index _ _, hrow] at hrel
            obtain ⟨⟨⟩, hrel⟩ := hrel
            exact ⟨rest, hrel, by simp⟩
    · have hne : ∀ fields, row ≠ .obj fields := fun fields h => hobj ⟨fields, h⟩
      rw [rowsCells_of_not_obj hne]
      constructor
      · intro h; cases h
      · rintro ⟨_ | ⟨kvs, rest⟩, hrel, -⟩
        · cases hrel
        · obtain ⟨fields, rfl, -⟩ := (List.forall₂_cons.1 hrel).1
          exact absurd rfl (hne fields)

/-- Reading the rows fails at the first row that does not load, with that row's message. -/
theorem rowsCells_eq_error {rows : List Json} (hsorted : ∀ row ∈ rows, row.KeysSorted)
    {e : EmitError} :
    ∀ {acc : List (List (String × Literal))} {index : Nat}, rowsCells acc index rows = .error e →
      ∃ i msg, (∀ row ∈ rows.take i, RowLoads row) ∧
        (∃ row, rows[i]? = some row ∧ RowFails row msg) ∧ e = .invalidRow (index + i) msg := by
  induction rows with
  | nil => intro acc index h; cases h
  | cons row rows ih =>
    intro acc index h
    by_cases hobj : ∃ fields, row = .obj fields
    · obtain ⟨fields, rfl⟩ := hobj
      cases hrow : rowCells index fields with
      | error e' =>
        simp only [rowsCells, hrow] at h
        cases h
        obtain ⟨pre, k, j, post, msg, rfl, hpre, hbad, rfl⟩ := rowCells_eq_error hrow
        refine ⟨0, msg, by simp, ⟨_, rfl, ?_⟩, rfl⟩
        exact rowFails_of_first (hsorted _ List.mem_cons_self) hpre hbad
      | ok kvs =>
        simp only [rowsCells, hrow] at h
        obtain ⟨i, msg, hbefore, hfails, rfl⟩ :=
          ih (fun r hr => hsorted r (List.mem_cons_of_mem _ hr)) h
        refine ⟨i + 1, msg, ?_, by simpa using hfails, by rw [Nat.add_right_comm, Nat.add_assoc]⟩
        rw [List.take_succ_cons, List.forall_mem_cons]
        exact ⟨rowLoads_iff_exists_rowCells.2 ⟨kvs, (@rowCells_obj_iff index _ _).2 hrow⟩,
          hbefore⟩
    · have hne : ∀ fields, row ≠ .obj fields := fun fields h => hobj ⟨fields, h⟩
      rw [rowsCells_of_not_obj hne] at h
      cases h
      exact ⟨0, _, by simp, ⟨row, rfl, .notObject hne⟩, rfl⟩

/-! ## The column names -/

theorem mem_insertName {x name : String} :
    ∀ {names : List String}, x ∈ insertName name names ↔ x = name ∨ x ∈ names
  | [] => by simp [insertName]
  | k :: rest => by
    simp only [insertName]
    split
    · simp
    split
    · rename_i heq
      subst heq
      simp
    · rw [List.mem_cons, List.mem_cons, mem_insertName]
      tauto

/-- Inserting a name into names sorted without repetition keeps them so. -/
theorem insertName_pairwise {name : String} :
    ∀ {names : List String}, names.Pairwise (· < ·) → (insertName name names).Pairwise (· < ·)
  | [], _ => by simp [insertName]
  | k :: rest, h => by
    rw [List.pairwise_cons] at h
    simp only [insertName]
    split
    · rename_i hlt
      refine List.Pairwise.cons ?_ (List.Pairwise.cons h.1 h.2)
      rintro x (_ | ⟨_, hx⟩)
      · exact hlt
      · exact lt_trans hlt (h.1 x hx)
    split
    · exact List.Pairwise.cons h.1 h.2
    · rename_i hnlt hne
      -- the name goes after `k`, which is below it
      have hk : k < name := lt_of_le_of_ne (not_lt.1 hnlt) (Ne.symm hne)
      refine List.Pairwise.cons ?_ (insertName_pairwise h.2)
      intro x hx
      rcases mem_insertName.1 hx with rfl | hx
      · exact hk
      · exact h.1 x hx

/-- The names of one row's keys added to names already gathered. -/
theorem mem_foldl_insertName {x : String} :
    ∀ {kvs : List (String × Literal)} {names : List String},
      x ∈ kvs.foldl (fun names kv => insertName kv.1 names) names ↔
        x ∈ names ∨ ∃ kv ∈ kvs, kv.1 = x
  | [], _ => by simp
  | kv :: rest, names => by
    rw [List.foldl_cons, mem_foldl_insertName, mem_insertName]
    simp only [List.mem_cons, exists_eq_or_imp]
    tauto

theorem foldl_insertName_pairwise :
    ∀ {kvs : List (String × Literal)} {names : List String}, names.Pairwise (· < ·) →
      (kvs.foldl (fun names kv => insertName kv.1 names) names).Pairwise (· < ·)
  | [], _, h => h
  | kv :: rest, names, h => by
    rw [List.foldl_cons]
    exact foldl_insertName_pairwise (insertName_pairwise h)

/-- The column names are the keys of the rows. -/
theorem mem_keyNames {x : String} (cells : List (List (String × Literal))) :
    x ∈ keyNames cells ↔ ∃ kvs ∈ cells, ∃ kv ∈ kvs, kv.1 = x := by
  -- the names gathered from the rows read so far, for any rows still to come
  suffices h : ∀ (names : List String),
      x ∈ cells.foldl (fun names row => row.foldl (fun names kv => insertName kv.1 names) names)
        names ↔ x ∈ names ∨ ∃ kvs ∈ cells, ∃ kv ∈ kvs, kv.1 = x by
    unfold keyNames
    simpa using h []
  induction cells with
  | nil => simp
  | cons kvs rest ih =>
    intro names
    rw [List.foldl_cons, ih, mem_foldl_insertName]
    simp only [List.mem_cons, exists_eq_or_imp]
    exact or_assoc

/-- The column names are sorted, each once. -/
theorem keyNames_pairwise (cells : List (List (String × Literal))) :
    (keyNames cells).Pairwise (· < ·) := by
  suffices h : ∀ (names : List String), names.Pairwise (· < ·) →
      (cells.foldl (fun names row => row.foldl (fun names kv => insertName kv.1 names) names)
        names).Pairwise (· < ·) from h [] List.Pairwise.nil
  induction cells with
  | nil => exact fun _ h => h
  | cons kvs rest ih => exact fun _ h => ih _ (foldl_insertName_pairwise h)

/-! ## The table -/

/-- Looking a key up after mapping the values. -/
theorem lookup_map_snd {β γ : Type} (f : β → γ) (k : String) :
    ∀ (fields : List (String × β)),
      (fields.map fun kv => (kv.1, f kv.2)).lookup k = (fields.lookup k).map f
  | [] => rfl
  | (k', b) :: rest => by
    rw [List.map_cons, List.lookup_cons, List.lookup_cons]
    cases k == k'
    · exact lookup_map_snd f k rest
    · rfl

theorem isSome_lookup_iff {β : Type} {k : String} {fields : List (String × β)} :
    (fields.lookup k).isSome ↔ ∃ kv ∈ fields, kv.1 = k := by
  rw [← Option.ne_none_iff_isSome, Ne, List.lookup_eq_none_iff]
  simp only [bne_iff_ne, ne_eq, not_forall, not_not, exists_prop]
  exact ⟨fun ⟨kv, hkv, hk⟩ => ⟨kv, hkv, hk.symm⟩, fun ⟨kv, hkv, hk⟩ => ⟨kv, hkv, hk.symm⟩⟩

/-- The cell of a key in the cells of a row is the row's cell under the key. -/
theorem RowCells.getD_lookup {row : Json} {kvs : List (String × Literal)} (h : RowCells row kvs)
    (k : String) : (kvs.lookup k).getD .null = row.cellAt k := by
  obtain ⟨fields, rfl, -, rfl⟩ := h
  rw [lookup_map_snd]
  rfl

/-- The keys of the cells of a row are the row's keys. -/
theorem RowCells.exists_key_iff {row : Json} {kvs : List (String × Literal)} (h : RowCells row kvs)
    (k : String) : (∃ kv ∈ kvs, kv.1 = k) ↔ (row.field? k).isSome := by
  obtain ⟨fields, rfl, -, rfl⟩ := h
  rw [← isSome_lookup_iff, lookup_map_snd, Option.isSome_map]
  rfl

/-- What a table loaded from `rows` holds. -/
structure LoadedFrom (rows : List Json) (t : Table) : Prop where
  /-- One row per JSON row. -/
  rows_eq : t.rows = rows.length
  /-- The column names are sorted, each once. -/
  names_sorted : t.columnNames.Pairwise (· < ·)
  /-- The column names are the keys that occur in some row. -/
  mem_columnNames : ∀ k, k ∈ t.columnNames ↔ ∃ row ∈ rows, (row.field? k).isSome
  /-- A column holds the cell of each row under its key. -/
  column?_eq : ∀ k ∈ t.columnNames, t.column? k = some (rows.map (·.cellAt k))
  /-- A row written back as JSON has every column, in order, with the row's cell. -/
  rowJson_eq : ∀ i (hi : i < rows.length),
    t.rowJson i = some (.obj (t.columnNames.map fun k => (k, Cell.toJson (rows[i].cellAt k))))
  /-- There is no row past the last one. -/
  rowJson_none : ∀ i, rows.length ≤ i → t.rowJson i = none

/-- A table read from rows whose cells are `cells`. -/
theorem ofJsonRows_of_rowsCells {rows : List Json} {cells : List (List (String × Literal))}
    (h : rowsCells [] 0 rows = .ok cells) :
    ofJsonRows rows = .ok { rows := rows.length, columns := (keyNames cells).map fun name =>
      (name, cells.map fun row => (row.lookup name).getD .null) } := by
  simp only [ofJsonRows, h]
  rfl

/-- The table read from rows that all load. -/
theorem loadedFrom_of_forall₂ {rows : List Json} {cells : List (List (String × Literal))}
    (hrel : List.Forall₂ RowCells rows cells) :
    LoadedFrom rows { rows := rows.length, columns := (keyNames cells).map fun name =>
      (name, cells.map fun row => (row.lookup name).getD .null) } := by
  -- each column, read off the cells, is the column of cells of the rows
  have hcolumn : ∀ name, (cells.map fun row => (row.lookup name).getD .null) =
      rows.map (·.cellAt name) := by
    intro name
    induction hrel with
    | nil => rfl
    | cons hrow _ ih => rw [List.map_cons, List.map_cons, ih, hrow.getD_lookup]
  have hnames : columnNames { rows := rows.length, columns := (keyNames cells).map fun name =>
      (name, cells.map fun row => (row.lookup name).getD .null) } = keyNames cells := by
    simp [columnNames, Function.comp_def]
  refine ⟨rfl, by rw [hnames]; exact keyNames_pairwise cells, ?_, ?_, ?_, ?_⟩
  · intro k
    rw [hnames, mem_keyNames]
    clear hcolumn hnames
    induction hrel with
    | nil => simp
    | cons hrow _ ih => simp only [List.mem_cons, exists_eq_or_imp, ih, hrow.exists_key_iff]
  · intro k hk
    rw [hnames] at hk
    simp only [column?, List.lookup_graph _ hk, hcolumn]
  · intro i hi
    simp only [rowJson, if_pos hi, hnames, List.map_map]
    congr 2
    apply List.map_congr_left
    intro name _
    simp only [Function.comp, hcolumn]
    rw [List.getD_eq_getElem _ _ (by simpa using hi), List.getElem_map]
  · intro i hi
    simp only [rowJson, if_neg (Nat.not_lt.2 hi)]

/-- Loading succeeds exactly when every row is an object of cells. -/
theorem ofJsonRows_ok_iff (rows : List Json) :
    (∃ t, ofJsonRows rows = .ok t) ↔ ∀ row ∈ rows, RowLoads row := by
  constructor
  · rintro ⟨t, ht⟩
    simp only [ofJsonRows] at ht
    cases hcells : rowsCells [] 0 rows with
    | error e => rw [hcells] at ht; cases ht
    | ok cells =>
      obtain ⟨rest, hrel, -⟩ := rowsCells_eq_ok_iff.1 hcells
      clear hcells ht
      intro row hrow
      induction hrel with
      | nil => cases hrow
      | cons hkvs _ ih =>
        rcases List.mem_cons.1 hrow with rfl | hrow
        · exact rowLoads_iff_exists_rowCells.2 ⟨_, hkvs⟩
        · exact ih hrow
  · intro hall
    -- every row reads to its cells
    obtain ⟨rest, hrel⟩ : ∃ rest, List.Forall₂ RowCells rows rest := by
      induction rows with
      | nil => exact ⟨[], .nil⟩
      | cons row rows ih =>
        obtain ⟨kvs, hkvs⟩ := rowLoads_iff_exists_rowCells.1 (hall row List.mem_cons_self)
        obtain ⟨rest, hrel⟩ := ih (fun r hr => hall r (List.mem_cons_of_mem _ hr))
        exact ⟨kvs :: rest, .cons hkvs hrel⟩
    exact ⟨_, ofJsonRows_of_rowsCells (rowsCells_eq_ok_iff.2 ⟨rest, hrel, rfl⟩)⟩

/-- A table that loads holds the rows' cells, column by column. -/
theorem loadedFrom_of_ofJsonRows {rows : List Json} {t : Table} (h : ofJsonRows rows = .ok t) :
    LoadedFrom rows t := by
  simp only [ofJsonRows] at h
  cases hcells : rowsCells [] 0 rows with
  | error e => rw [hcells] at h; cases h
  | ok cells =>
    rw [hcells] at h
    cases h
    obtain ⟨rest, hrel, rfl⟩ := rowsCells_eq_ok_iff.1 hcells
    simpa using loadedFrom_of_forall₂ hrel

/-- Loading fails at the first row that does not load, with that row's message. -/
theorem ofJsonRows_eq_error {rows : List Json} (hsorted : ∀ row ∈ rows, row.KeysSorted)
    {e : EmitError} (h : ofJsonRows rows = .error e) :
    ∃ i msg, (∀ row ∈ rows.take i, RowLoads row) ∧
      (∃ row, rows[i]? = some row ∧ RowFails row msg) ∧ e = .invalidRow i msg := by
  simp only [ofJsonRows] at h
  cases hcells : rowsCells [] 0 rows with
  | ok cells => rw [hcells] at h; cases h
  | error e' =>
    rw [hcells] at h
    cases h
    simpa using rowsCells_eq_error hsorted hcells

/-- What loading does on every list of rows whose objects list their keys sorted: it succeeds
    exactly when every row is an object of cells, and then gives the table of the rows' cells,
    column by column; otherwise it reports the first row that does not load, with that row's
    message. -/
theorem ofJsonRows_loadedFrom_or_firstFailure (rows : List Json)
    (hsorted : ∀ row ∈ rows, row.KeysSorted) :
    ((∃ t, ofJsonRows rows = .ok t) ↔ ∀ row ∈ rows, RowLoads row) ∧
    (∀ t, ofJsonRows rows = .ok t → LoadedFrom rows t) ∧
    (∀ e, ofJsonRows rows = .error e →
      ∃ i msg, (∀ row ∈ rows.take i, RowLoads row) ∧
        (∃ row, rows[i]? = some row ∧ RowFails row msg) ∧ e = .invalidRow i msg) :=
  ⟨ofJsonRows_ok_iff rows, fun _ => loadedFrom_of_ofJsonRows, fun _ => ofJsonRows_eq_error hsorted⟩

theorem ofJsonRows_loadedFrom_or_firstFailure_nested_value :
    (∀ row ∈ [Json.obj [("a", .int 1), ("b", .str "x")], .obj [("a", .arr [.int 1]), ("c", .null)]],
      row.KeysSorted) ∧
    (((∃ t, ofJsonRows [.obj [("a", .int 1), ("b", .str "x")],
        .obj [("a", .arr [.int 1]), ("c", .null)]] = .ok t) ↔
      ∀ row ∈ [Json.obj [("a", .int 1), ("b", .str "x")], .obj [("a", .arr [.int 1]), ("c", .null)]],
        RowLoads row) ∧
    (∀ t, ofJsonRows [.obj [("a", .int 1), ("b", .str "x")],
        .obj [("a", .arr [.int 1]), ("c", .null)]] = .ok t →
      LoadedFrom [.obj [("a", .int 1), ("b", .str "x")], .obj [("a", .arr [.int 1]), ("c", .null)]] t) ∧
    (∀ e, ofJsonRows [.obj [("a", .int 1), ("b", .str "x")],
        .obj [("a", .arr [.int 1]), ("c", .null)]] = .error e →
      ∃ i msg, (∀ row ∈ [Json.obj [("a", .int 1), ("b", .str "x")],
          .obj [("a", .arr [.int 1]), ("c", .null)]].take i, RowLoads row) ∧
        (∃ row, [Json.obj [("a", .int 1), ("b", .str "x")],
          .obj [("a", .arr [.int 1]), ("c", .null)]][i]? = some row ∧ RowFails row msg) ∧
        e = .invalidRow i msg)) := by
  have hsorted : ∀ row ∈ [Json.obj [("a", .int 1), ("b", .str "x")],
      .obj [("a", .arr [.int 1]), ("c", .null)]], row.KeysSorted := by
    simp only [List.mem_cons, List.not_mem_nil, or_false, forall_eq_or_imp, forall_eq,
      Json.keysSorted_obj]
    decide
  exact ⟨hsorted, ofJsonRows_loadedFrom_or_firstFailure _ hsorted⟩

end Table

end FilterQuery

import FilterQuery.Proofs.DocumentStore
import FilterQuery.Proofs.MaskChecks
import FilterQuery.Proofs.TableRows
import FilterQuery.Proofs.FieldOrder

/-!
# Masks and filter documents agree row by row

A predicate can be evaluated two ways: as a mask over a table (`Mask.evaluate`), or written
as a filter document (`Document.emit`) that a document store checks against each row
(`Document.satisfies`). This module shows that the two agree on every row, for every
predicate and every list of JSON rows, when the values involved are ones the two readings
share:
* every cell of a row is `null`, a boolean, an integer within `±2^53`, a finite float, a text
  or a `{"$date": …}` object in RFC 3339 (`Document.MirroredRow`);
* every literal of the predicate is exact: its JSON is read back as itself, which for a
  date-time means whole milliseconds and a year of four digits (`Document.ExactLiteral`);
* no field starts with `$`, which a document would read as an operator; no ordering test or
  `BETWEEN` has a `NULL` end, which neither reading accepts; every `LIKE` pattern compiles
  (`Document.LeafReady`).
The table is the one the rows load into, with an all-`NULL` column added for each field of
the predicate that no row has (`Table.withNullColumns`).

Outside these values the readings part: the document holds a date-time cut to milliseconds
and the mask the whole one, the mask turns an integer beyond `2^53` into the nearest float
where the store compares exact values, and a year outside 0 to 9999 is written in a form the
store cannot read.

## Key results
- `Table.withNullColumns_eq_ok`: adding the missing columns keeps every cell
- `Document.satisfies_emitLeaf`: a leaf's document tests a row's value as the mask tests its
  cell
- `Document.satisfies_emit`: the document of a predicate holds of a row exactly when the
  predicate holds of the row's cells
- `Mask.evaluate_eq_satisfies`: the mask lists, row by row, whether the row satisfies the
  document
-/

namespace FilterQuery

open Query Document

/-! ## Adding the columns a predicate needs -/

namespace Table

/-- The table with an all-`NULL` column added for each of `fields` it lacks, one field after
    another. -/
def withNullColumns (t : Table) : List String → Except EmitError Table
  | [] => .ok t
  | f :: rest =>
    match t.column? f with
    | some _ => t.withNullColumns rest
    | none =>
      match t.withColumn f (List.replicate t.rows .null) with
      | .ok t' => t'.withNullColumns rest
      | .error e => .error e

theorem lookup_cons_of_ne {k k' : String} {c : List Literal} {rest : List (String × List Literal)}
    (h : k ≠ k') : ((k', c) :: rest).lookup k = rest.lookup k := by
  simp [List.lookup_cons, beq_false_of_ne h]

/-- Setting a column answers for its name and leaves the other names as they were. -/
theorem lookup_setColumn (name k : String) (cells : List Literal) :
    ∀ cols : List (String × List Literal),
      (setColumn cols name cells).lookup k = if k = name then some cells else cols.lookup k
  | [] => by
    unfold setColumn
    by_cases hk : k = name
    · subst hk
      simp
    · rw [if_neg hk, lookup_cons_of_ne hk]
  | (k', c) :: rest => by
    unfold setColumn
    by_cases hk : k = name
    · subst hk
      rw [if_pos rfl]
      split_ifs with hlt hname
      · simp
      · simp
      · rw [lookup_cons_of_ne hname, lookup_setColumn k k cells rest, if_pos rfl]
    · rw [if_neg hk]
      split_ifs with hlt hname
      · rw [lookup_cons_of_ne hk]
      · subst hname
        rw [lookup_cons_of_ne hk, lookup_cons_of_ne hk]
      · -- the column goes after `k'`
        by_cases hk' : k = k'
        · subst hk'
          simp
        · rw [lookup_cons_of_ne hk', lookup_cons_of_ne hk', lookup_setColumn name k cells rest,
            if_neg hk]

/-- A column of `NULL`s, one per row, is always accepted. -/
theorem withColumn_nulls (t : Table) (f : String) :
    t.withColumn f (List.replicate t.rows .null) =
      .ok { rows := t.rows, columns := setColumn t.columns f (List.replicate t.rows .null) } := by
  -- an empty table takes its row count from the new column, which is its own count
  have hrows : (if t.columns.isEmpty && t.rows == 0 then (List.replicate t.rows Literal.null).length
      else t.rows) = t.rows := by
    split <;> simp
  unfold withColumn
  dsimp only
  rw [hrows, if_pos List.length_replicate]

/-- Adding a column of `NULL`s where the table had none changes no cell. -/
theorem cell_setColumn_nulls {t : Table} {f : String} (hnone : t.column? f = none)
    (g : String) (i : Nat) :
    cell { rows := t.rows, columns := setColumn t.columns f (List.replicate t.rows .null) } g i =
      t.cell g i := by
  simp only [cell, column?, lookup_setColumn]
  split_ifs with hg
  · subst hg
    rw [column?] at hnone
    simp [hnone, List.getD_eq_getElem?_getD]
  · rfl

/-- Adding the missing columns succeeds, keeps the row count, one cell per row and every
    cell, and leaves a column for each field. -/
theorem withNullColumns_eq_ok {t : Table} (ht : t.WellFormed) :
    ∀ fields : List String, ∃ t', t.withNullColumns fields = .ok t' ∧ t'.rows = t.rows ∧
      t'.WellFormed ∧ (∀ f ∈ fields, (t'.column? f).isSome) ∧
      (∀ f, (t.column? f).isSome → (t'.column? f).isSome) ∧ ∀ g i, t'.cell g i = t.cell g i
  | [] => ⟨t, rfl, rfl, ht, by simp, fun _ h => h, fun _ _ => rfl⟩
  | f :: rest => by
    cases hcol : t.column? f with
    | some cells =>
      obtain ⟨t', heq, hrows, hwf, hnames, hkeep, hcells⟩ := withNullColumns_eq_ok ht rest
      refine ⟨t', by rw [withNullColumns, hcol]; exact heq, hrows, hwf, ?_, hkeep, hcells⟩
      intro g hg
      rcases List.mem_cons.1 hg with rfl | hg
      · exact hkeep g (by rw [hcol]; rfl)
      · exact hnames g hg
    | none =>
      have hadd := withColumn_nulls t f
      obtain ⟨t', heq, hrows, hwf, hnames, hkeep, hcells⟩ :=
        withNullColumns_eq_ok (ht.withColumn hadd) rest
      have hnew : ∀ g, (t.column? g).isSome →
          (column? ⟨t.rows, setColumn t.columns f (List.replicate t.rows .null)⟩ g).isSome := by
        intro g hg
        simp only [column?, lookup_setColumn]
        split_ifs <;> simp_all [column?]
      refine ⟨t', by rw [withNullColumns, hcol, hadd]; exact heq, hrows, hwf, ?_,
        fun g hg => hkeep g (hnew g hg), fun g i => by rw [hcells, cell_setColumn_nulls hcol]⟩
      intro g hg
      rcases List.mem_cons.1 hg with rfl | hg
      · exact hkeep g (by simp [column?, lookup_setColumn])
      · exact hnames g hg

end Table

/-! ## Leaves -/

namespace Document

/-- A field name that a document does not read as an operator: it does not start with `$`. -/
def PlainField (field : String) : Prop := field.startsWith "$" = false

/-- What the agreement asks of a leaf: its field is plain, its literals are exact, an ordering
    test or a `BETWEEN` has no `NULL` end, and a `LIKE` pattern compiles. -/
def LeafReady : Predicate → Prop
  | .compare f op v => PlainField f ∧ ExactLiteral v ∧ (op.isOrdering = true → v ≠ .null)
  | .between f lo hi _ =>
    PlainField f ∧ ExactLiteral lo ∧ ExactLiteral hi ∧ lo ≠ .null ∧ hi ≠ .null
  | .member f vs _ => PlainField f ∧ ∀ v ∈ vs, ExactLiteral v
  | .like f pattern _ => PlainField f ∧ ∃ node, Regex.compile pattern = .ok node
  | .isNull f _ => PlainField f
  | _ => True

/-- A row the store and the table read alike: an object whose every value mirrors a cell. -/
def MirroredRow (row : Json) : Prop :=
  ∃ fields, row = .obj fields ∧ ∀ kv ∈ fields, ∃ c, Mirrors kv.2 c

/-- Each field of row `i` of a table holds the cell that the row's value there mirrors. -/
def RowMirrors (row : Json) (t : Table) (i : Nat) : Prop :=
  ∀ f, Mirrors (cellOf row f) (t.cell f i)

theorem isNull_eq_false {v : Literal} (h : v ≠ .null) : v.isNull = false := by
  cases v <;> simp_all [Literal.isNull]

theorem equals_null (c : Literal) : Cell.equals c .null = c.isNull := by
  cases c <;> rfl

/-- The two halves of a `BETWEEN`, as the document's operators and as the mask's test. -/
theorem gte_eq_any (o : Option Ordering) :
    (o == some .gt || o == some .eq) = o.any (· != .lt) := by
  rcases o with _ | _ | _ | _ <;> rfl

theorem lte_eq_any (o : Option Ordering) :
    (o == some .lt || o == some .eq) = o.any (· != .gt) := by
  rcases o with _ | _ | _ | _ <;> rfl

theorem any_equal_eq_any_equals {j : Json} {c : Literal} (hj : Mirrors j c) :
    ∀ {vs : List Literal}, (∀ v ∈ vs, ExactLiteral v) →
      (vs.map Cell.toJson).any (equal j) = vs.any (Cell.equals c)
  | [], _ => rfl
  | v :: rest, h => by
    rw [List.map_cons, List.any_cons, List.any_cons,
      equal_eq_equals hj (mirrors_toJson (h v List.mem_cons_self)),
      any_equal_eq_any_equals hj fun w hw => h w (List.mem_cons_of_mem _ hw)]

/-- A `$`-operator other than `$date`. -/
theorem operator_key {op : String} (h : op ∈ ["$ne", "$gt", "$lt", "$gte", "$lte", "$in", "$nin",
    "$regex", "$not"]) : op.startsWith "$" = true ∧ op ≠ "$date" := by
  simp only [List.mem_cons, List.not_mem_nil, or_false] at h
  rcases h with rfl | rfl | rfl | rfl | rfl | rfl | rfl | rfl | rfl <;> simp

/-- A negated test wraps its operators in `$not`. -/
theorem passes_negateIf {cell : Json} (n : Bool) (ops : Json) :
    passes cell (negateIf n ops) = (passes cell ops != n) := by
  cases n with
  | false => simp [negateIf]
  | true =>
    obtain ⟨hop, hdate⟩ := @operator_key "$not" (by simp)
    simp [negateIf, passes_operator hop hdate, passesAll]

/-- A comparison other than equality is emitted as its one operator. -/
theorem emitLeaf_compare {f : String} {op : CompareOp} {v : Literal} (hop : op ≠ .eq)
    (hemit : (op.isOrdering && v.isNull) = false) :
    emitLeaf (.compare f op v) = .ok (fieldDoc f (.obj [(compareKey op, Cell.toJson v)])) := by
  cases op <;> simp_all [emitLeaf]

/-- The document of a leaf tests the row's value under the leaf's field as the mask tests the
    cell it mirrors. -/
theorem satisfies_emitLeaf {q : Predicate} {f : String} (hf : q.field? = some f)
    (hq : LeafReady q) :
    ∃ doc, Document.emitLeaf q = .ok doc ∧ ∀ (row : Json) (t : Table) (i : Nat),
      Mirrors (cellOf row f) (t.cell f i) → satisfies row doc = Mask.rowLeaf t i q := by
  cases q with
  | compare g op v =>
    cases hf
    obtain ⟨hplain, hv, hnull⟩ := hq
    have hmv := mirrors_toJson hv
    -- an ordering test has a value other than `NULL`, so every operator is emitted
    have hemit : (op.isOrdering && v.isNull) = false := by
      cases hop : op.isOrdering
      · rfl
      · simp [isNull_eq_false (hnull hop)]
    by_cases hop : op = .eq
    · subst hop
      refine ⟨fieldDoc f (Cell.toJson v), by simp [emitLeaf, hemit], fun row t i hc => ?_⟩
      rw [satisfies_fieldDoc hplain, passes_of_mirrors hmv, equal_eq_equals hc hmv]
      rfl
    · refine ⟨_, emitLeaf_compare hop hemit, fun row t i hc => ?_⟩
      obtain ⟨hkey, hdate⟩ := @operator_key (compareKey op) (by cases op <;> simp_all [compareKey])
      rw [satisfies_fieldDoc hplain, passes_operator hkey hdate]
      cases op <;> simp_all [passesAll, compareKey, Mask.rowLeaf, Mask.compareCell,
        order?_eq_compare? hc hmv, equal_eq_equals hc hmv]
  | between g lo hi n =>
    cases hf
    obtain ⟨hplain, hlo, hhi, hlo0, hhi0⟩ := hq
    obtain ⟨hop, hdate⟩ := @operator_key "$gte" (by simp)
    refine ⟨fieldDoc f (negateIf n (.obj [("$gte", Cell.toJson lo), ("$lte", Cell.toJson hi)])),
      by simp [emitLeaf, isNull_eq_false hlo0, isNull_eq_false hhi0], fun row t i hc => ?_⟩
    rw [satisfies_fieldDoc hplain, passes_negateIf]
    simp [passes, isOperators, passesAll, Mask.rowLeaf,
      order?_eq_compare? hc (mirrors_toJson hlo), order?_eq_compare? hc (mirrors_toJson hhi),
      gte_eq_any, lte_eq_any]
  | member g vs n =>
    cases hf
    obtain ⟨hplain, hvs⟩ := hq
    refine ⟨_, rfl, fun row t i hc => ?_⟩
    rw [satisfies_fieldDoc hplain]
    cases n with
    | false =>
      obtain ⟨hop, hdate⟩ := @operator_key "$in" (by simp)
      simp [passes_operator hop hdate, passesAll, items, Json.arr?, Mask.rowLeaf,
        any_equal_eq_any_equals hc hvs]
    | true =>
      obtain ⟨hop, hdate⟩ := @operator_key "$nin" (by simp)
      simp [passes_operator hop hdate, passesAll, items, Json.arr?, Mask.rowLeaf,
        any_equal_eq_any_equals hc hvs]
  | like g pattern n =>
    cases hf
    obtain ⟨hplain, -⟩ := hq
    obtain ⟨hop, hdate⟩ := @operator_key "$regex" (by simp)
    refine ⟨_, rfl, fun row t i hc => ?_⟩
    rw [satisfies_fieldDoc hplain, passes_negateIf, passes_operator hop hdate]
    simp only [passesAll, Bool.and_true, Mask.rowLeaf]
    -- a text cell is a JSON string, and the pattern is compiled the same way
    generalize cellOf row f = j at hc ⊢
    generalize t.cell f i = c at hc ⊢
    cases hc with
    | text s =>
      simp only [regexHolds]
      cases Regex.compile pattern <;> rfl
    | _ => simp [regexHolds]
  | isNull g n =>
    cases hf
    refine ⟨_, rfl, fun row t i hc => ?_⟩
    rw [satisfies_fieldDoc hq]
    cases n with
    | false =>
      rw [if_neg Bool.false_ne_true, passes_of_mirrors .null, equal_eq_equals hc .null,
        equals_null]
      simp [Mask.rowLeaf]
    | true =>
      obtain ⟨hop, hdate⟩ := @operator_key "$ne" (by simp)
      rw [if_pos rfl, passes_operator hop hdate]
      simp [passesAll, equal_eq_equals hc .null, equals_null, Mask.rowLeaf]
  | const | junction | negation => simp [Predicate.field?] at hf


/-! ## Whole predicates -/

section Tree

variable (style : NegationStyle)

/-- A leaf's document, as `emit` gives it, holds of a row when the leaf holds of its cell. -/
theorem satisfies_emit_of_leaf {q : Predicate} {f : String} (hf : q.field? = some f)
    (hq : LeafReady q) (hemit : emit style q = emitLeaf q) :
    ∃ doc, emit style q = .ok doc ∧ ∀ (row : Json) (t : Table) (i : Nat), RowMirrors row t i →
      satisfies row doc = q.eval (Mask.rowLeaf t i) := by
  obtain ⟨doc, hdoc, hagree⟩ := satisfies_emitLeaf hf hq
  refine ⟨doc, hemit.trans hdoc, fun row t i hrow => ?_⟩
  rw [hagree row t i (hrow f), Predicate.eval_of_field? _ hf]

mutual

/-- The document of a predicate whose leaves are ready is emitted, and holds of a row exactly
    when the predicate holds of the cells the row's values mirror; both negation styles
    agree. -/
theorem satisfies_emit : ∀ (p : Predicate), (∀ q ∈ p.leaves, LeafReady q) →
    ∃ doc, emit style p = .ok doc ∧ ∀ (row : Json) (t : Table) (i : Nat), RowMirrors row t i →
      satisfies row doc = p.eval (Mask.rowLeaf t i)
  | .const true, _ => ⟨_, rfl, fun _ _ _ _ => rfl⟩
  | .const false, _ => ⟨_, rfl, fun _ _ _ _ => rfl⟩
  | .junction conn children, h => by
    obtain ⟨docs, hdocs, hall⟩ := verdictsList_emitChildren children (by simpa using h)
    cases conn with
    | and =>
      refine ⟨.obj [("$and", .arr docs)], by simp [emit, hdocs], fun row t i hrow => ?_⟩
      rw [satisfies_and, hall row t i hrow, Predicate.eval_junction, Predicate.evalAll_eq]
      simp
    | or =>
      refine ⟨.obj [("$or", .arr docs)], by simp [emit, hdocs], fun row t i hrow => ?_⟩
      rw [satisfies_or, hall row t i hrow, Predicate.eval_junction, Predicate.evalAll_eq]
      simp
  | .negation child, h => by
    obtain ⟨doc, hdoc, hagree⟩ := satisfies_emit child (by simpa using h)
    cases style with
    | not =>
      refine ⟨.obj [("$not", doc)], by simp [emit, hdoc], fun row t i hrow => ?_⟩
      rw [satisfies_not, hagree row t i hrow, Predicate.eval_negation]
    | nor =>
      refine ⟨.obj [("$nor", .arr [doc])], by simp [emit, hdoc], fun row t i hrow => ?_⟩
      rw [satisfies_nor, hagree row t i hrow, Predicate.eval_negation]
  | .compare _ _ _, h => satisfies_emit_of_leaf style rfl (h _ (by simp [Predicate.leaves])) rfl
  | .between _ _ _ _, h => satisfies_emit_of_leaf style rfl (h _ (by simp [Predicate.leaves])) rfl
  | .member _ _ _, h => satisfies_emit_of_leaf style rfl (h _ (by simp [Predicate.leaves])) rfl
  | .like _ _ _, h => satisfies_emit_of_leaf style rfl (h _ (by simp [Predicate.leaves])) rfl
  | .isNull _ _, h => satisfies_emit_of_leaf style rfl (h _ (by simp [Predicate.leaves])) rfl

/-- The documents of a junction's children, each holding of a row as its child does. -/
theorem verdictsList_emitChildren : ∀ (children : List Predicate),
    (∀ q ∈ Predicate.leavesAll children, LeafReady q) →
    ∃ docs, emitChildren style children = .ok docs ∧ ∀ (row : Json) (t : Table) (i : Nat),
      RowMirrors row t i → verdictsList row docs = children.map (·.eval (Mask.rowLeaf t i))
  | [], _ => ⟨[], rfl, fun _ _ _ _ => rfl⟩
  | p :: rest, h => by
    obtain ⟨doc, hdoc, hagree⟩ := satisfies_emit p fun q hq => h q (by simp [hq])
    obtain ⟨docs, hdocs, hall⟩ := verdictsList_emitChildren rest fun q hq => h q (by simp [hq])
    refine ⟨doc :: docs, by simp [emitChildren, hdoc, hdocs], fun row t i hrow => ?_⟩
    rw [verdictsList, hagree row t i hrow, hall row t i hrow, List.map_cons]

end

end Tree

/-! ## Rows and tables -/

/-- A mirrored row holds, under every field, the value that mirrors the cell the table reads
    from it. -/
theorem MirroredRow.mirrors_cellAt {row : Json} (h : MirroredRow row) (f : String) :
    Mirrors (cellOf row f) (row.cellAt f) := by
  obtain ⟨fields, rfl, hcells⟩ := h
  cases hk : fields.lookup f with
  | none =>
    rw [cellOf, Json.cellAt_of_field?_none (by simp [Json.field?, hk])]
    simpa [Json.field?, hk] using Mirrors.null
  | some j =>
    obtain ⟨pre, post, hsplit, -⟩ := List.lookup_eq_some_iff.1 hk
    obtain ⟨c, hc⟩ := hcells (f, j) (by simp [hsplit])
    rw [cellOf, Json.cellAt_of_field? (by simp [Json.field?, hk]) hc.ofJson]
    simpa [Json.field?, hk] using hc

theorem MirroredRow.rowLoads {row : Json} (h : MirroredRow row) : Table.RowLoads row := by
  obtain ⟨fields, rfl, hcells⟩ := h
  refine ⟨fields, rfl, fun kv hkv => ?_⟩
  obtain ⟨c, hc⟩ := hcells kv hkv
  exact ⟨c, hc.ofJson⟩

/-- A table loaded from rows holds, at each row, the row's cell under every field: `NULL`
    for a field no row has. -/
theorem cell_of_loadedFrom {rows : List Json} {t : Table} (h : Table.LoadedFrom rows t)
    {i : Nat} (hi : i < rows.length) (f : String) : t.cell f i = rows[i].cellAt f := by
  by_cases hf : f ∈ t.columnNames
  · rw [Table.cell, h.column?_eq f hf, Option.getD_some, List.getD_eq_getElem _ _ (by simpa),
      List.getElem_map]
  · -- no row has the field, and the table has no column for it
    have hnone : t.column? f = none := by
      simp only [Table.column?, List.lookup_eq_none_iff, bne_iff_ne, ne_eq]
      intro col hcol hname
      exact hf (List.mem_map.2 ⟨col, hcol, hname.symm⟩)
    have hrow : rows[i].field? f = none := by
      by_contra hsome
      exact hf ((h.mem_columnNames f).2 ⟨rows[i], List.getElem_mem _,
        Option.ne_none_iff_isSome.1 hsome⟩)
    rw [Table.cell, hnone, Json.cellAt_of_field?_none hrow]
    rfl

/-- A field that a leaf of a predicate tests is among the predicate's fields. -/
theorem mem_fields_of_leaf {p q : Predicate} {f : String} (hq : q ∈ p.leaves)
    (hf : q.field? = some f) : f ∈ p.fields := by
  rw [Predicate.fields, Predicate.collectFields_eq_eraseDups p List.nodup_nil, List.mem_eraseDups,
    List.nil_append, List.mem_filterMap]
  exact ⟨q, hq, hf⟩

/-- A ready leaf whose field has a column passes every check before evaluation. -/
theorem leafError_eq_none {t : Table} {q : Predicate} (hq : LeafReady q)
    (hcol : ∀ f, q.field? = some f → (t.column? f).isSome) : Mask.leafError t q = none := by
  have hfield : ∀ f, q.field? = some f → Mask.fieldError t f = none := fun f hf => by
    simp [Mask.fieldError, hcol f hf]
  cases q with
  | compare f op v =>
    obtain ⟨-, -, hnull⟩ := hq
    have hcheck : (op.isOrdering && v.isNull) = false := by
      cases hop : op.isOrdering
      · rfl
      · simp [isNull_eq_false (hnull hop)]
    simp [Mask.leafError, hcheck, hfield f rfl]
  | between f lo hi n =>
    obtain ⟨-, -, -, hlo, hhi⟩ := hq
    simp [Mask.leafError, isNull_eq_false hlo, isNull_eq_false hhi, hfield f rfl]
  | like f pattern n =>
    obtain ⟨-, node, hnode⟩ := hq
    simp [Mask.leafError, hnode, hfield f rfl]
  | member f vs n => exact hfield f rfl
  | isNull f n => exact hfield f rfl
  | const | junction | negation => rfl

end Document

namespace Mask

/-- The mask of a predicate over the table of JSON rows, extended by an all-`NULL` column for
    each field of the predicate that no row has, lists row by row whether the row satisfies
    the predicate's filter document, in either negation style. This holds for every predicate
    whose leaves are ready (plain fields, exact literals, no `NULL` end to an ordering test or
    a `BETWEEN`, patterns that compile) and every list of rows whose values the store and the
    table read alike; the document is emitted, the table is built and the mask is computed. -/
theorem evaluate_eq_satisfies (style : NegationStyle) (p : Predicate) (rows : List Json)
    (hp : ∀ q ∈ p.leaves, LeafReady q) (hrows : ∀ row ∈ rows, MirroredRow row) :
    ∃ doc table, Document.emit style p = .ok doc ∧
      (Table.ofJsonRows rows >>= fun t => t.withNullColumns p.fields) = .ok table ∧
      evaluate p table = .ok (rows.map fun row => satisfies row doc) := by
  obtain ⟨doc, hdoc, hagree⟩ := satisfies_emit style p hp
  obtain ⟨t₀, hload⟩ := (Table.ofJsonRows_ok_iff rows).2 fun row hrow => (hrows row hrow).rowLoads
  have hfrom := Table.loadedFrom_of_ofJsonRows hload
  obtain ⟨t, hnull, hrowCount, hwf, hcols, -, hcells⟩ :=
    Table.withNullColumns_eq_ok (Table.wellFormed_ofJsonRows hload) p.fields
  -- every leaf passes its checks, so the patterns are compiled and the columns found
  have hnone : ∀ q ∈ p.leaves, leafError t q = none := fun q hq =>
    leafError_eq_none (hp q hq) fun f hf => hcols f (mem_fields_of_leaf hq hf)
  obtain ⟨pats, hpats, hgrows, -⟩ :=
    (prepare_prepares p (Grows.refl [])).ok (List.findSome?_eq_none_iff.2 hnone)
  have hfinal : ∀ k n, pats.lookup k = some n → Regex.compile k = .ok n := fun k n hk =>
    (hgrows.compiled k n hk).resolve_left (by simp)
  refine ⟨doc, t, hdoc, by rw [hload]; exact hnull, ?_⟩
  rw [evaluate_of_prepare hpats, eval_eq_rows hwf hfinal p hpats fun _ _ h => h]
  congr 1
  apply List.ext_getElem (by simp [hrowCount, hfrom.rows_eq])
  intro i h₁ h₂
  -- row `i` of the table holds the cells of `rows[i]`
  have hi : i < rows.length := by simpa using h₂
  rw [List.getElem_map, List.getElem_map, List.getElem_range, evalRow,
    hagree rows[i] t i fun f => ?_]
  rw [hcells, cell_of_loadedFrom hfrom hi]
  exact (hrows _ (List.getElem_mem hi)).mirrors_cellAt f

theorem evaluate_eq_satisfies_negated_like :
    (∀ q ∈ (Predicate.junction .and [.compare "x" .ge (.int 2),
        .negation (.like "name" "^a" false), .isNull "y" false]).leaves, LeafReady q) ∧
    (∀ row ∈ [Json.obj [("name", .str "ab"), ("x", .int 3)],
        Json.obj [("name", .str "b"), ("x", .int 5)]], MirroredRow row) ∧
    ∃ doc table, Document.emit .nor (Predicate.junction .and [.compare "x" .ge (.int 2),
        .negation (.like "name" "^a" false), .isNull "y" false]) = .ok doc ∧
      (Table.ofJsonRows [Json.obj [("name", .str "ab"), ("x", .int 3)],
          Json.obj [("name", .str "b"), ("x", .int 5)]] >>= fun t =>
        t.withNullColumns (Predicate.junction .and [.compare "x" .ge (.int 2),
          .negation (.like "name" "^a" false), .isNull "y" false]).fields) = .ok table ∧
      evaluate (Predicate.junction .and [.compare "x" .ge (.int 2),
          .negation (.like "name" "^a" false), .isNull "y" false]) table =
        .ok ([Json.obj [("name", .str "ab"), ("x", .int 3)],
          Json.obj [("name", .str "b"), ("x", .int 5)]].map fun row => satisfies row doc) := by
  have hp : ∀ q ∈ (Predicate.junction .and [.compare "x" .ge (.int 2),
      .negation (.like "name" "^a" false), .isNull "y" false]).leaves, LeafReady q := by
    simp only [Predicate.leaves, Predicate.leavesAll, List.append_nil, List.singleton_append,
      List.mem_cons, List.not_mem_nil, or_false]
    rintro q (rfl | rfl | rfl)
    · exact ⟨by simp [PlainField], .number (.int (by norm_num)), by simp⟩
    · exact ⟨by simp [PlainField], _, rfl⟩
    · simp [LeafReady, PlainField]
  have hrows : ∀ row ∈ [Json.obj [("name", .str "ab"), ("x", .int 3)],
      Json.obj [("name", .str "b"), ("x", .int 5)]], MirroredRow row := by
    simp only [List.mem_cons, List.not_mem_nil, or_false]
    rintro row (rfl | rfl)
    all_goals
      refine ⟨_, rfl, ?_⟩
      simp only [List.mem_cons, List.not_mem_nil, or_false]
      rintro kv (rfl | rfl)
      exacts [⟨_, .text _⟩, ⟨_, .int (by norm_num)⟩]
  exact ⟨hp, hrows, evaluate_eq_satisfies .nor _ _ hp hrows⟩

end Mask

end FilterQuery

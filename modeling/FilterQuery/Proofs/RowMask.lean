import FilterQuery.Emit.Mask
import FilterQuery.Proofs.Valuation

/-!
# Column-at-a-time masks are row-by-row truth values

`Mask.evaluate` decides a predicate for all the rows of a table at once, one whole column at
a time. This module shows that the mask it returns lists, row by row, the truth value of the
predicate when each leaf tests that row's cell of its field (`Mask.evalRow`), on every table
whose columns have one cell per row (`Table.WellFormed`). Every table built from JSON rows or
from the empty table by adding columns one at a time is such a table.

Three parts of the evaluator rely on that shape or on the checks made before evaluation, and
each is shown to change no answer there:
* masks are joined by `zipWith`, which cuts the longer one short: all masks have one entry per
  row;
* a junction stops as soon as every row is decided: the rest could only join the deciding
  value to it;
* `LIKE` patterns are compiled once, before evaluation, and looked up by their text: every
  pattern of the tree is there, compiled from that text (`Mask.Grows`).

## Key results
- `Table.wellFormed_ofJsonRows`, `Table.WellFormed.withColumn`, `Table.Reachable.wellFormed`:
  the tables that can be built have one cell per row in every column
- `Mask.prepare_grows`: preparing a tree keeps the patterns compiled so far and compiles the
  rest from their text
- `Mask.eval_eq_rows`, `Mask.evalAll_eq_rows`: the mask of a prepared tree and of the children
  of a junction, early exit included
- `Mask.evaluate_eq_rows`: the mask of any predicate over any table that can be built
-/

namespace FilterQuery

open Query

namespace Table

/-- Every column has one cell per row. -/
def WellFormed (t : Table) : Prop := ∀ col ∈ t.columns, col.2.length = t.rows

/-- The tables built from the empty table or from JSON rows by adding columns one at a
    time. -/
inductive Reachable : Table → Prop
  | empty : Reachable {}
  | ofJsonRows {rows : List Json} {t : Table} : ofJsonRows rows = .ok t → Reachable t
  | withColumn {t t' : Table} {name : String} {cells : List Literal} :
      Reachable t → t.withColumn name cells = .ok t' → Reachable t'

/-- The cell of a field at a row; `NULL` where the table has no such column or row. -/
def cell (t : Table) (field : String) (i : Nat) : Literal :=
  ((t.column? field).getD []).getD i .null

theorem mem_of_lookup_eq_some {k : String} {v : List Literal} :
    ∀ {cols : List (String × List Literal)}, cols.lookup k = some v → (k, v) ∈ cols
  | [], h => by simp at h
  | (k', v') :: rest, h => by
    rw [List.lookup_cons] at h
    cases hk : k == k'
    · rw [hk] at h
      exact List.mem_cons_of_mem _ (mem_of_lookup_eq_some h)
    · rw [hk, Option.some.injEq] at h
      rw [beq_iff_eq.1 hk, h]
      exact List.mem_cons_self

/-- A column set by `setColumn` is the new one or one that was there. -/
theorem mem_setColumn {name : String} {cells : List Literal} {kc : String × List Literal} :
    ∀ {cols : List (String × List Literal)}, kc ∈ setColumn cols name cells →
      kc = (name, cells) ∨ kc ∈ cols
  | [], h => by simpa [setColumn] using h
  | (k, c) :: rest, h => by
    simp only [setColumn] at h
    split at h
    · simpa using h
    split at h
    · subst k
      rcases List.mem_cons.1 h with rfl | h
      · exact .inl rfl
      · exact .inr (List.mem_cons_of_mem _ h)
    · rcases List.mem_cons.1 h with rfl | h
      · exact .inr List.mem_cons_self
      · rcases mem_setColumn h with rfl | h
        · exact .inl rfl
        · exact .inr (List.mem_cons_of_mem _ h)

/-- Reading rows gives one list of cells per row. -/
theorem length_rowsCells {cells : List (List (String × Literal))} :
    ∀ {acc : List (List (String × Literal))} {index : Nat} {rows : List Json},
      rowsCells acc index rows = .ok cells → cells.length = acc.length + rows.length
  | acc, index, [], h => by
    cases h
    simp
  | acc, index, .obj fields :: rest, h => by
    simp only [rowsCells] at h
    cases hrow : rowCells index fields with
    | error e => rw [hrow] at h; cases h
    | ok row =>
      rw [hrow] at h
      have hrest := length_rowsCells h
      simp only [List.length_cons] at hrest ⊢
      omega
  | acc, index, .null :: _, h | acc, index, .bool _ :: _, h | acc, index, .int _ :: _, h
  | acc, index, .float _ :: _, h | acc, index, .str _ :: _, h | acc, index, .arr _ :: _, h => by
    cases h

/-- A table read from JSON rows has one cell per row in each column. -/
theorem wellFormed_ofJsonRows {rows : List Json} {t : Table} (h : ofJsonRows rows = .ok t) :
    t.WellFormed := by
  simp only [ofJsonRows] at h
  cases hcells : rowsCells [] 0 rows with
  | error e => rw [hcells] at h; cases h
  | ok cells =>
    rw [hcells] at h
    cases h
    -- each column takes one cell from every row read
    intro col hcol
    obtain ⟨name, -, rfl⟩ := List.mem_map.1 hcol
    simpa using length_rowsCells hcells

/-- Adding a column keeps one cell per row in each column; a table with no column and no row
    takes its number of rows from the new column. -/
theorem WellFormed.withColumn {t t' : Table} {name : String} {cells : List Literal}
    (ht : t.WellFormed) (h : t.withColumn name cells = .ok t') : t'.WellFormed := by
  unfold Table.withColumn at h
  dsimp only at h
  generalize hrows : (if t.columns.isEmpty && t.rows == 0 then cells.length else t.rows) = rows
    at h
  by_cases hlen : cells.length = rows
  · rw [if_pos hlen] at h
    cases h
    intro col hcol
    rcases mem_setColumn hcol with rfl | hold
    · exact hlen
    · -- an old column: the table had columns, so its number of rows is kept
      have hne : t.columns.isEmpty = false := by
        cases hcols : t.columns with
        | nil => rw [hcols] at hold; cases hold
        | cons _ _ => rfl
      rw [← hrows, hne, Bool.false_and, if_neg Bool.false_ne_true]
      exact ht col hold
  · rw [if_neg hlen] at h
    cases h

/-- Every table that can be built has one cell per row in each column. -/
theorem Reachable.wellFormed {t : Table} (h : t.Reachable) : t.WellFormed := by
  induction h with
  | empty => intro col hcol; cases hcol
  | ofJsonRows h => exact wellFormed_ofJsonRows h
  | withColumn _ h ih => exact ih.withColumn h

/-- On a well-formed table a column lists the cells of its field, row by row. -/
theorem WellFormed.column_eq {t : Table} (ht : t.WellFormed) {field : String}
    {cells : List Literal} (h : t.column? field = some cells) :
    cells = (List.range t.rows).map (t.cell field) := by
  have hlen : cells.length = t.rows := ht _ (mem_of_lookup_eq_some h)
  apply List.ext_getElem
  · simp [hlen]
  · intro i h₁ h₂
    simp [cell, h, List.getElem?_eq_getElem h₁]

end Table

namespace Mask

/-- Whether a leaf holds of row `i` of `t`: its test on the row's cell of its field, flipped
    when the leaf is negated. `BETWEEN` asks for a cell in the low end's class at or above it
    and in the high end's class at or below it; `LIKE` compiles its pattern and searches a
    text cell. -/
def rowLeaf (t : Table) (i : Nat) : Predicate → Bool
  | .compare f op v => compareCell (t.cell f i) op v
  | .between f lo hi n =>
    ((Cell.compare? (t.cell f i) lo).any (· != .lt) &&
      (Cell.compare? (t.cell f i) hi).any (· != .gt)) != n
  | .member f vs n => vs.any (Cell.equals (t.cell f i)) != n
  | .like f pattern n =>
    (match t.cell f i, Regex.compile pattern with
      | .text s, .ok node => node.isMatch s
      | _, _ => false) != n
  | .isNull f n => (t.cell f i).isNull != n
  | _ => false

/-- The truth value of a predicate on row `i` of `t`. -/
def evalRow (t : Table) (p : Predicate) (i : Nat) : Bool := p.eval (rowLeaf t i)

/-- `pats'` keeps every pattern of `pats`, and every other pattern it holds is compiled from
    its own text. -/
structure Grows (pats pats' : Patterns) : Prop where
  keeps : ∀ k n, pats.lookup k = some n → pats'.lookup k = some n
  compiled : ∀ k n, pats'.lookup k = some n → pats.lookup k = some n ∨ Regex.compile k = .ok n

theorem Grows.refl (pats : Patterns) : Grows pats pats :=
  ⟨fun _ _ h => h, fun _ _ h => .inl h⟩

theorem Grows.trans {a b c : Patterns} (hab : Grows a b) (hbc : Grows b c) : Grows a c where
  keeps k n h := hbc.keeps k n (hab.keeps k n h)
  compiled k n h := (hbc.compiled k n h).elim (hab.compiled k n) .inr

/-- Adding a pattern compiled from its text. -/
theorem Grows.append {pats : Patterns} {k : String} {node : Regex.Node}
    (hk : Regex.compile k = .ok node) :
    Grows pats (pats ++ [(k, node)]) where
  keeps k' n h := by rw [List.lookup_append, h]; rfl
  compiled k' n h := by
    rw [List.lookup_append] at h
    cases hk' : pats.lookup k' with
    | some n' => rw [hk'] at h; exact .inl h
    | none =>
      rw [hk', Option.none_or, List.lookup_cons, List.lookup_nil] at h
      cases heq : k' == k
      · rw [heq] at h; cases h
      · rw [heq, Option.some.injEq] at h
        rw [beq_iff_eq.1 heq, ← h]
        exact .inr hk

theorem checkField_eq_ok {t : Table} {field : String} {pats pats' : Patterns}
    (h : checkField t field pats = .ok pats') :
    pats' = pats ∧ ∃ cells, t.column? field = some cells := by
  unfold checkField at h
  split at h
  · cases h
    exact ⟨rfl, _, ‹_›⟩
  · cases h

/-- Checking a field adds no pattern. -/
theorem Grows.of_checkField {t : Table} {field : String} {pats pats' : Patterns}
    (h : checkField t field pats = .ok pats') : Grows pats pats' := by
  rw [(checkField_eq_ok h).1]
  exact .refl _

variable {t : Table}

mutual

/-- Preparing a tree keeps the patterns compiled so far and compiles new ones from their
    text. -/
theorem prepare_grows : ∀ (p : Predicate) {pats pats' : Patterns},
    prepare t p pats = .ok pats' → Grows pats pats'
  | .const _, pats, pats', h => by cases h; exact .refl _
  | .junction _ children, pats, pats', h => prepareAll_grows children h
  | .negation child, pats, pats', h => prepare_grows child h
  | .compare f op v, pats, pats', h | .between f op v _, pats, pats', h => by
    simp only [prepare] at h
    split at h
    · cases h
    · exact .of_checkField h
  | .member f vs n, pats, pats', h | .isNull f n, pats, pats', h => .of_checkField h
  | .like f pattern n, pats, pats', h => by
    simp only [prepare] at h
    split at h
    · exact .of_checkField h
    · -- a pattern met for the first time is compiled and added
      split at h
      · rename_i node hnode
        exact (Grows.append hnode).trans (.of_checkField h)
      · cases h

/-- `prepare` over the children of a junction. -/
theorem prepareAll_grows : ∀ (children : List Predicate) {pats pats' : Patterns},
    prepareAll t children pats = .ok pats' → Grows pats pats'
  | [], pats, pats', h => by cases h; exact .refl _
  | p :: rest, pats, pats', h => by
    simp only [prepareAll] at h
    cases hp : prepare t p pats with
    | error e => rw [hp] at h; cases h
    | ok mid =>
      rw [hp] at h
      exact (prepare_grows p hp).trans (prepareAll_grows rest h)

end

/-- Between its ends: at least the low end and at most the high end, in their class. -/
theorem compareCell_ge (c v : Literal) :
    compareCell c .ge v = (Cell.compare? c v).any (· != .lt) := by
  unfold compareCell
  cases Cell.compare? c v with
  | none => rfl
  | some o => cases o <;> rfl

theorem compareCell_le (c v : Literal) :
    compareCell c .le v = (Cell.compare? c v).any (· != .gt) := by
  unfold compareCell
  cases Cell.compare? c v with
  | none => rfl
  | some o => cases o <;> rfl

/-- A field the table has is read as its column. -/
theorem column_eq_ok {field : String} {cells : List Literal} (h : t.column? field = some cells) :
    column t field = .ok cells := by
  simp [column, h]

theorem mapCells_eq_ok {field : String} {cells : List Literal} (h : t.column? field = some cells)
    (test : Literal → Bool) : mapCells t field test = .ok (cells.map test) := by
  simp only [mapCells, column_eq_ok h]
  rfl

/-- A leaf whose field is a column, its pattern compiled if it is a `LIKE`, is evaluated by
    applying its test to each cell of the column. -/
theorem eval_leaf {pats : Patterns} {p : Predicate} {field : String} {cells : List Literal}
    (hp : p.field? = some field) (hcol : t.column? field = some cells)
    (hlike : ∀ f pattern n, p = .like f pattern n → ∃ node, pats.lookup pattern = some node) :
    eval t pats p = .ok (cells.map (leafHolds pats p)) := by
  cases p with
  | compare | between | member | isNull =>
    cases hp
    exact mapCells_eq_ok hcol _
  | like f pattern n =>
    cases hp
    obtain ⟨node, hnode⟩ := hlike _ pattern n rfl
    simp only [eval, hnode]
    exact mapCells_eq_ok hcol _
  | const | junction | negation => simp [Predicate.field?] at hp

/-- Once the checks pass, evaluation is the evaluator's run with the patterns they compiled. -/
theorem evaluate_of_prepare {p : Predicate} {pats : Patterns} (h : prepare t p [] = .ok pats) :
    evaluate p t = eval t pats p := by
  rw [evaluate, h]
  rfl

/-- Stopping early keeps the mask: every row already has the value that decides the
    junction, and joining anything to it keeps that value. -/
theorem apply_of_all_absorbing {conn : Connective} {a : Nat → Bool}
    (hall : ((List.range t.rows).map a).all (· == !Predicate.identity conn) = true)
    (b : Nat → Bool) :
    (List.range t.rows).map a = (List.range t.rows).map fun i => conn.apply (a i) (b i) := by
  apply List.map_congr_left
  intro i hi
  have hai : a i = !Predicate.identity conn := by
    simpa using List.all_eq_true.1 hall (a i) (List.mem_map_of_mem hi)
  rw [hai, Connective.apply_absorb_left]

/-- A leaf that could be prepared tests a column of the table. -/
theorem column_of_prepare {p : Predicate} {field : String} {pats pats' : Patterns}
    (hp : p.field? = some field) (h : prepare t p pats = .ok pats') :
    ∃ cells, t.column? field = some cells := by
  cases p with
  | compare f op v | between f lo hi n =>
    cases hp
    simp only [prepare] at h
    split at h
    · cases h
    · exact (checkField_eq_ok h).2
  | member f vs n | isNull f n =>
    cases hp
    exact (checkField_eq_ok h).2
  | like f pattern n =>
    cases hp
    simp only [prepare] at h
    split at h
    · exact (checkField_eq_ok h).2
    · split at h
      · exact (checkField_eq_ok h).2
      · cases h
  | const | junction | negation => simp [Predicate.field?] at hp

/-- A `LIKE` leaf that could be prepared has its pattern compiled. -/
theorem lookup_of_prepare_like {f pattern : String} {n : Bool} {pats pats' : Patterns}
    (h : prepare t (.like f pattern n) pats = .ok pats') :
    ∃ node, pats'.lookup pattern = some node := by
  simp only [prepare] at h
  split at h
  · rename_i node hnode
    rw [(checkField_eq_ok h).1]
    exact ⟨node, hnode⟩
  · rename_i hnone
    split at h
    · rename_i node _
      rw [(checkField_eq_ok h).1, List.lookup_append, hnone]
      exact ⟨node, by simp⟩
    · cases h

/-- Joining two masks of one entry per row joins the rows' values. -/
theorem combineMasks_rows (conn : Connective) (rows : Nat) (a b : Nat → Bool) :
    combineMasks conn ((List.range rows).map a) ((List.range rows).map b) =
      (List.range rows).map fun i => conn.apply (a i) (b i) := by
  unfold combineMasks
  rw [List.zipWith_map, List.zipWith_self]
  cases conn <;> rfl

theorem replicate_eq_map_range {α : Type} (rows : Nat) (x : α) :
    List.replicate rows x = (List.range rows).map fun _ => x := by
  rw [List.map_const', List.length_range]

section Rows

variable {final : Patterns}

/-- The mask of a leaf whose field is a column of the table, with its pattern compiled if it is
    a `LIKE`, lists the leaf's value on each row. -/
theorem eval_leaf_eq_rows (ht : t.WellFormed)
    (hfinal : ∀ k n, final.lookup k = some n → Regex.compile k = .ok n)
    {p : Predicate} {field : String} {cells : List Literal} (hp : p.field? = some field) (hcol : t.column? field = some cells)
    (hlike : ∀ f pattern n, p = .like f pattern n → ∃ node, final.lookup pattern = some node) :
    eval t final p = .ok ((List.range t.rows).map (evalRow t p)) := by
  rw [eval_leaf hp hcol hlike, ht.column_eq hcol, List.map_map]
  congr 1
  apply List.map_congr_left
  intro i _
  rw [Function.comp_apply, evalRow, Predicate.eval_of_field? _ hp]
  -- the leaf is tested on the row's cell in both
  cases p with
  | compare f op v => cases hp; rfl
  | between f lo hi n => cases hp; simp [rowLeaf, leafHolds, compareCell_ge, compareCell_le]
  | member f vs n => cases hp; rfl
  | isNull f n => cases hp; rfl
  | like f pattern n =>
    cases hp
    obtain ⟨node, hnode⟩ := hlike field pattern n rfl
    simp only [rowLeaf, leafHolds, hnode, hfinal _ _ hnode]
    cases t.cell field i <;> rfl
  | const | junction | negation => simp [Predicate.field?] at hp

/-- The mask of a leaf that could be prepared, its pattern among the final ones. -/
theorem eval_leaf_of_prepare (ht : t.WellFormed)
    (hfinal : ∀ k n, final.lookup k = some n → Regex.compile k = .ok n)
    {p : Predicate} {field : String} {pats pats' : Patterns} (hp : p.field? = some field) (h : prepare t p pats = .ok pats')
    (hkeep : ∀ k n, pats'.lookup k = some n → final.lookup k = some n) :
    eval t final p = .ok ((List.range t.rows).map (evalRow t p)) := by
  obtain ⟨cells, hcol⟩ := column_of_prepare hp h
  refine eval_leaf_eq_rows ht hfinal hp hcol ?_
  rintro f pattern n rfl
  obtain ⟨node, hnode⟩ := lookup_of_prepare_like h
  exact ⟨node, hkeep _ _ hnode⟩

mutual

/-- The mask of a prepared tree lists its truth value on each row. The patterns it was
    prepared with are among the final ones, all compiled from their text. -/
theorem eval_eq_rows (ht : t.WellFormed)
    (hfinal : ∀ k n, final.lookup k = some n → Regex.compile k = .ok n) :
    ∀ (p : Predicate) {pats pats' : Patterns},
    prepare t p pats = .ok pats' → (∀ k n, pats'.lookup k = some n → final.lookup k = some n) →
    eval t final p = .ok ((List.range t.rows).map (evalRow t p))
  | .const b, _, _, _, _ => by
    simp only [eval]
    rw [replicate_eq_map_range]
    rfl
  | .junction conn children, _, _, h, hkeep => by
    -- a junction starts from the identity on every row
    simp only [eval]
    rw [replicate_eq_map_range, evalAll_eq_rows ht hfinal children h hkeep conn]
    simp [evalRow]
  | .negation child, _, _, h, hkeep => by
    have hchild := eval_eq_rows ht hfinal child h hkeep
    simp only [eval, hchild]
    show Except.ok (((List.range t.rows).map (evalRow t child)).map (!·)) = _
    rw [List.map_map]
    rfl
  | .compare _ _ _, _, _, h, hkeep => eval_leaf_of_prepare ht hfinal rfl h hkeep
  | .between _ _ _ _, _, _, h, hkeep => eval_leaf_of_prepare ht hfinal rfl h hkeep
  | .member _ _ _, _, _, h, hkeep => eval_leaf_of_prepare ht hfinal rfl h hkeep
  | .like _ _ _, _, _, h, hkeep => eval_leaf_of_prepare ht hfinal rfl h hkeep
  | .isNull _ _, _, _, h, hkeep => eval_leaf_of_prepare ht hfinal rfl h hkeep

/-- Folding the masks of a junction's children onto a mask of one entry per row, early exit
    included, joins each row's entry to the junction's value on that row. -/
theorem evalAll_eq_rows (ht : t.WellFormed)
    (hfinal : ∀ k n, final.lookup k = some n → Regex.compile k = .ok n) :
    ∀ (children : List Predicate) {pats pats' : Patterns},
    prepareAll t children pats = .ok pats' →
    (∀ k n, pats'.lookup k = some n → final.lookup k = some n) →
    ∀ (conn : Connective) (a : Nat → Bool),
      evalAll t final conn children ((List.range t.rows).map a) =
        .ok ((List.range t.rows).map fun i =>
          conn.apply (a i) (Predicate.evalAll (rowLeaf t i) conn children))
  | [], _, _, _, _, conn, a => by simp [evalAll]
  | p :: rest, pats, pats', h, hkeep, conn, a => by
    simp only [prepareAll] at h
    cases hp : prepare t p pats with
    | error e => rw [hp] at h; cases h
    | ok mid =>
      rw [hp] at h
      have hkeepMid : ∀ k n, mid.lookup k = some n → final.lookup k = some n :=
        fun k n hk => hkeep k n ((prepareAll_grows rest h).keeps k n hk)
      simp only [evalAll]
      split
      · -- every row is decided: what follows cannot change it
        rename_i hall
        exact congrArg Except.ok (apply_of_all_absorbing hall _)
      · have hmask := eval_eq_rows ht hfinal p hp hkeepMid
        simp only [hmask]
        show evalAll t final conn rest (combineMasks conn _ _) = _
        rw [combineMasks_rows, evalAll_eq_rows ht hfinal rest h hkeep conn]
        simp [evalRow, Connective.apply_assoc]

end

end Rows

/-- On every table that can be built, each column has one cell per row; and the mask of any
    predicate over such a table, when there is one, has one entry per row, the predicate's
    truth value on that row. Joining masks by `zipWith`, stopping a junction once every row is
    decided and compiling the patterns once, before evaluation, change none of it. -/
theorem evaluate_eq_rows {t : Table} (ht : t.Reachable) :
    t.WellFormed ∧ ∀ (p : Predicate) (m : List Bool), evaluate p t = .ok m →
      m = (List.range t.rows).map (evalRow t p) := by
  have hwf := ht.wellFormed
  refine ⟨hwf, fun p m h => ?_⟩
  cases hprep : prepare t p [] with
  | error e => rw [evaluate, hprep] at h; cases h
  | ok pats =>
    -- the patterns prepared from nothing are all compiled from their text
    have hcompiled : ∀ k n, pats.lookup k = some n → Regex.compile k = .ok n := fun k n hk =>
      ((prepare_grows p hprep).compiled k n hk).resolve_left (by simp)
    rw [evaluate_of_prepare hprep, eval_eq_rows hwf hcompiled p hprep fun _ _ hk => hk] at h
    exact (Except.ok.inj h).symm

/-- A two-row table built by adding one column, and an `AND` whose first child is false on
    both rows, so the second child is never evaluated. -/
theorem evaluate_eq_rows_early_exit :
    Table.Reachable ⟨2, [("x", [.int 1, .int 4])]⟩ ∧
    evaluate (.junction .and [.compare "x" .gt (.int 10), .isNull "x" false])
      ⟨2, [("x", [.int 1, .int 4])]⟩ = .ok [false, false] ∧
    [false, false] = (List.range 2).map (evalRow ⟨2, [("x", [.int 1, .int 4])]⟩
      (.junction .and [.compare "x" .gt (.int 10), .isNull "x" false])) := by
  have hr : Table.Reachable ⟨2, [("x", [.int 1, .int 4])]⟩ :=
    @Table.Reachable.withColumn {} _ "x" [.int 1, .int 4] .empty rfl
  have he : evaluate (.junction .and [.compare "x" .gt (.int 10), .isNull "x" false])
      ⟨2, [("x", [.int 1, .int 4])]⟩ = .ok [false, false] := rfl
  exact ⟨hr, he, (evaluate_eq_rows hr).2 _ _ he⟩

end Mask

end FilterQuery

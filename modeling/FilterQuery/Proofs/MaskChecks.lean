import FilterQuery.Proofs.RowMask

/-!
# Checks before a mask is evaluated

`Mask.evaluate` runs two passes: `Mask.prepare` checks every leaf of the tree, depth first and
left to right, and compiles the `LIKE` patterns; the evaluator then reads the columns. This
module says exactly when the first pass fails and shows that the second never can.

The checks of one leaf (`Mask.leafError`) run in a fixed order: an ordering test or a
`BETWEEN` against `NULL` is refused before its field is looked up, then a `LIKE` pattern that
does not compile is refused, and last a field the table lacks. `prepare` compiles a pattern only
the first time it meets it; a pattern met before was compiled there, so skipping it changes no
answer, and the checks need no memory of earlier leaves.

## Key results
- `Mask.prepare_prepares`: `prepare` fails with the error of the first leaf that fails a check,
  and otherwise compiles the pattern of every `LIKE` leaf
- `Mask.eval_ok`: the evaluator fails only for a missing column or an uncompiled pattern
- `Mask.evaluate_eq_error_iff`: evaluation fails exactly with the error of the first failing
  leaf; when no leaf fails, every field has its column and every pattern its compiled node, so
  the evaluator's own errors never happen
-/

namespace FilterQuery

open Query

namespace Mask

/-- The error for a field the table does not have. -/
def fieldError (t : Table) (field : String) : Option EmitError :=
  if (t.column? field).isSome then none else some (.unknownField field)

/-- The first check a leaf fails, in the order the checks run: an ordering test or a `BETWEEN`
    against `NULL`, then a `LIKE` pattern that does not compile, then a missing field. -/
def leafError (t : Table) : Predicate → Option EmitError
  | .compare f op v =>
    if op.isOrdering && v.isNull then some (EmitError.orderingAgainstNull op.symbol)
    else fieldError t f
  | .between f lo hi _ =>
    if lo.isNull || hi.isNull then some (EmitError.orderingAgainstNull "BETWEEN")
    else fieldError t f
  | .like f pattern _ =>
    match Regex.compile pattern with
    | .ok _ => fieldError t f
    | .error msg => some (.invalidPattern pattern msg)
  | .member f _ _ | .isNull f _ => fieldError t f
  | _ => none

/-- A field with no error has a column. -/
theorem column_of_fieldError {t : Table} {field : String} (h : fieldError t field = none) :
    ∃ cells, t.column? field = some cells := by
  unfold fieldError at h
  split at h
  · exact Option.isSome_iff_exists.1 ‹_›
  · cases h

theorem checkField_of_fieldError_some {t : Table} {field : String} {e : EmitError}
    (h : fieldError t field = some e) (pats : Patterns) : checkField t field pats = .error e := by
  unfold fieldError at h
  unfold checkField
  split at h
  · cases h
  · rename_i hcol
    cases h
    rw [Option.not_isSome_iff_eq_none.1 hcol]

theorem checkField_of_fieldError_none {t : Table} {field : String}
    (h : fieldError t field = none) (pats : Patterns) : checkField t field pats = .ok pats := by
  obtain ⟨cells, hcells⟩ := column_of_fieldError h
  simp [checkField, hcells]

/-- The leaf with no error that tests a field has its column. -/
theorem column_of_leafError {t : Table} {q : Predicate} {field : String}
    (hq : q.field? = some field) (h : leafError t q = none) : ∃ cells, t.column? field = some cells := by
  cases q with
  | compare f op v | between f lo hi n =>
    cases hq
    simp only [leafError] at h
    split at h
    · cases h
    · exact column_of_fieldError h
  | member f vs n | isNull f n =>
    cases hq
    exact column_of_fieldError h
  | like f pattern n =>
    cases hq
    simp only [leafError] at h
    split at h
    · exact column_of_fieldError h
    · cases h
  | const | junction | negation => simp [Predicate.field?] at hq

/-- What preparing a list of leaves from the patterns `pats` gives: the error of the first leaf
    that fails a check, or, when none fails, patterns that keep `pats` and hold the compiled
    pattern of every `LIKE` leaf. -/
structure Prepares (t : Table) (qs : List Predicate) (pats : Patterns)
    (r : Except EmitError Patterns) : Prop where
  error : ∀ e, qs.findSome? (leafError t) = some e → r = .error e
  ok : qs.findSome? (leafError t) = none → ∃ pats', r = .ok pats' ∧ Grows pats pats' ∧
    ∀ f pattern n, Predicate.like f pattern n ∈ qs → ∃ node, pats'.lookup pattern = some node

/-- One leaf is prepared as its checks say. -/
theorem Prepares.single {t : Table} {q : Predicate} {pats : Patterns}
    {r : Except EmitError Patterns} (herror : ∀ e, leafError t q = some e → r = .error e)
    (hok : leafError t q = none → ∃ pats', r = .ok pats' ∧ Grows pats pats' ∧
      ∀ f pattern n, q = .like f pattern n → ∃ node, pats'.lookup pattern = some node) :
    Prepares t [q] pats r where
  error e h := herror e (by simpa using h)
  ok h := by
    obtain ⟨pats', hr, hgrows, hlike⟩ := hok (by simpa using h)
    exact ⟨pats', hr, hgrows,
      fun f pattern n hmem => hlike f pattern n (List.mem_singleton.1 hmem).symm⟩

/-- A leaf that tests only its field: it fails when the table lacks the field, and adds no
    pattern. -/
theorem Prepares.field {t : Table} {q : Predicate} {field : String} {pats : Patterns}
    (hq : leafError t q = fieldError t field) (hlike : ∀ f pattern n, q ≠ .like f pattern n) :
    Prepares t [q] pats (checkField t field pats) :=
  .single (fun _ h => checkField_of_fieldError_some (hq ▸ h) pats)
    fun h => ⟨pats, checkField_of_fieldError_none (hq ▸ h) pats, .refl _,
      fun f pattern n heq => absurd heq (hlike f pattern n)⟩

variable {t : Table}

/-- A `LIKE` leaf. A pattern met before is taken from `pats`, where it was compiled from its
    text, so it compiles again and only the field is checked. -/
theorem prepares_like {pats : Patterns} (hv : Grows [] pats) (f pattern : String) (n : Bool) :
    Prepares t [.like f pattern n] pats (prepare t (.like f pattern n) pats) := by
  refine .single (fun e h => ?_) fun h => ?_
  · simp only [prepare]
    split
    · rename_i node hnode
      -- the pattern was compiled before, so the leaf fails at its field
      have hcompiled : Regex.compile pattern = .ok node :=
        ((hv.compiled pattern node hnode).resolve_left (by simp))
      simp only [leafError, hcompiled] at h
      exact checkField_of_fieldError_some h pats
    · -- the pattern is compiled now, and a failure to compile is the leaf's error
      cases hc : Regex.compile pattern with
      | ok node =>
        simp only [leafError, hc] at h ⊢
        exact checkField_of_fieldError_some h _
      | error err =>
        simp only [leafError, hc, Option.some.injEq] at h ⊢
        subst h
        rfl
  · simp only [leafError] at h
    split at h
    · rename_i node hnode
      simp only [prepare]
      split
      · rename_i node' hnode'
        exact ⟨pats, checkField_of_fieldError_none h pats, .refl _,
          fun _ _ _ heq => by cases heq; exact ⟨node', hnode'⟩⟩
      · rename_i hnone
        rw [hnode]
        refine ⟨pats ++ [(pattern, node)], checkField_of_fieldError_none h _, .append hnode,
          fun _ _ _ heq => ?_⟩
        cases heq
        rw [List.lookup_append, hnone]
        exact ⟨node, by simp⟩
    · cases h

mutual

/-- Preparing a tree fails with the error of its first failing leaf, and otherwise compiles the
    pattern of every `LIKE` leaf; the patterns it starts from are compiled from their text. -/
theorem prepare_prepares : ∀ (p : Predicate) {pats : Patterns}, Grows [] pats →
    Prepares t p.leaves pats (prepare t p pats)
  | .const _, pats, _ => by
    simp only [Predicate.leaves]
    exact .single (fun e h => by cases h) fun _ =>
      ⟨pats, rfl, .refl _, fun _ _ _ heq => by cases heq⟩
  | .junction _ children, pats, hv => by
    rw [Predicate.leaves_junction]
    exact prepareAll_prepares children hv
  | .negation child, pats, hv => by
    rw [Predicate.leaves_negation]
    exact prepare_prepares child hv
  | .compare f op v, pats, _ => by
    simp only [Predicate.leaves, prepare]
    split
    · exact .single (fun e h => by simp_all [leafError]) fun h => by simp_all [leafError]
    · exact .field (by simp_all [leafError]) fun _ _ _ heq => by cases heq
  | .between f lo hi n, pats, _ => by
    simp only [Predicate.leaves, prepare]
    split
    · exact .single (fun e h => by simp_all [leafError]) fun h => by simp_all [leafError]
    · exact .field (by simp_all [leafError]) fun _ _ _ heq => by cases heq
  | .like f pattern n, pats, hv => by
    simp only [Predicate.leaves]
    exact prepares_like hv f pattern n
  | .member f vs n, pats, _ => by
    simp only [Predicate.leaves, prepare]
    exact .field rfl fun _ _ _ heq => by cases heq
  | .isNull f n, pats, _ => by
    simp only [Predicate.leaves, prepare]
    exact .field rfl fun _ _ _ heq => by cases heq

/-- Preparing the children of a junction, left to right: the first child that fails decides
    the error, and the patterns compiled by each child are kept by the ones after it. -/
theorem prepareAll_prepares : ∀ (children : List Predicate) {pats : Patterns}, Grows [] pats →
    Prepares t (Predicate.leavesAll children) pats (prepareAll t children pats)
  | [], pats, _ => by
    simp only [Predicate.leavesAll_nil, prepareAll]
    exact ⟨(fun _ h => by cases h), fun _ => ⟨pats, rfl, .refl _, fun _ _ _ h => by cases h⟩⟩
  | p :: rest, pats, hv => by
    have hp := prepare_prepares p hv
    simp only [Predicate.leavesAll_cons, prepareAll]
    constructor
    · intro e h
      rw [List.findSome?_append] at h
      cases hfirst : p.leaves.findSome? (leafError t) with
      | some e' =>
        rw [hfirst, Option.some_or] at h
        cases h
        rw [hp.error e hfirst]
        rfl
      | none =>
        rw [hfirst, Option.none_or] at h
        obtain ⟨mid, hmid, hgrows, -⟩ := hp.ok hfirst
        rw [hmid]
        exact (prepareAll_prepares rest (hv.trans hgrows)).error e h
    · intro h
      rw [List.findSome?_append, Option.or_eq_none_iff] at h
      obtain ⟨mid, hmid, hgrows, hlike⟩ := hp.ok h.1
      obtain ⟨pats', hrest, hgrows', hlike'⟩ :=
        (prepareAll_prepares rest (hv.trans hgrows)).ok h.2
      refine ⟨pats', by rw [hmid]; exact hrest, hgrows.trans hgrows', fun f pattern n hmem => ?_⟩
      rcases List.mem_append.1 hmem with hmem | hmem
      · -- a pattern compiled by the first child is kept by the others
        obtain ⟨node, hnode⟩ := hlike f pattern n hmem
        exact ⟨node, hgrows'.keeps pattern node hnode⟩
      · exact hlike' f pattern n hmem

end

/-! ## The evaluator's own errors -/

/-- What the evaluator reads of a tree is there: every leaf's field is a column of the table,
    and every `LIKE` pattern has its compiled node. -/
structure Ready (t : Table) (pats : Patterns) (p : Predicate) : Prop where
  column : ∀ q ∈ p.leaves, ∀ field, q.field? = some field → ∃ cells, t.column? field = some cells
  pattern : ∀ f pattern n, Predicate.like f pattern n ∈ p.leaves →
    ∃ node, pats.lookup pattern = some node

section Ready

variable {t : Table} {pats : Patterns}

theorem Ready.negation {child : Predicate} (h : Ready t pats (.negation child)) :
    Ready t pats child where
  column q hq := h.column q (by simpa using hq)
  pattern f pattern n hq := h.pattern f pattern n (by simpa using hq)

theorem Ready.child {conn : Connective} {children : List Predicate}
    (h : Ready t pats (.junction conn children)) {c : Predicate} (hc : c ∈ children) :
    Ready t pats c where
  column q hq := h.column q
    (by rw [Predicate.leaves_junction, Predicate.mem_leavesAll]; exact ⟨c, hc, hq⟩)
  pattern f pattern n hq := h.pattern f pattern n
    (by rw [Predicate.leaves_junction, Predicate.mem_leavesAll]; exact ⟨c, hc, hq⟩)

/-- A leaf whose column and pattern are there is evaluated. -/
theorem Ready.leaf {p : Predicate} {field : String} (h : Ready t pats p)
    (hp : p.field? = some field) : ∃ m, eval t pats p = .ok m := by
  -- a leaf is its own only leaf
  have hself : p ∈ p.leaves := by cases p <;> simp_all [Predicate.field?, Predicate.leaves]
  obtain ⟨cells, hcol⟩ := h.column p hself field hp
  exact ⟨_, eval_leaf hp hcol fun f pattern n hq => h.pattern f pattern n (hq ▸ hself)⟩

mutual

/-- The evaluator fails only for a missing column or pattern. -/
theorem eval_ok : ∀ p : Predicate, Ready t pats p → ∃ m, eval t pats p = .ok m
  | .const _, _ => ⟨_, rfl⟩
  | .junction _ children, h => evalAll_ok children (fun _ hc => h.child hc) _
  | .negation child, h => by
    obtain ⟨m, hm⟩ := eval_ok child h.negation
    refine ⟨m.map (!·), ?_⟩
    simp only [eval, hm]
    rfl
  | .compare _ _ _, h => h.leaf rfl
  | .between _ _ _ _, h => h.leaf rfl
  | .member _ _ _, h => h.leaf rfl
  | .like _ _ _, h => h.leaf rfl
  | .isNull _ _, h => h.leaf rfl

theorem evalAll_ok {conn : Connective} : ∀ children : List Predicate,
    (∀ c ∈ children, Ready t pats c) → ∀ acc, ∃ m, evalAll t pats conn children acc = .ok m
  | [], _, acc => ⟨acc, rfl⟩
  | p :: rest, h, acc => by
    simp only [evalAll]
    split
    · exact ⟨acc, rfl⟩
    · obtain ⟨m, hm⟩ := eval_ok p (h p List.mem_cons_self)
      simp only [hm]
      exact evalAll_ok rest (fun c hc => h c (List.mem_cons_of_mem p hc)) _

end

end Ready

/-- Evaluation fails exactly with the error of the first leaf, depth first and left to right,
    that fails a check. When no leaf fails, the checks succeed, every field has its column and
    every `LIKE` pattern its compiled node, so the evaluator's own errors for a missing column
    or pattern never happen and it returns the mask. -/
theorem evaluate_eq_error_iff (p : Predicate) (t : Table) :
    (∀ e, evaluate p t = .error e ↔
      ∃ pre q post, p.leaves = pre ++ q :: post ∧ (∀ r ∈ pre, leafError t r = none) ∧
        leafError t q = some e) ∧
    ((∀ q ∈ p.leaves, leafError t q = none) →
      ∃ pats, prepare t p [] = .ok pats ∧ (∃ m, eval t pats p = .ok m ∧ evaluate p t = .ok m) ∧
        (∀ q ∈ p.leaves, ∀ field, q.field? = some field → ∃ cells, t.column? field = some cells) ∧
        ∀ f pattern n, Predicate.like f pattern n ∈ p.leaves →
          ∃ node, pats.lookup pattern = some node) := by
  have hp := prepare_prepares (t := t) p (Grows.refl [])
  have hfirst : ∀ e, p.leaves.findSome? (leafError t) = some e ↔
      ∃ pre q post, p.leaves = pre ++ q :: post ∧ (∀ r ∈ pre, leafError t r = none) ∧
        leafError t q = some e := by
    intro e
    rw [List.findSome?_eq_some_iff]
    constructor
    · rintro ⟨pre, q, post, hsplit, hq, hpre⟩
      exact ⟨pre, q, post, hsplit, hpre, hq⟩
    · rintro ⟨pre, q, post, hsplit, hpre, hq⟩
      exact ⟨pre, q, post, hsplit, hq, hpre⟩
  -- with no failing leaf, the checks pass and leave the evaluator all it reads
  have hready : p.leaves.findSome? (leafError t) = none →
      ∃ pats, prepare t p [] = .ok pats ∧ Ready t pats p := by
    intro hfind
    obtain ⟨pats, hpats, -, hlike⟩ := hp.ok hfind
    refine ⟨pats, hpats, ⟨fun q hq field hfield => ?_, hlike⟩⟩
    exact column_of_leafError hfield (List.findSome?_eq_none_iff.1 hfind q hq)
  refine ⟨fun e => ?_, fun hnone => ?_⟩
  · rw [← hfirst]
    cases hfind : p.leaves.findSome? (leafError t) with
    | some e' =>
      rw [evaluate, hp.error e' hfind]
      exact ⟨(fun h => by cases h; rfl), (fun h => by cases h; rfl)⟩
    | none =>
      obtain ⟨pats, hpats, hr⟩ := hready hfind
      obtain ⟨m, hm⟩ := eval_ok p hr
      rw [evaluate_of_prepare hpats, hm]
      exact ⟨(fun h => by cases h), (fun h => by cases h)⟩
  · obtain ⟨pats, hpats, hr⟩ := hready (List.findSome?_eq_none_iff.2 hnone)
    obtain ⟨m, hm⟩ := eval_ok p hr
    exact ⟨pats, hpats, ⟨m, hm, (evaluate_of_prepare hpats).trans hm⟩, hr.column, hr.pattern⟩

/-- Both leaves of the first `OR` fail a check on the empty table, and evaluation reports the
    first one's failure; both leaves of the second pass theirs on a table with both fields, and
    the evaluator returns a mask. -/
theorem evaluate_first_failure_or_mask :
    evaluate (.junction .or [.compare "missing" .eq (.int 1), .compare "age" .lt .null]) {} =
      .error (.unknownField "missing") ∧
    (∀ q ∈ (Predicate.junction .or [.compare "x" .gt (.int 1), .isNull "y" true]).leaves,
      leafError ⟨1, [("x", [.int 2]), ("y", [.null])]⟩ q = none) ∧
    ∃ pats, prepare ⟨1, [("x", [.int 2]), ("y", [.null])]⟩
        (.junction .or [.compare "x" .gt (.int 1), .isNull "y" true]) [] = .ok pats ∧
      ∃ m, eval ⟨1, [("x", [.int 2]), ("y", [.null])]⟩ pats
          (.junction .or [.compare "x" .gt (.int 1), .isNull "y" true]) = .ok m ∧
        evaluate (.junction .or [.compare "x" .gt (.int 1), .isNull "y" true])
          ⟨1, [("x", [.int 2]), ("y", [.null])]⟩ = .ok m := by
  have hfails := ((evaluate_eq_error_iff
    (.junction .or [.compare "missing" .eq (.int 1), .compare "age" .lt .null]) {}).1
      (.unknownField "missing")).2 ⟨[], _, [_], rfl, by simp, rfl⟩
  have hnone : ∀ q ∈ (Predicate.junction .or [.compare "x" .gt (.int 1), .isNull "y" true]).leaves,
      leafError ⟨1, [("x", [.int 2]), ("y", [.null])]⟩ q = none := by
    decide
  obtain ⟨pats, hpats, hm, -, -⟩ := (evaluate_eq_error_iff _ _).2 hnone
  exact ⟨hfails, hnone, pats, hpats, hm⟩

end Mask

end FilterQuery

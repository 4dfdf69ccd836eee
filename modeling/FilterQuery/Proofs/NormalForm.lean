import FilterQuery.Proofs.LeftFold

/-!
# Trees read from a filter are in normal form

Every tree `parse` gives is in *normal form* (`Predicate.Normal`): a constant alone, or a tree
with no constant in it whose junctions have two children or more, none of them a junction
under the same connective (`Predicate.Reduced`). A negation therefore never wraps a constant.

The reader builds a tree from clauses with `Predicate.combine` and `Predicate.negate` only,
and both keep the normal form: `combine` drops the constants that are the connective's
identity, stops at one that absorbs it, splices in the children of a junction under the same
connective (one level is enough, since they are flat already) and collapses a junction of one
child. So the proof follows the fold of the reader, carrying the normal form of the tree built
so far together with a property of its leaves.

That property is the second half of the result: no placeholder of a quoted span is left in a
leaf. Every field name is non-empty, and every field name, text value and `LIKE` pattern text
is either the content of a quoted span or free of the guard's marker (`Guarded.Resolves`):
the clause reader looks every placeholder up and refuses any other word that holds the marker.

## Key results
- `Predicate.combine_normalWith`, `Predicate.negate_normalWith`: joining and negating trees in
  normal form gives a tree in normal form, with no new leaf
- `Predicate.combine_negate_preserve_value_and_normal`: both builders keep what a tree is worth
  and its normal form
- `readClause_normalWith`: a clause reads to a constant or to a test whose names are resolved
- `buildPieces_normalWith`: so does every level of pieces, folded
- `parse_normalWith`: every tree read from a filter is in normal form, with its names resolved
-/

namespace FilterQuery.Query

variable {dates : DateRecognizer}

/-! ## The normal form -/

namespace Predicate

/-- Whether a predicate is a junction under the connective. -/
def isJunctionOf (conn : Connective) : Predicate → Bool
  | .junction c _ => c == conn
  | _ => false

/-- A tree with no constant in it, whose junctions have two children or more, none of them a
    junction under the same connective. -/
inductive Reduced : Predicate → Prop
  | test {p : Predicate} (h : p.field?.isSome = true) : Reduced p
  | junction {conn : Connective} {children : List Predicate} (two : 2 ≤ children.length)
      (reduced : ∀ c ∈ children, Reduced c)
      (flat : ∀ c ∈ children, c.isJunctionOf conn = false) : Reduced (.junction conn children)
  | negation {child : Predicate} (h : Reduced child) : Reduced (.negation child)

/-- The normal form of a tree: a constant alone, or a reduced tree. -/
def Normal (p : Predicate) : Prop := (∃ b, p = .const b) ∨ p.Reduced

/-- A tree in normal form whose leaves `P` accepts. -/
def NormalWith (P : Predicate → Prop) (p : Predicate) : Prop := p.Normal ∧ ∀ q ∈ p.leaves, P q

/-- A child that a junction under `conn` keeps as it is: reduced, not itself a junction under
    `conn`, with leaves that `P` accepts. -/
def Keepable (P : Predicate → Prop) (conn : Connective) (p : Predicate) : Prop :=
  p.Reduced ∧ p.isJunctionOf conn = false ∧ ∀ q ∈ p.leaves, P q

theorem Reduced.ne_const {p : Predicate} (h : p.Reduced) (b : Bool) : p ≠ .const b := by
  rintro rfl
  cases h with
  | test h => simp [field?] at h

@[simp] theorem leaves_const (b : Bool) : (const b).leaves = [const b] := by
  simp [leaves]

theorem leaves_of_field? {p : Predicate} (h : p.field?.isSome = true) : p.leaves = [p] := by
  cases p <;> simp_all [field?, leaves]

theorem negate_of_reduced {p : Predicate} (h : p.Reduced) : p.negate = .negation p := by
  cases p with
  | const b => exact absurd rfl (h.ne_const b)
  | _ => rfl

variable {P : Predicate → Prop}

theorem NormalWith.const (hconst : ∀ b, P (.const b)) (b : Bool) : (const b).NormalWith P :=
  ⟨.inl ⟨b, rfl⟩, by simp [hconst]⟩

theorem NormalWith.test {p : Predicate} (h : p.field?.isSome = true) (hp : P p) :
    p.NormalWith P :=
  ⟨.inr (.test h), by simp [leaves_of_field? h, hp]⟩

theorem Keepable.normalWith {conn : Connective} {p : Predicate} (h : p.Keepable P conn) :
    p.NormalWith P :=
  ⟨.inr h.1, h.2.2⟩

theorem NormalWith.keepable {conn : Connective} {p : Predicate} (hp : p.NormalWith P)
    (hne : ∀ b, p ≠ .const b) (hj : p.isJunctionOf conn = false) : p.Keepable P conn := by
  obtain ⟨hnorm, hleaves⟩ := hp
  refine ⟨?_, hj, hleaves⟩
  rcases hnorm with ⟨b, rfl⟩ | hred
  · exact absurd rfl (hne b)
  · exact hred

/-- The children of a junction in normal form are kept as they are when it is spliced into a
    junction under its own connective. -/
theorem NormalWith.keepable_of_mem {conn : Connective} {children : List Predicate}
    (h : (junction conn children).NormalWith P) {c : Predicate} (hc : c ∈ children) :
    c.Keepable P conn := by
  obtain ⟨hnorm, hleaves⟩ := h
  rcases hnorm with ⟨b, hb⟩ | hred
  · cases hb
  · cases hred with
    | test h => simp [field?] at h
    | junction _ hreduced hflat =>
      refine ⟨hreduced c hc, hflat c hc, fun q hq => hleaves q ?_⟩
      rw [leaves_junction, mem_leavesAll]
      exact ⟨c, hc, hq⟩

/-- Flattening children in normal form keeps every child it does not splice, and each child of
    those it splices, as it is. -/
theorem flattenInto_keepable {conn : Connective} (cs : List Predicate) :
    ∀ {acc flat : List Predicate}, (∀ c ∈ cs, c.NormalWith P) →
      (∀ a ∈ acc, a.Keepable P conn) → flattenInto conn cs acc = some flat →
      ∀ a ∈ flat, a.Keepable P conn := by
  induction cs with
  | nil =>
    intro acc flat _ hacc h
    simp only [flattenInto, Option.some.injEq] at h
    exact h ▸ hacc
  | cons c cs ih =>
    intro acc flat hcs hacc h
    have hc := hcs c (List.mem_cons_self ..)
    have hrest : ∀ c ∈ cs, c.NormalWith P := fun c' h' => hcs c' (List.mem_cons_of_mem _ h')
    -- a child that is not spliced is kept in front of the children flattened so far
    have hkeep : c.Keepable P conn → ∀ a ∈ c :: acc, a.Keepable P conn := by
      intro hck a ha
      rcases List.mem_cons.1 ha with rfl | ha
      · exact hck
      · exact hacc a ha
    cases c with
    | const v =>
      by_cases hv : v = identity conn
      · rw [flattenInto, if_pos hv] at h
        exact ih hrest hacc h
      · rw [flattenInto, if_neg hv] at h
        cases h
    | junction c' inner =>
      by_cases hc' : c' = conn
      · subst hc'
        rw [flattenInto, if_pos rfl] at h
        refine ih hrest (fun a ha => ?_) h
        rcases List.mem_append.1 ha with ha | ha
        · exact hc.keepable_of_mem (List.mem_reverse.1 ha)
        · exact hacc a ha
      · rw [flattenInto, if_neg hc'] at h
        exact ih hrest (hkeep (hc.keepable (by simp) (by simp [isJunctionOf, hc']))) h
    | _ =>
      simp only [flattenInto] at h
      exact ih hrest (hkeep (hc.keepable (by simp) rfl)) h

/-- Joining trees in normal form gives a tree in normal form, whose leaves are leaves of the
    children or a constant. -/
theorem combine_normalWith (hconst : ∀ b, P (.const b)) (conn : Connective)
    {children : List Predicate} (h : ∀ c ∈ children, c.NormalWith P) :
    (combine conn children).NormalWith P := by
  have hflat : ∀ {flat}, flattenInto conn children [] = some flat → ∀ a ∈ flat, a.Keepable P conn :=
    fun hf => flattenInto_keepable children h (by simp) hf
  unfold combine
  split
  · exact NormalWith.const hconst _
  · exact NormalWith.const hconst _
  · rename_i p hp
    exact (hflat hp p (List.mem_singleton_self p)).normalWith
  · rename_i flat hnil hone hp
    have hkeep : ∀ a ∈ flat.reverse, a.Keepable P conn :=
      fun a ha => hflat hp a (List.mem_reverse.1 ha)
    -- neither empty nor a single child: two children or more
    have htwo : 2 ≤ flat.reverse.length := by
      rcases flat with _ | ⟨a, _ | ⟨b, rest⟩⟩
      · exact absurd rfl hnil
      · exact absurd rfl (hone a)
      · simp
    refine ⟨.inr (.junction htwo (fun a ha => (hkeep a ha).1) (fun a ha => (hkeep a ha).2.1)), ?_⟩
    intro q hq
    rw [leaves_junction, mem_leavesAll] at hq
    obtain ⟨a, ha, hqa⟩ := hq
    exact (hkeep a ha).2.2 q hqa

/-- Negating a tree in normal form gives a tree in normal form, with the same leaves or a
    constant. -/
theorem negate_normalWith (hconst : ∀ b, P (.const b)) {p : Predicate} (h : p.NormalWith P) :
    p.negate.NormalWith P := by
  obtain ⟨hnorm, hleaves⟩ := h
  rcases hnorm with ⟨b, rfl⟩ | hred
  · exact NormalWith.const hconst _
  · rw [negate_of_reduced hred]
    exact ⟨.inr (.negation hred), by simpa using hleaves⟩

/-- The normal form alone is the normal form with no condition on the leaves. -/
theorem Normal.normalWith_true {p : Predicate} (h : p.Normal) : p.NormalWith fun _ => True :=
  ⟨h, fun _ _ => trivial⟩

/-- The two builders of trees keep both what a tree means and its normal form: whatever each
    leaf is worth, the junction `combine` builds is worth all (`AND`) or any (`OR`) of its
    children, the empty `AND` true and the empty `OR` false, and `negate` gives the opposite;
    children in normal form give a junction in normal form, and a tree in normal form a
    negation in normal form. -/
theorem combine_negate_preserve_value_and_normal (leaf : Predicate → Bool)
    (children : List Predicate) (p : Predicate) :
    eval leaf (combine .and children) = children.all (eval leaf) ∧
      eval leaf (combine .or children) = children.any (eval leaf) ∧
      eval leaf p.negate = !eval leaf p ∧
      (∀ conn, (∀ c ∈ children, c.Normal) → (combine conn children).Normal) ∧
      (p.Normal → p.negate.Normal) := by
  refine ⟨?_, ?_, eval_negate leaf p, fun conn h => ?_, fun h => ?_⟩
  · rw [eval_combine, evalAll_eq]
  · rw [eval_combine, evalAll_eq]
  · have hchildren : ∀ c ∈ children, c.NormalWith fun _ => True :=
      fun c hc => (h c hc).normalWith_true
    exact (combine_normalWith (fun _ => trivial) conn hchildren).1
  · exact (negate_normalWith (fun _ => trivial) h.normalWith_true).1

end Predicate

/-! ## Names with no placeholder left -/

/-- A text with no placeholder left in it: the content of one of the quoted spans, or a text
    that does not hold the marker. -/
def Guarded.Resolves (g : Guarded) (cs : List Char) : Prop :=
  (∃ o ∈ g.originals, cs = unquote o) ∨ g.touches cs = false

/-- A field name of a tree: non-empty and resolved. -/
def Guarded.FieldName (g : Guarded) (f : String) : Prop := f ≠ "" ∧ g.Resolves f.toList

/-- A literal whose text, if it has one, is resolved. -/
def Literal.ResolvedIn (g : Guarded) : Literal → Prop
  | .text s => g.Resolves s.toList
  | _ => True

/-- A leaf with its names resolved: its field name, its text values, and for `LIKE` the text
    the pattern was made from. A constant has nothing to resolve. -/
def Predicate.Resolved (g : Guarded) (like : LikeSyntax) : Predicate → Prop
  | .compare f _ v => g.FieldName f ∧ v.ResolvedIn g
  | .between f lo hi _ => g.FieldName f ∧ lo.ResolvedIn g ∧ hi.ResolvedIn g
  | .member f vs _ => g.FieldName f ∧ ∀ v ∈ vs, v.ResolvedIn g
  | .like f pattern _ => g.FieldName f ∧ ∃ u, pattern = likePattern like u ∧ g.Resolves u.toList
  | .isNull f _ => g.FieldName f
  | _ => True

theorem Guarded.mem_originals_of_lookup? {g : Guarded} {w o : List Char}
    (h : g.lookup? w = some o) : o ∈ g.originals := by
  unfold lookup? at h
  dsimp only at h
  split_ifs at h
  obtain ⟨i, -, hi⟩ := Option.bind_eq_some_iff.1 h
  exact List.mem_of_getElem? hi

theorem Guarded.resolves_unquote {g : Guarded} {w o : List Char} (h : g.lookup? w = some o) :
    g.Resolves (unquote o) :=
  .inl ⟨o, mem_originals_of_lookup? h, rfl⟩

/-! ## Results of a computation that succeeds -/

/-- Every result of `r` is accepted by `P`. -/
def AllResults {α : Type} (P : α → Prop) (r : Except QueryError α) : Prop :=
  ∀ a, r = .ok a → P a

namespace AllResults

variable {α β : Type} {P : α → Prop}

theorem ok {a : α} (h : P a) : AllResults P (.ok a : Except QueryError α) := by
  intro _ he
  cases he
  exact h

@[simp] theorem error (e : QueryError) : AllResults P (.error e : Except QueryError α) := by
  intro _ h
  cases h

theorem trivial (r : Except QueryError α) : AllResults (fun _ => True) r :=
  fun _ _ => True.intro

/-- A computation and its continuation give what the continuation gives from what the
    computation gives. -/
theorem bind {Q : β → Prop} {x : Except QueryError α} {k : α → Except QueryError β}
    (hx : AllResults P x) (hk : ∀ a, P a → AllResults Q (k a)) : AllResults Q (x >>= k) := by
  cases x with
  | error e => exact error e
  | ok a => exact hk a (hx a rfl)

end AllResults

/-! ## The clause reader resolves every name -/

section Reader

variable (g : Guarded) (like : LikeSyntax)

theorem resolvedIn_of_readNumber? {cs : List Char} {n : Literal} (h : readNumber? cs = some n) :
    n.ResolvedIn g := by
  unfold readNumber? at h
  -- a number reads to an integer or a float, which hold no text
  repeat' split at h
  all_goals cases h
  all_goals exact True.intro

theorem read_resolvedIn (cs : List Char) : AllResults (Literal.ResolvedIn g)
    (Literal.read dates g cs) := by
  unfold Literal.read
  split
  · exact AllResults.error _
  split
  · rename_i quoted hq
    exact AllResults.ok (by simpa [Literal.ResolvedIn] using g.resolves_unquote hq)
  split
  · exact AllResults.error _
  rename_i htouch
  -- the tests in turn: only a number, a date or the last case can read a word off the text
  split
  · exact AllResults.ok True.intro
  split
  · exact AllResults.ok True.intro
  split
  · exact AllResults.ok True.intro
  split
  · rename_i n hn
    exact AllResults.ok (resolvedIn_of_readNumber? g hn)
  split
  · exact AllResults.ok True.intro
  split
  · exact AllResults.error _
  · exact AllResults.ok (Or.inr (by simpa using htouch))

theorem readValue_resolvedIn (stop : Token → Bool) (ts : List Token) :
    AllResults (fun r => r.1.ResolvedIn g) (readValue dates g stop ts) :=
  AllResults.bind (AllResults.trivial _) fun _ _ =>
    AllResults.bind (read_resolvedIn g _) fun _ hv => AllResults.ok hv

theorem readField_fieldName (ts : List Token) :
    AllResults (fun r => g.FieldName r.1) (readField g ts) := by
  unfold readField
  split
  · rename_i w rest
    split
    · rename_i quoted hq
      dsimp only
      split_ifs with hquote hempty
      · exact AllResults.error _
      · exact AllResults.error _
      · refine AllResults.ok ⟨?_, by simpa using g.resolves_unquote hq⟩
        simpa [String.ofList_eq_empty_iff] using hempty
    · dsimp only
      split_ifs with hbad
      · exact AllResults.error _
      · simp only [Bool.or_eq_true, Bool.not_eq_true', not_or, Bool.not_eq_false] at hbad
        -- a word that starts a field has a first character
        have hw : w ≠ [] := by
          rintro rfl
          simp at hbad
        refine AllResults.ok ⟨by simpa [String.ofList_eq_empty_iff] using hw, ?_⟩
        exact Or.inr (by simpa using hbad.2)
  · exact AllResults.error _

section Leaf

variable {g} {field : String}

theorem readComparison_normalWith (hf : g.FieldName field) (op : CompareOp) (ts : List Token) :
    AllResults (fun r => r.1.NormalWith (Predicate.Resolved g like))
      (readComparison dates g field op ts) := by
  unfold readComparison
  refine AllResults.bind (readValue_resolvedIn g _ ts) fun r hv => ?_
  obtain ⟨v, rest⟩ := r
  dsimp only
  -- `= NULL` and `!= NULL` read as null tests
  split
  · exact AllResults.ok (Predicate.NormalWith.test rfl hf)
  · exact AllResults.ok (Predicate.NormalWith.test rfl hf)
  · exact AllResults.ok (Predicate.NormalWith.test rfl ⟨hf, hv⟩)

theorem readIsNull_normalWith (hf : g.FieldName field) (ts : List Token) :
    AllResults (fun r => r.1.NormalWith (Predicate.Resolved g like)) (readIsNull field ts) := by
  intro r h
  unfold readIsNull at h
  -- whatever the tokens, the only result is a null test of the field
  repeat' split at h
  all_goals cases h
  all_goals exact Predicate.NormalWith.test rfl hf

theorem readBetween_normalWith (hf : g.FieldName field) (negated : Bool) (ts : List Token) :
    AllResults (fun r => r.1.NormalWith (Predicate.Resolved g like))
      (readBetween dates g field negated ts) := by
  unfold readBetween
  dsimp only
  split
  · exact AllResults.error _
  rename_i low rest hlow
  split
  · rename_i t rest'
    split
    · split
      · exact AllResults.error _
      · rename_i high rest'' hhigh
        exact AllResults.ok (Predicate.NormalWith.test rfl
          ⟨hf, readValue_resolvedIn g _ ts _ hlow, readValue_resolvedIn g _ rest' _ hhigh⟩)
    · exact AllResults.error _
  · exact AllResults.error _

theorem readListValues_resolvedIn : ∀ (fuel : Nat) (ts : List Token) (acc : List Literal),
    (∀ v ∈ acc, v.ResolvedIn g) →
      AllResults (fun r => ∀ v ∈ r.1, v.ResolvedIn g) (readListValues dates g fuel ts acc)
  | 0, _, _, _ => by
    rw [readListValues]
    exact AllResults.error _
  | fuel + 1, ts, acc, hacc => by
    rw [readListValues]
    -- a missing value is reported as an empty entry; every value read is resolved, and the
    -- list goes on after a comma and ends at `)`
    split
    · exact AllResults.bind (P := fun _ => False) (AllResults.error _) fun _ h => h.elim
    · refine AllResults.bind (readValue_resolvedIn g _ ts) fun r hv => ?_
      obtain ⟨v, rest⟩ := r
      have hacc' : ∀ w ∈ v :: acc, w.ResolvedIn g := List.forall_mem_cons.2 ⟨hv, hacc⟩
      dsimp only
      split
      · exact readListValues_resolvedIn fuel _ _ hacc'
      · exact AllResults.ok fun w hw => hacc' w (List.mem_reverse.1 hw)
      · exact AllResults.error _

theorem readIn_normalWith (hf : g.FieldName field) (negated : Bool) (ts : List Token) :
    AllResults (fun r => r.1.NormalWith (Predicate.Resolved g like))
      (readIn dates g field negated ts) := by
  unfold readIn
  split
  · exact AllResults.ok (Predicate.NormalWith.test rfl ⟨hf, by simp⟩)
  · refine AllResults.bind (readListValues_resolvedIn _ _ [] (by simp)) fun r hvs => ?_
    obtain ⟨values, rest⟩ := r
    exact AllResults.ok (Predicate.NormalWith.test rfl ⟨hf, hvs⟩)
  · exact AllResults.error _

theorem readLike_normalWith (hf : g.FieldName field) (negated : Bool) (ts : List Token) :
    AllResults (fun r => r.1.NormalWith (Predicate.Resolved g like))
      (readLike dates g like field negated ts) := by
  unfold readLike
  refine AllResults.bind (readValue_resolvedIn g _ ts) fun r hv => ?_
  obtain ⟨v, rest⟩ := r
  dsimp only
  split
  · rename_i p
    -- the pattern is made from the text as `likePattern` makes it
    exact AllResults.ok (Predicate.NormalWith.test rfl ⟨hf, p, by cases like <;> rfl, hv⟩)
  · exact AllResults.error _

theorem readKeywordOperator_normalWith (hf : g.FieldName field) (keyword : Token)
    (negated : Bool) (ts : List Token) :
    AllResults (fun r => r.1.NormalWith (Predicate.Resolved g like))
      (readKeywordOperator dates g like field keyword negated ts) := by
  unfold readKeywordOperator
  split_ifs
  · exact readBetween_normalWith like hf negated ts
  · exact readIn_normalWith like hf negated ts
  · exact readLike_normalWith like hf negated ts
  · exact AllResults.error _
  · exact AllResults.error _

end Leaf

theorem readClauseTokens_normalWith (ts : List Token) :
    AllResults (Predicate.NormalWith (Predicate.Resolved g like))
        (readClauseTokens dates g like ts) := by
  have hconst : ∀ b, AllResults (Predicate.NormalWith (Predicate.Resolved g like))
      (.ok (.const b)) :=
    fun b => AllResults.ok (Predicate.NormalWith.const (fun _ => True.intro) b)
  have hgeneral : AllResults (Predicate.NormalWith (Predicate.Resolved g like))
      (readClauseTokens.readGeneral dates g like ts) := by
    unfold readClauseTokens.readGeneral
    refine AllResults.bind (readField_fieldName g ts) fun r hf => ?_
    obtain ⟨field, rest⟩ := r
    dsimp only
    -- each branch reads what follows the field, and then no token may be left
    repeat' split
    all_goals
      refine AllResults.bind
        (P := fun (r : Predicate × List Token) => r.1.NormalWith (Predicate.Resolved g like)) ?_
        fun r hr => by split <;> first | exact AllResults.ok hr | exact AllResults.error _
    · exact AllResults.error _
    · exact readComparison_normalWith like hf _ _
    · exact readIsNull_normalWith like hf _
    · exact readKeywordOperator_normalWith like hf _ true _
    · exact AllResults.error _
    · exact readKeywordOperator_normalWith like hf _ false _
  unfold readClauseTokens
  split
  · exact hconst true
  · split_ifs
    · exact hconst true
    · exact hconst false
    · exact hgeneral
  · exact hgeneral

theorem readClause_normalWith (text : List Char) :
    AllResults (Predicate.NormalWith (Predicate.Resolved g like))
        (readClause dates g like text) := by
  intro p h
  unfold readClause at h
  split at h
  · rename_i p' hp
    cases h
    exact AllResults.bind (AllResults.trivial _) (fun ts _ => readClauseTokens_normalWith g like ts)
      _ hp
  · cases h

/-! ## The fold of a level keeps the normal form -/

mutual

/-- Folding the pieces of a level onto a tree in normal form gives a tree in normal form. -/
theorem buildPieces_normalWith : ∀ (pieces : List Piece) (acc : Option Predicate),
    (∀ a ∈ acc, a.NormalWith (Predicate.Resolved g like)) →
      AllResults (Predicate.NormalWith (Predicate.Resolved g like))
          (buildPieces dates g like pieces acc)
  | [], acc, hacc => by
    cases acc with
    | none => exact AllResults.ok (Predicate.NormalWith.const (fun _ => True.intro) true)
    | some a => exact AllResults.ok (hacc a rfl)
  | p :: rest, acc, hacc => by
    cases hp : p.isEmptyClause
    · rw [buildPieces_cons (ne_clause_nil_of_isEmptyClause hp) rest]
      refine AllResults.bind (buildPiece_normalWith p) fun current hcur => ?_
      refine buildPieces_normalWith rest _ fun a ha => ?_
      -- the first piece is the tree so far; each later one is joined to it
      cases acc with
      | none =>
        cases ha
        exact hcur
      | some previous =>
        cases ha
        refine Predicate.combine_normalWith (fun _ => True.intro) p.conn fun c hc => ?_
        simp only [List.mem_cons, List.not_mem_nil, or_false] at hc
        rcases hc with rfl | rfl
        · exact hacc c rfl
        · exact hcur
    · -- an empty clause is dropped
      obtain ⟨conn, rfl⟩ := eq_clause_nil_of_isEmptyClause hp
      exact buildPieces_normalWith rest acc hacc

/-- The tree of one piece is in normal form. -/
theorem buildPiece_normalWith : ∀ p : Piece,
    AllResults (Predicate.NormalWith (Predicate.Resolved g like)) (buildPiece dates g like p)
  | .clause _ text => readClause_normalWith g like text
  | .group _ negated pieces => by
    refine AllResults.bind (buildPieces_normalWith pieces none (by simp)) fun inner h => ?_
    -- a `NOT` group negates the tree of its pieces
    cases negated
    · exact AllResults.ok h
    · exact AllResults.ok (Predicate.negate_normalWith (fun _ => True.intro) h)

end

end Reader

/-- Every tree read from a filter is in normal form, and no placeholder is left in it: every
    field name is non-empty, and every field name, text value and text of a `LIKE` pattern is
    the content of a quoted span or free of the marker of the guard's reading. -/
theorem parse_normalWith {opts : ParseOptions} {text : String} {t : Predicate}
    (h : parse opts text = .ok t) :
    t.Normal ∧ ∃ g, guard text.toList opts.quotes opts.placeholderMaxLen = .ok g ∧
      ∀ q ∈ t.leaves, q.Resolved g opts.like := by
  unfold parse at h
  cases hg : guard text.toList opts.quotes opts.placeholderMaxLen with
  | error e =>
    rw [hg] at h
    cases h
  | ok g =>
    rw [hg, except_ok_bind] at h
    cases hs : split g.text opts.maxDepth with
    | error e =>
      rw [hs] at h
      cases h
    | ok pieces =>
      rw [hs, except_ok_bind] at h
      obtain ⟨hnorm, hleaves⟩ := buildPieces_normalWith g opts.like pieces none (by simp) t h
      exact ⟨hnorm, g, rfl, hleaves⟩

/-- A bare field compared with a quoted text: the span becomes the placeholder `a0a`, which the
    reader looks up, so the tree holds the text `y` and no marker. -/
theorem parse_normalWith_quoted_value :
    parse {} "x = 'y'" = .ok (.compare "x" .eq (.text "y")) ∧
      (Predicate.compare "x" .eq (.text "y")).Normal ∧
      ∃ g, guard "x = 'y'".toList ({} : ParseOptions).quotes
          ({} : ParseOptions).placeholderMaxLen = .ok g ∧
        ∀ q ∈ (Predicate.compare "x" .eq (.text "y")).leaves, q.Resolved g ({} : ParseOptions).like := by
  have hg : guard "x = 'y'".toList ({} : ParseOptions).quotes
      ({} : ParseOptions).placeholderMaxLen = .ok ⟨"x = a0a".toList, ['a'], ["'y'".toList]⟩ := rfl
  have htext : "x = a0a".toList = ['x', ' ', '=', ' ', 'a', '0', 'a'] := by decide
  -- no keyword and no parenthesis: the guarded text is one clause
  have hsplit : split "x = a0a".toList ({} : ParseOptions).maxDepth =
      .ok [.clause .and "x = a0a".toList] := by
    rw [htext, split, splitLevel, if_neg (by decide)]
    simp (disch := decide) only [walkLevel_cons_of_keywordAt_none]
    rw [walkLevel.eq_1]
    rfl
  have htok : tokenize "x = a0a".toList = .ok [.word ['x'], .op .eq, .word ['a', '0', 'a']] := by
    rw [htext, tokenize, lexTokens_word (by decide)]
    simp (disch := decide) only [List.takeWhile_cons_of_neg, List.dropWhile_cons_of_neg]
    rw [lexTokens_whiteSpace (by decide), lexTokens_equals, if_neg (by decide),
      lexTokens_whiteSpace (by decide), lexTokens_word (by decide)]
    simp (disch := decide) only [List.takeWhile_cons_of_pos, List.dropWhile_cons_of_pos,
      List.takeWhile_nil, List.dropWhile_nil]
    rw [lexTokens_nil]
    rfl
  have hparse : parse {} "x = 'y'" = .ok (.compare "x" .eq (.text "y")) := by
    unfold parse
    rw [hg, except_ok_bind, hsplit, except_ok_bind, build, buildPieces_cons (by simp)]
    show (readClause _ _ _ _ >>= _) = _
    unfold readClause
    rw [htok]
    rfl
  exact ⟨hparse, parse_normalWith hparse⟩

end FilterQuery.Query

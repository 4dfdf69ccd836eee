import FilterQuery.Query.Predicate

/-!
# The truth value of a predicate

Once each leaf of a predicate is true or false, so is the predicate: `Predicate.eval leaf p`
reads a constant as itself, a junction as all (`AND`) or any (`OR`) of its children and a
negation as the opposite of its child, and asks `leaf` for the value of each leaf.

`Predicate.combine` and `Predicate.negate` are the two ways a tree is built from smaller
ones, and both keep this meaning whatever the leaves are worth. Dropping a constant that is
the connective's identity, deciding a junction at a constant that absorbs it, splicing in
the children of a junction under the same connective and collapsing a junction of one child
are each rewrites of `all` or `any` that keep its value.

## Key results
- `evalAll_append`, `evalAll_reverse`: a junction's value over a join and a reversal
- `evalAll_flattenInto`, `evalAll_of_flattenInto_none`: flattening keeps the value, and it
  stops only at a constant that decides the junction
- `eval_combine`: the value of a junction built by `combine`
- `eval_negate`: the value of a negation built by `negate`
- `Predicate.leaves`: the leaves of a predicate, depth first and left to right
-/

namespace FilterQuery.Query

/-- The boolean operation of a connective. -/
def Connective.apply : Connective → Bool → Bool → Bool
  | .and => (· && ·)
  | .or => (· || ·)

namespace Connective

variable (conn : Connective) (a b c : Bool)

@[simp] theorem apply_and : Connective.and.apply a b = (a && b) := rfl

@[simp] theorem apply_or : Connective.or.apply a b = (a || b) := rfl

@[simp] theorem apply_identity_left : conn.apply (Predicate.identity conn) a = a := by
  cases conn <;> simp [Predicate.identity]

@[simp] theorem apply_identity_right : conn.apply a (Predicate.identity conn) = a := by
  cases conn <;> simp [Predicate.identity]

/-- The constant that is not the identity absorbs everything it is joined to. -/
@[simp] theorem apply_absorb_left :
    conn.apply (!Predicate.identity conn) a = !Predicate.identity conn := by
  cases conn <;> simp [Predicate.identity]

@[simp] theorem apply_absorb_right :
    conn.apply a (!Predicate.identity conn) = !Predicate.identity conn := by
  cases conn <;> simp [Predicate.identity]

theorem apply_comm : conn.apply a b = conn.apply b a := by
  cases conn <;> simp [Bool.and_comm, Bool.or_comm]

theorem apply_assoc : conn.apply (conn.apply a b) c = conn.apply a (conn.apply b c) := by
  cases conn <;> simp [Bool.and_assoc, Bool.or_assoc]

theorem apply_left_comm : conn.apply a (conn.apply b c) = conn.apply b (conn.apply a c) := by
  cases conn <;> simp [Bool.and_left_comm, Bool.or_left_comm]

end Connective

namespace Predicate

mutual

/-- The truth value of a predicate when each leaf has the value `leaf` gives it. -/
def eval (leaf : Predicate → Bool) : Predicate → Bool
  | .const b => b
  | .junction conn children => evalAll leaf conn children
  | .negation child => !eval leaf child
  | p => leaf p

/-- All (`AND`) or any (`OR`) of the children's values. -/
def evalAll (leaf : Predicate → Bool) (conn : Connective) : List Predicate → Bool
  | [] => identity conn
  | p :: rest => conn.apply (eval leaf p) (evalAll leaf conn rest)

end

variable (leaf : Predicate → Bool) (conn : Connective)

@[simp] theorem eval_const (b : Bool) : eval leaf (.const b) = b := by simp [eval]

@[simp] theorem eval_junction (children : List Predicate) :
    eval leaf (.junction conn children) = evalAll leaf conn children := by simp [eval]

@[simp] theorem eval_negation (child : Predicate) :
    eval leaf (.negation child) = !eval leaf child := by
  simp [eval]

/-- A leaf, the one kind of predicate that tests a field, is worth what `leaf` says. -/
theorem eval_of_field? {p : Predicate} {field : String} (hp : p.field? = some field) :
    eval leaf p = leaf p := by
  cases p <;> simp_all [field?, eval]

@[simp] theorem evalAll_nil : evalAll leaf conn [] = identity conn := by simp [evalAll]

@[simp] theorem evalAll_cons (p : Predicate) (rest : List Predicate) :
    evalAll leaf conn (p :: rest) = conn.apply (eval leaf p) (evalAll leaf conn rest) := by
  simp [evalAll]

/-- `AND` is `all` and `OR` is `any`. -/
theorem evalAll_eq (children : List Predicate) :
    evalAll leaf conn children =
      match conn with
      | .and => children.all (eval leaf)
      | .or => children.any (eval leaf) := by
  induction children with
  | nil => cases conn <;> simp [identity]
  | cons p rest ih => cases conn <;> simp_all

theorem evalAll_append (a b : List Predicate) :
    evalAll leaf conn (a ++ b) = conn.apply (evalAll leaf conn a) (evalAll leaf conn b) := by
  induction a with
  | nil => simp
  | cons p rest ih => simp [ih, Connective.apply_assoc]

theorem evalAll_reverse (children : List Predicate) :
    evalAll leaf conn children.reverse = evalAll leaf conn children := by
  induction children with
  | nil => rfl
  | cons p rest ih =>
    rw [List.reverse_cons, evalAll_append, ih, evalAll_cons, evalAll_cons, evalAll_nil,
      Connective.apply_identity_right, Connective.apply_comm]

variable {conn}

/-- Flattening children onto `acc` keeps the value of the junction of both. -/
theorem evalAll_flattenInto {children acc flat : List Predicate}
    (h : flattenInto conn children acc = some flat) :
    evalAll leaf conn flat = conn.apply (evalAll leaf conn children) (evalAll leaf conn acc) := by
  induction children generalizing acc with
  | nil =>
    cases h
    simp
  | cons p rest ih =>
    cases p with
    | const v =>
      by_cases hv : v = identity conn
      · -- a constant equal to the identity is dropped
        simp only [flattenInto, hv, ↓reduceIte] at h
        rw [ih h, evalAll_cons, eval_const, hv, Connective.apply_identity_left]
      · simp [flattenInto, hv] at h
    | junction c inner =>
      by_cases hc : c = conn
      · -- the children of a junction under the same connective are spliced in
        subst hc
        simp only [flattenInto, ↓reduceIte] at h
        rw [ih h, evalAll_append, evalAll_reverse, evalAll_cons, eval_junction,
          Connective.apply_left_comm, Connective.apply_assoc]
      · simp only [flattenInto, hc, ↓reduceIte] at h
        rw [ih h, evalAll_cons, evalAll_cons, Connective.apply_left_comm,
          Connective.apply_assoc]
    | _ =>
      simp only [flattenInto] at h
      rw [ih h, evalAll_cons, evalAll_cons, Connective.apply_left_comm, Connective.apply_assoc]

/-- Flattening stops only at a constant that absorbs the junction, so the junction has the
    absorbing value. -/
theorem evalAll_of_flattenInto_none {children acc : List Predicate}
    (h : flattenInto conn children acc = none) :
    evalAll leaf conn children = !identity conn := by
  induction children generalizing acc with
  | nil => simp [flattenInto] at h
  | cons p rest ih =>
    cases p with
    | const v =>
      by_cases hv : v = identity conn
      · simp only [flattenInto, hv, ↓reduceIte] at h
        simp [ih h]
      · -- the constant is the other boolean, which absorbs the rest
        obtain rfl : v = !identity conn := by revert hv; cases v <;> cases identity conn <;> simp
        simp
    | junction c inner =>
      by_cases hc : c = conn
      · subst hc
        simp only [flattenInto, ↓reduceIte] at h
        simp [ih h]
      · simp only [flattenInto, hc, ↓reduceIte] at h
        simp [ih h]
    | _ =>
      simp only [flattenInto] at h
      simp [ih h]

/-- `combine` builds a junction with the value of all (`AND`) or any (`OR`) of the children. -/
theorem eval_combine (children : List Predicate) :
    eval leaf (combine conn children) = evalAll leaf conn children := by
  unfold combine
  split
  · rename_i h
    rw [eval_const, evalAll_of_flattenInto_none leaf h]
  · -- every child was dropped as the identity
    rename_i h
    have hflat := evalAll_flattenInto leaf h
    simp_all
  · -- a junction of one child is that child
    rename_i p h
    have hflat := evalAll_flattenInto leaf h
    simp_all
  · rename_i flat _ _ h
    rw [eval_junction, evalAll_reverse, evalAll_flattenInto leaf h, evalAll_nil,
      Connective.apply_identity_right]

/-- `negate` builds the opposite of a predicate. -/
theorem eval_negate (p : Predicate) : eval leaf p.negate = !eval leaf p := by
  cases p <;> simp [negate]

end Predicate

/-! ## The leaves of a predicate -/

namespace Predicate

mutual

/-- The leaves of a predicate (constants and the tests of one field), depth first and left
    to right: the predicates whose values `eval` asks for or reads off. -/
def leaves : Predicate → List Predicate
  | .junction _ children => leavesAll children
  | .negation child => leaves child
  | p => [p]

/-- The leaves of the children of a junction, left to right. -/
def leavesAll : List Predicate → List Predicate
  | [] => []
  | p :: ps => leaves p ++ leavesAll ps

end

@[simp] theorem leaves_junction (conn : Connective) (children : List Predicate) :
    (junction conn children).leaves = leavesAll children := by
  simp [leaves]

@[simp] theorem leaves_negation (child : Predicate) : (negation child).leaves = child.leaves := by
  simp [leaves]

@[simp] theorem leavesAll_nil : leavesAll [] = [] := by simp [leavesAll]

@[simp] theorem leavesAll_cons (p : Predicate) (ps : List Predicate) :
    leavesAll (p :: ps) = p.leaves ++ leavesAll ps := by
  simp [leavesAll]

theorem mem_leavesAll {q : Predicate} {children : List Predicate} :
    q ∈ leavesAll children ↔ ∃ c ∈ children, q ∈ c.leaves := by
  induction children with
  | nil => simp
  | cons c cs ih => simp [ih]

end Predicate

end FilterQuery.Query

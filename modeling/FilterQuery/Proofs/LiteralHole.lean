import FilterQuery.Query.Clause

/-!
# Trees with one open literal

A `Hole` is a predicate tree with at most one place left open for a text: a field name, a text
value (of a comparison, of a `BETWEEN` bound or in an `IN` list), or the text that a `LIKE`
pattern is made from. `Hole.fill like u` puts `u` in that place (for a `LIKE` pattern, the
pattern made from `u`). Two trees that are fills of one hole are equal except for that one
literal.

`Predicate.combine` and `Predicate.negate` look only at the top of each child: whether it is a
constant, and whether it is a junction and under which connective. A hole that is open at its top
fills to a tree that is never a constant and whose top does not depend on the text put in, so
joining or negating the fills of one hole gives the fills of one hole.

## Key results

- `Hole.combine_fill`: joining closed trees around one filled hole is filling a hole
- `Hole.combine_pair`: joining two fills of which at most one is open
- `Hole.negate_fill`: negating the fills of one hole
-/

namespace FilterQuery.Query

/-- The pattern a `LIKE` clause makes of a text. -/
def likePattern (like : LikeSyntax) (p : String) : String :=
  match like with
  | .regex => p
  | .sql => String.ofList (sqlLikeToRegex p.toList)

/-- A leaf with one of its texts left open. -/
inductive LeafHole where
  | compareField (op : CompareOp) (value : Literal)
  | compareValue (field : String) (op : CompareOp)
  | betweenField (low high : Literal) (negated : Bool)
  | betweenLow (field : String) (high : Literal) (negated : Bool)
  | betweenHigh (field : String) (low : Literal) (negated : Bool)
  | memberField (values : List Literal) (negated : Bool)
  | memberValue (field : String) (before after : List Literal) (negated : Bool)
  | likeField (pattern : String) (negated : Bool)
  | likePattern (field : String) (negated : Bool)
  | isNullField (negated : Bool)

/-- The leaf with the text `u` put in its open place. -/
def LeafHole.fill (like : LikeSyntax) (u : String) : LeafHole → Predicate
  | compareField op v => .compare u op v
  | compareValue f op => .compare f op (.text u)
  | betweenField lo hi n => .between u lo hi n
  | betweenLow f hi n => .between f (.text u) hi n
  | betweenHigh f lo n => .between f lo (.text u) n
  | memberField vs n => .member u vs n
  | memberValue f bs as n => .member f (bs ++ .text u :: as) n
  | likeField pat n => .like u pat n
  | likePattern f n => .like f (Query.likePattern like u) n
  | isNullField n => .isNull u n

/-- A predicate tree with at most one open text. -/
inductive Hole where
  /-- A tree with nothing open. -/
  | closed (p : Predicate)
  | leaf (l : LeafHole)
  /-- A junction with the open child among closed ones. -/
  | junction (conn : Connective) (before : List Predicate) (h : Hole) (after : List Predicate)
  | negation (h : Hole)

namespace Hole

/-- The tree with the text `u` put in the open place. -/
def fill (like : LikeSyntax) (u : String) : Hole → Predicate
  | closed p => p
  | leaf l => l.fill like u
  | junction conn before h after => .junction conn (before ++ h.fill like u :: after)
  | negation h => .negation (h.fill like u)

/-- Whether the hole is open at its top. -/
def isOpen : Hole → Bool
  | closed _ => false
  | _ => true

@[simp] theorem fill_closed (like : LikeSyntax) (u : String) (p : Predicate) :
    (closed p).fill like u = p := rfl

@[simp] theorem isOpen_closed (p : Predicate) : (closed p).isOpen = false := rfl

/-- The children an open hole gives a junction under `conn`, the open one among them: the
    children of a junction under `conn` are spliced in. -/
def splice (conn : Connective) : Hole → List Predicate × Hole × List Predicate
  | junction c before h after =>
    if c = conn then (before, h, after) else ([], junction c before h after, [])
  | h => ([], h, [])

/-- The junction under `conn` of closed children around an open one; a lone child stands for
    itself. -/
def joinAround (conn : Connective) : List Predicate → Hole → List Predicate → Hole
  | [], h, [] => h
  | before, h, after => junction conn before h after

/-- `Predicate.combine` of closed children around one hole. -/
def combine (conn : Connective) (xs : List Predicate) (H : Hole) (ys : List Predicate) : Hole :=
  match Predicate.flattenInto conn xs [], Predicate.flattenInto conn ys [] with
  | some xs', some ys' =>
    joinAround conn (xs'.reverse ++ (H.splice conn).1) (H.splice conn).2.1
      ((H.splice conn).2.2 ++ ys'.reverse)
  | _, _ => closed (.const !Predicate.identity conn)

end Hole

/-! ## Flattening children -/

namespace Predicate

theorem flattenInto_append (conn : Connective) (xs ys acc : List Predicate) :
    flattenInto conn (xs ++ ys) acc = (flattenInto conn xs acc).bind (flattenInto conn ys) := by
  fun_induction flattenInto conn xs acc <;> simp_all [flattenInto]

/-- The children already flattened are only carried along. -/
theorem flattenInto_acc (conn : Connective) (ys acc : List Predicate) :
    flattenInto conn ys acc = (flattenInto conn ys []).map (· ++ acc) := by
  induction ys generalizing acc with
  | nil => rfl
  | cons x ys ih =>
    cases x with
    | const v =>
      by_cases hv : v = identity conn
      · simp only [flattenInto, hv, ↓reduceIte, ih acc]
      · simp [flattenInto, hv]
    | junction c inner =>
      by_cases hc : c = conn
      · simp only [flattenInto, hc, ↓reduceIte, List.append_nil]
        rw [ih (inner.reverse ++ acc), ih inner.reverse]
        simp only [Option.map_map, Function.comp_def, List.append_assoc]
      · simp only [flattenInto, hc, ↓reduceIte]
        rw [ih (junction c inner :: acc), ih [junction c inner]]
        simp only [Option.map_map, Function.comp_def, List.append_assoc, List.singleton_append]
    | _ =>
      simp only [flattenInto]
      rw [ih, ih [_]]
      simp only [Option.map_map, Function.comp_def, List.append_assoc, List.singleton_append]

/-- The lone child, or the junction under `conn` of the children. -/
def soleOrJunction (conn : Connective) : List Predicate → Predicate
  | [p] => p
  | children => .junction conn children

/-- A junction of children that flatten to a non-empty list is its lone child or the junction of
    them all. -/
theorem combine_of_flattenInto {conn : Connective} {cs flat : List Predicate}
    (h : flattenInto conn cs [] = some flat.reverse) (hflat : flat ≠ []) :
    combine conn cs = soleOrJunction conn flat := by
  unfold combine
  rw [h]
  match flat, hflat with
  | [p], _ => rfl
  | p :: q :: rest, _ =>
    -- the flattened children number at least two
    split
    · rename_i heq; simp at heq
    · rename_i heq; simp at heq
    · rename_i heq
      have hlen := congrArg (Option.map List.length) heq
      simp at hlen
    · rename_i heq
      obtain rfl := Option.some.inj heq
      rw [List.reverse_reverse]
      rfl

end Predicate

namespace Hole

variable {like : LikeSyntax} {u : String}

/-- An open hole spliced into a junction gives the same children as its fill. -/
theorem flattenInto_fill {H : Hole} (hH : H.isOpen) (conn : Connective) (ys acc : List Predicate) :
    Predicate.flattenInto conn (H.fill like u :: ys) acc =
      Predicate.flattenInto conn ys
        (((H.splice conn).1 ++ (H.splice conn).2.1.fill like u :: (H.splice conn).2.2).reverse
          ++ acc) := by
  cases H with
  | closed p => cases hH
  | leaf l => cases l <;> simp [fill, LeafHole.fill, splice, Predicate.flattenInto]
  | junction c before h after =>
    by_cases hc : c = conn
    · simp [fill, splice, hc, Predicate.flattenInto]
    · simp [fill, splice, hc, Predicate.flattenInto]
  | negation h => simp [fill, splice, Predicate.flattenInto]

theorem fill_joinAround (conn : Connective) (before : List Predicate) (h : Hole)
    (after : List Predicate) :
    (joinAround conn before h after).fill like u =
      Predicate.soleOrJunction conn (before ++ h.fill like u :: after) := by
  cases before <;> cases after <;> simp [joinAround, fill, Predicate.soleOrJunction]

/-- Joining closed trees around one filled open hole is filling a hole, the same for every text
    put in. -/
theorem combine_fill {H : Hole} (hH : H.isOpen) (conn : Connective) (xs ys : List Predicate) :
    Predicate.combine conn (xs ++ H.fill like u :: ys) = (combine conn xs H ys).fill like u := by
  have hflat := Predicate.flattenInto_append conn xs (H.fill like u :: ys) []
  unfold combine
  cases hxs : Predicate.flattenInto conn xs [] with
  | none =>
    -- an absorbing constant before the hole decides the junction
    rw [hxs, Option.bind_none] at hflat
    simp [Predicate.combine, hflat]
  | some xs' =>
    rw [hxs, Option.bind_some, flattenInto_fill hH, Predicate.flattenInto_acc conn ys] at hflat
    cases hys : Predicate.flattenInto conn ys [] with
    | none =>
      rw [hys, Option.map_none] at hflat
      simp [Predicate.combine, hflat]
    | some ys' =>
      rw [hys, Option.map_some] at hflat
      generalize H.splice conn = s at hflat ⊢
      obtain ⟨before, h, after⟩ := s
      have hrev : ys' ++ ((before ++ h.fill like u :: after).reverse ++ xs') =
          (xs'.reverse ++ before ++ h.fill like u :: (after ++ ys'.reverse)).reverse := by simp
      rw [hrev] at hflat
      rw [Predicate.combine_of_flattenInto hflat (by simp), fill_joinAround]

theorem eq_closed_of_isOpen_eq_false {H : Hole} (h : H.isOpen = false) :
    ∃ p, H = closed p := by
  cases H with
  | closed p => exact ⟨p, rfl⟩
  | _ => cases h

/-- Joining two trees of which at most one is open gives the fills of one hole, open only if one
    of the two was. -/
theorem combine_pair (conn : Connective) {H₁ H₂ : Hole} (h : ¬ (H₁.isOpen ∧ H₂.isOpen)) :
    ∃ H : Hole, (H.isOpen → H₁.isOpen ∨ H₂.isOpen) ∧
      ∀ u, Predicate.combine conn [H₁.fill like u, H₂.fill like u] = H.fill like u := by
  cases h₁ : H₁.isOpen with
  | false =>
    obtain ⟨p, rfl⟩ := eq_closed_of_isOpen_eq_false h₁
    cases h₂ : H₂.isOpen with
    | false =>
      obtain ⟨q, rfl⟩ := eq_closed_of_isOpen_eq_false h₂
      exact ⟨closed (Predicate.combine conn [p, q]), by simp, fun _ => rfl⟩
    | true => exact ⟨combine conn [p] H₂ [], fun _ => .inr rfl, fun _ => combine_fill h₂ conn [p] []⟩
  | true =>
    -- the second tree is closed, since at most one is open
    have h₂ : H₂.isOpen = false := by simpa [h₁] using h
    obtain ⟨q, rfl⟩ := eq_closed_of_isOpen_eq_false h₂
    exact ⟨combine conn [] H₁ [q], fun _ => .inl rfl, fun _ => combine_fill h₁ conn [] [q]⟩

/-- Negating the fills of one hole gives the fills of one hole, open only if it was. -/
theorem negate_fill (H : Hole) :
    ∃ H' : Hole, (H'.isOpen → H.isOpen) ∧ ∀ u, (H.fill like u).negate = H'.fill like u := by
  cases H with
  | closed p => exact ⟨closed p.negate, by simp, fun _ => rfl⟩
  | leaf l => exact ⟨negation (leaf l), fun _ => rfl, fun _ => by cases l <;> rfl⟩
  | junction conn before h after =>
    exact ⟨negation (junction conn before h after), fun _ => rfl, fun _ => rfl⟩
  | negation h => exact ⟨negation (negation h), fun _ => rfl, fun _ => rfl⟩

end Hole

end FilterQuery.Query

import FilterQuery.Proofs.Valuation

/-!
# The fields of a predicate, each once

`Predicate.fields` walks a tree depth first and left to right, threading one list of the
fields seen so far through the whole walk, and adds the field of a leaf only when the list
does not hold it yet. Because the list is shared by sibling subtrees, and not merged from
their separate results, the walk gives the fields of the leaves in that order with every
repeat after the first dropped: `List.eraseDups` of the leaves' fields.

## Key results
- `List.nodup_eraseDups`, `List.eraseDups_eraseDups_append`: `eraseDups` leaves no repeat, so
  a list already free of repeats may be taken through it again
- `collectFields_eq_eraseDups`: from a list `seen` of distinct fields, the walk gives the first
  occurrences of `seen` followed by the fields of the tree's leaves
- `fields_first_occurrences`: the fields of a predicate are the first occurrences of its
  leaves' fields; they have no repeat and are exactly the fields of its leaves
-/

namespace List

variable {α : Type} [BEq α] [LawfulBEq α]

/-- A list without repeats loses nothing to `eraseDups`. -/
theorem eraseDups_of_nodup : ∀ {l : List α}, l.Nodup → l.eraseDups = l
  | [], _ => rfl
  | a :: as, h => by
    rw [nodup_cons] at h
    have hkeep : (as.filter fun b => !b == a) = as := by
      rw [filter_eq_self]
      intro b hb
      have hba : b ≠ a := fun hba => h.1 (hba ▸ hb)
      simpa using hba
    rw [eraseDups_cons, hkeep, eraseDups_of_nodup h.2]

/-- `eraseDups` leaves no repeat: the head it keeps is filtered out of the rest. -/
theorem nodup_eraseDups : ∀ l : List α, l.eraseDups.Nodup
  | [] => nodup_nil
  | a :: as => by
    rw [eraseDups_cons, nodup_cons]
    refine ⟨?_, nodup_eraseDups (as.filter fun b => !b == a)⟩
    rw [mem_eraseDups, mem_filter]
    rintro ⟨-, hne⟩
    simp at hne
termination_by l => l.length
decreasing_by exact Nat.lt_succ_of_le (length_filter_le _ _)

/-- Members kept by `eraseDups` are members of the list: removing them removes the same. -/
theorem removeAll_eraseDups (m l : List α) : m.removeAll l.eraseDups = m.removeAll l := by
  unfold removeAll
  apply filter_congr
  intro x _
  simp only [elem_eq_mem, mem_eraseDups]

/-- Taking a list through `eraseDups` before appending changes nothing that `eraseDups`
    of the whole list keeps. -/
theorem eraseDups_eraseDups_append (l m : List α) :
    (l.eraseDups ++ m).eraseDups = (l ++ m).eraseDups := by
  rw [eraseDups_append, eraseDups_of_nodup (nodup_eraseDups l), removeAll_eraseDups,
    eraseDups_append]

/-- One more element on a list without repeats is kept exactly when it is new. -/
theorem eraseDups_append_singleton {l : List α} (hl : l.Nodup) (a : α) :
    (l ++ [a]).eraseDups = if a ∈ l then l else l ++ [a] := by
  rw [eraseDups_append, eraseDups_of_nodup hl]
  by_cases ha : a ∈ l
  · simp [removeAll, ha]
  · simp [removeAll, ha, eraseDups_cons]

end List

namespace FilterQuery.Query.Predicate

/-- At a leaf the walk adds the leaf's field, unless it has been seen. -/
theorem collectFields_leaf {p : Predicate} (hp : p.isLeaf = true) {seen : List String}
    (hseen : seen.Nodup) : collectFields p seen = (seen ++ p.leaves.filterMap field?).eraseDups := by
  cases p with
  | junction => cases hp
  | negation => cases hp
  | const v =>
    simp only [collectFields, leaves, field?, List.filterMap_cons, List.filterMap_nil]
    rw [List.append_nil, List.eraseDups_of_nodup hseen]
  | compare f | between f | member f | like f | isNull f =>
    simp only [collectFields, leaves, field?, List.filterMap_cons, List.filterMap_nil]
    rw [List.eraseDups_append_singleton hseen]

mutual

/-- The walk from a list `seen` of distinct fields gives `seen` followed by the fields of the
    leaves, each at its first occurrence. -/
theorem collectFields_eq_eraseDups :
    ∀ (p : Predicate) {seen : List String}, seen.Nodup →
      collectFields p seen = (seen ++ p.leaves.filterMap field?).eraseDups
  | .junction _ children, seen, hseen => by
    rw [collectFields, leaves_junction]
    exact collectFieldsList_eq_eraseDups children hseen
  | .negation child, seen, hseen => by
    rw [collectFields, leaves_negation]
    exact collectFields_eq_eraseDups child hseen
  | .const _, _, hseen => collectFields_leaf rfl hseen
  | .compare _ _ _, _, hseen => collectFields_leaf rfl hseen
  | .between _ _ _ _, _, hseen => collectFields_leaf rfl hseen
  | .member _ _ _, _, hseen => collectFields_leaf rfl hseen
  | .like _ _ _, _, hseen => collectFields_leaf rfl hseen
  | .isNull _ _, _, hseen => collectFields_leaf rfl hseen

/-- The walk over the children of a junction: the list of fields seen is passed from each
    child to the next, so a field is added at its first occurrence among all of them. -/
theorem collectFieldsList_eq_eraseDups :
    ∀ (children : List Predicate) {seen : List String}, seen.Nodup →
      collectFieldsList children seen = (seen ++ (leavesAll children).filterMap field?).eraseDups
  | [], seen, hseen => by
    rw [collectFieldsList, leavesAll_nil, List.filterMap_nil, List.append_nil,
      List.eraseDups_of_nodup hseen]
  | p :: rest, seen, hseen => by
    have hp := collectFields_eq_eraseDups p hseen
    rw [collectFieldsList, collectFieldsList_eq_eraseDups rest (hp ▸ List.nodup_eraseDups _), hp,
      List.eraseDups_eraseDups_append, leavesAll_cons, List.filterMap_append, List.append_assoc]

end

/-- The fields of a predicate are the fields of its leaves, depth first and left to right, with
    every repeat after the first dropped. So no field is listed twice, and the fields listed
    are exactly those of the leaves. -/
theorem fields_first_occurrences (p : Predicate) :
    p.fields = (p.leaves.filterMap field?).eraseDups ∧ p.fields.Nodup ∧
      ∀ f, f ∈ p.fields ↔ ∃ q ∈ p.leaves, q.field? = some f := by
  have hfields : p.fields = (p.leaves.filterMap field?).eraseDups := by
    rw [fields, collectFields_eq_eraseDups p List.nodup_nil, List.nil_append]
  refine ⟨hfields, hfields ▸ List.nodup_eraseDups _, fun f => ?_⟩
  rw [hfields, List.mem_eraseDups, List.mem_filterMap]

example : (junction .or [compare "b" .eq (.int 1), negation (junction .and
    [compare "a" .eq (.int 1), compare "b" .eq (.int 2)])]).fields = ["b", "a"] := by decide

end FilterQuery.Query.Predicate

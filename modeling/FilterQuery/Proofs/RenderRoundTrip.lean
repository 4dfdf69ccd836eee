import FilterQuery.Proofs.RenderedClauses

/-!
# Written trees read back

`Predicate.render` writes a tree as filter text, and `parse` reads it back to the same tree,
under conditions each of which a reading can fail without:

* the tree is in normal form (`Predicate.Normal`), as every tree `parse` gives is: a junction
  of one child, a constant inside a junction or a junction under the connective of its parent
  would be flattened away;
* every leaf reads back (`Predicate.Rereads`): a plain field name is no keyword, numbers fit in
  64 bits or are finite, a date is one the reader stores (`DateTime.Stored`: a real day, its
  fraction below two seconds and over one only in a leap second) in years `0000`..`9999`, and
  `= NULL` is not written (it reads as `IS NULL`);
* the groups of the written form nest no deeper than the reader allows (`Predicate.groupDepth`):
  a junction under a junction is written in parentheses, so a tree folded from a flat text can
  nest deeper than the text did;
* the written form is shorter than the number of markers the guard may try, so one is free.

The proof follows the reader. The guard replaces the quoted spans of the written form by
placeholders (`guard_render`); each level of the written form is split into one piece per child
of its junction (`Predicate.childrenWalk`), a child junction or a negation as a group split one
level deeper, a leaf as a clause that reads back to it (`readClause_leafText`); and the pieces,
folded left to right, splice the children back into the junction (`buildPieces_junction`).

## Key results
- `buildPieces_junction`: the pieces of a junction's children fold back to the junction
- `Predicate.levelReads`, `Predicate.childrenWalk`: a level of the written form is split and
  folded back to its tree
- `parse_render`: a tree is read back from its written form
- `parse_render_of_parse`: so is every tree read from a filter, when its leaves read back, its
  groups nest within the reader's bound and its written form is short enough
-/

namespace FilterQuery.Query

/-! ## How deep groups nest in a written tree -/

namespace Predicate

mutual

/-- How deep the groups of a tree's written form nest: a negation is written as a group, and
    so is a junction that is the child of a junction. -/
def groupDepth : Predicate → Nat
  | .junction _ children => childrenDepth children
  | .negation child => groupDepth child + 1
  | _ => 0

/-- How deep the groups of a junction's written children nest, a child junction in a group of
    its own. -/
def childrenDepth : List Predicate → Nat
  | [] => 0
  | p :: rest =>
    max (match p with
      | .junction _ _ => groupDepth p + 1
      | _ => groupDepth p) (childrenDepth rest)

end

end Predicate

/-! ## Junctions folded from their pieces -/

section Fold

variable {conn : Connective}

/-- A child that is no constant and no junction under the connective is kept as it is. -/
theorem flattenInto_cons_of_keep {c : Predicate} (hc : ∀ b, c ≠ .const b)
    (hj : c.isJunctionOf conn = false) (rest acc : List Predicate) :
    Predicate.flattenInto conn (c :: rest) acc = Predicate.flattenInto conn rest (c :: acc) := by
  cases c with
  | const b => exact absurd rfl (hc b)
  | junction c' inner =>
    have hne : c' ≠ conn := by simpa [Predicate.isJunctionOf] using hj
    rw [Predicate.flattenInto, if_neg hne]
  | _ => rfl

/-- Two children kept as they are make a junction of two. -/
theorem combine_pair {c₁ c₂ : Predicate} (h₁ : c₁.Reduced) (h₂ : c₂.Reduced)
    (hj₁ : c₁.isJunctionOf conn = false) (hj₂ : c₂.isJunctionOf conn = false) :
    Predicate.combine conn [c₁, c₂] = .junction conn [c₁, c₂] := by
  have hflat : Predicate.flattenInto conn [c₁, c₂] [] = some [c₂, c₁] := by
    rw [flattenInto_cons_of_keep h₁.ne_const hj₁, flattenInto_cons_of_keep h₂.ne_const hj₂]
    rfl
  rw [Predicate.combine, hflat]
  rfl

/-- A child kept as it is, joined to a junction under the connective, is spliced in last. -/
theorem combine_junction_snoc {pre : List Predicate} (hpre : pre ≠ []) {c : Predicate}
    (hc : c.Reduced) (hj : c.isJunctionOf conn = false) :
    Predicate.combine conn [.junction conn pre, c] = .junction conn (pre ++ [c]) := by
  obtain ⟨x, xs, hx⟩ := List.exists_cons_of_ne_nil (List.reverse_ne_nil_iff.2 hpre)
  have hflat : Predicate.flattenInto conn [.junction conn pre, c] [] = some (c :: x :: xs) := by
    rw [Predicate.flattenInto, if_pos rfl, flattenInto_cons_of_keep hc.ne_const hj,
      List.append_nil, hx]
    rfl
  rw [Predicate.combine, hflat]
  simp only [List.reverse_cons, ← hx, List.reverse_reverse]

/-- A piece that the fold reads to a tree: it is no empty clause, and it builds to the tree. -/
structure Piece.Reads (g : Guarded) (P : Piece) (c : Predicate) : Prop where
  kept : P.isEmptyClause = false
  build : buildPiece DateTime.readLiteral? g .regex P = .ok c

variable {g : Guarded}

/-- Pieces joined by the connective, read to children kept as they are, are spliced one by one
    into a junction of two children or more. -/
theorem buildPieces_junction_snoc {ps : List Piece} {cs : List Predicate}
    (hreads : List.Forall₂ (Piece.Reads g) ps cs) (hconn : ∀ P ∈ ps, P.conn = conn)
    (hkeep : ∀ c ∈ cs, c.Reduced ∧ c.isJunctionOf conn = false) :
    ∀ {pre : List Predicate}, pre ≠ [] →
      buildPieces DateTime.readLiteral? g .regex ps (some (.junction conn pre)) = .ok
          (.junction conn (pre ++ cs)) := by
  induction hreads with
  | nil =>
    intro pre _
    simp [buildPieces]
  | @cons P c ps cs hP _ ih =>
    intro pre hpre
    obtain ⟨hc, hj⟩ := hkeep c List.mem_cons_self
    rw [buildPieces_cons (ne_clause_nil_of_isEmptyClause hP.kept) ps, hP.build, except_ok_bind]
    dsimp only
    rw [hconn P List.mem_cons_self, combine_junction_snoc hpre hc hj,
      ih (fun Q hQ => hconn Q (List.mem_cons_of_mem P hQ))
        (fun x hx => hkeep x (List.mem_cons_of_mem c hx)) (by simp)]
    simp

/-- The pieces of a junction's written children, read to the children and joined by its
    connective after the first, fold to the junction. -/
theorem buildPieces_junction {ps : List Piece} {cs : List Predicate} (htwo : 2 ≤ cs.length)
    (hreads : List.Forall₂ (Piece.Reads g) ps cs) (hconn : ∀ P ∈ ps.tail, P.conn = conn)
    (hkeep : ∀ c ∈ cs, c.Reduced ∧ c.isJunctionOf conn = false) :
    buildPieces DateTime.readLiteral? g .regex ps none = .ok (.junction conn cs) := by
  obtain ⟨c₁, c₂, cs', rfl⟩ : ∃ c₁ c₂ cs', cs = c₁ :: c₂ :: cs' := by
    rcases cs with _ | ⟨c₁, _ | ⟨c₂, cs'⟩⟩
    · simp at htwo
    · simp at htwo
    · exact ⟨c₁, c₂, cs', rfl⟩
  obtain ⟨P₁, P₂, ps', rfl, h₁, h₂, hrest⟩ : ∃ P₁ P₂ ps', ps = P₁ :: P₂ :: ps' ∧
      Piece.Reads g P₁ c₁ ∧ Piece.Reads g P₂ c₂ ∧ List.Forall₂ (Piece.Reads g) ps' cs' := by
    rcases hreads with _ | ⟨h₁, hreads⟩
    rcases hreads with _ | ⟨h₂, hrest⟩
    exact ⟨_, _, _, rfl, h₁, h₂, hrest⟩
  obtain ⟨hc₁, hj₁⟩ := hkeep c₁ (by simp)
  obtain ⟨hc₂, hj₂⟩ := hkeep c₂ (by simp)
  -- the first child starts the fold, the second makes a junction of two
  rw [buildPieces_cons (ne_clause_nil_of_isEmptyClause h₁.kept), h₁.build, except_ok_bind]
  dsimp only
  rw [buildPieces_cons (ne_clause_nil_of_isEmptyClause h₂.kept), h₂.build, except_ok_bind]
  dsimp only
  rw [hconn P₂ (by simp), combine_pair hc₁ hc₂ hj₁ hj₂,
    buildPieces_junction_snoc hrest (fun Q hQ => hconn Q (by simp [hQ]))
      (fun x hx => hkeep x (by simp [hx])) (by simp)]
  rfl

end Fold

/-! ## Levels of a written tree -/

/-- The written form of a junction's child: a child junction in parentheses. -/
def Predicate.childChunk (p : Predicate) : List Chunk :=
  match p with
  | .junction _ _ => plainChunks "(" ++ p.chunks ++ plainChunks ")"
  | _ => p.chunks

theorem Predicate.childChunks_eq_map (cs : List Predicate) :
    Predicate.childChunks cs = cs.map Predicate.childChunk := by
  induction cs with
  | nil => rfl
  | cons p rest ih =>
    rw [List.map_cons, ← ih]
    cases p <;> rfl

theorem Piece.isEmptyClause_clause {x : List Char} (hx : x ≠ []) (conn : Connective) :
    (Piece.clause conn x).isEmptyClause = false := by
  obtain ⟨c, cs, rfl⟩ := List.exists_cons_of_ne_nil hx
  rfl

/-- `t.LevelReads g maxDepth k depth`: split as a level at `depth`, the written form of `t`,
    its spans numbered from `k`, has pieces, and they fold back to `t`. -/
def Predicate.LevelReads (g : Guarded) (maxDepth k depth : Nat) (t : Predicate) : Prop :=
  ∃ ps, ps ≠ [] ∧ splitLevel maxDepth depth (guardedText g.marker k t.chunks) = .ok ps ∧
    buildPieces DateTime.readLiteral? g .regex ps none = .ok t

/-- `ChildSteps …`: from a level that holds the pieces `R`, waits with the connective `pend`
    and has gathered the white space `u`, the walk reads the written child `x`, whatever
    `tail` follows, to a level that closes with a piece read to `c`. -/
def ChildSteps (g : Guarded) (maxDepth depth : Nat) (whole : List Char) (R : List Piece)
    (pend : Option Connective) (u : List Char) (o : Option Char) (x tail : List Char)
    (c : Predicate) : Prop :=
  ∃ S o' P, walkLevel maxDepth depth whole ⟨R, pend, u.reverse, false, false⟩ o (x ++ tail) =
      walkLevel maxDepth depth whole S o' tail ∧ S.Closes P R ∧ Piece.Reads g P c ∧
    P.conn = pend.getD .and

section Steps

variable {g : Guarded} (hfit : g.Fits) {maxDepth depth k : Nat} {whole : List Char}
  {R : List Piece} {pend : Option Connective} {u : List Char} {o : Option Char}
  {tail : List Char}
include hfit

/-- A written leaf is one clause of its level. -/
theorem childSteps_leaf {c : Predicate} (hc : c.Rereads) (hl : c.isLeaf = true)
    (hh : g.Holds k c.chunks) (hu : ∀ x ∈ u, Text.isWhiteSpace x = true) (htail : EndsWord tail) :
    ChildSteps g maxDepth depth whole R pend u o (guardedText g.marker k c.chunks) tail c := by
  obtain ⟨htrim, hne⟩ := c.trim_leafText hfit.letters k hc hl
  exact ⟨_, _, _, Gathered.leaf hfit.letters k hc hl hu htail maxDepth depth whole _ rfl rfl,
    Level.Closes.clause hu htrim,
    ⟨Piece.isEmptyClause_clause hne _, readClause_leafText hfit hc hl hh⟩, rfl⟩

omit hfit in
/-- A child junction is a group of its level, split one level deeper. -/
theorem childSteps_junction {conn : Connective} {cs : List Predicate}
    (ht : ∀ q ∈ (Predicate.junction conn cs).leaves, q.Rereads)
    (hm : ∀ c ∈ g.marker, c ∈ markerAlphabet) (hd : depth + 1 ≤ maxDepth)
    (hread : (Predicate.junction conn cs).LevelReads g maxDepth k (depth + 1))
    (hu : ∀ x ∈ u, Text.isWhiteSpace x = true) :
    ChildSteps g maxDepth depth whole R pend u o
      (guardedText g.marker k (Predicate.junction conn cs).childChunk) tail
      (.junction conn cs) := by
  obtain ⟨ps, hne, hsplit, hbuild⟩ := hread
  have hc := Predicate.closesBy_chunks hm (.junction conn cs) ht k
  have htext : guardedText g.marker k (Predicate.junction conn cs).childChunk ++ tail =
      '(' :: (guardedText g.marker k (Predicate.junction conn cs).chunks ++ ')' :: tail) := by
    simp [Predicate.childChunk, guardedText_append]
  refine ⟨⟨.group (pend.getD .and) false ps :: R, none, [], true, false⟩, some ')',
    .group (pend.getD .and) false ps, ?_, Level.Closes.group, ⟨rfl, ?_⟩, rfl⟩
  · rw [htext]
    exact walkLevel_plainGroup hu hc hd hsplit hne
  · simp [buildPiece, hbuild]

omit hfit in
/-- A negation is a negated group of its level, its child split one level deeper. -/
theorem childSteps_negation {c : Predicate} (hred : c.Reduced)
    (ht : ∀ q ∈ c.leaves, q.Rereads) (hm : ∀ c ∈ g.marker, c ∈ markerAlphabet)
    (hd : depth + 1 ≤ maxDepth) (hread : c.LevelReads g maxDepth k (depth + 1))
    (hu : ∀ x ∈ u, Text.isWhiteSpace x = true) :
    ChildSteps g maxDepth depth whole R pend u o
      (guardedText g.marker k (Predicate.negation c).chunks) tail (.negation c) := by
  obtain ⟨ps, hne, hsplit, hbuild⟩ := hread
  have hc := Predicate.closesBy_chunks hm c ht k
  have htext : guardedText g.marker k (Predicate.negation c).chunks ++ tail =
      "NOT ".toList ++ '(' :: (guardedText g.marker k c.chunks ++ ')' :: tail) := by
    simp [Predicate.chunks, guardedText_append]
  refine ⟨⟨.group (pend.getD .and) true ps :: R, none, [], true, false⟩, some ')',
    .group (pend.getD .and) true ps, ?_, Level.Closes.group, ⟨rfl, ?_⟩, rfl⟩
  · rw [htext]
    exact walkLevel_negatedGroup hu hc hd hsplit hne
  · simp [buildPiece, hbuild, Predicate.negate_of_reduced hred]

end Steps

section Levels

variable {g : Guarded} {maxDepth k depth : Nat}

/-- A level whose written form is one child, not blank, reads back to it. -/
theorem Predicate.levelReads_of_childSteps {t : Predicate}
    (hblank : Text.isBlank (guardedText g.marker k t.chunks) = false)
    (h : ChildSteps g maxDepth depth (guardedText g.marker k t.chunks) [] none [] none
      (guardedText g.marker k t.chunks) [] t) :
    t.LevelReads g maxDepth k depth := by
  obtain ⟨S, o', P, hwalk, hclose, hread, -⟩ := h
  refine ⟨[P], by simp, ?_, ?_⟩
  · rw [splitLevel_of_isBlank_eq_false hblank]
    rw [List.append_nil] at hwalk
    exact hwalk.trans ((walkLevel_end hclose o').trans (by simp))
  · rw [buildPieces_cons (ne_clause_nil_of_isEmptyClause hread.kept), hread.build]
    rfl

variable (hfit : g.Fits)
include hfit

/-- A leaf, or a constant, written alone reads back to itself. -/
theorem Predicate.levelReads_leaf {t : Predicate} (ht : t.Rereads) (hl : t.isLeaf = true)
    (hh : g.Holds k t.chunks) : t.LevelReads g maxDepth k depth :=
  Predicate.levelReads_of_childSteps (t.isBlank_leafText hfit.letters k ht hl)
    (childSteps_leaf hfit ht hl hh (by simp) (.inl rfl))

mutual

/-- A tree in normal form whose leaves read back, its groups nested no deeper than the levels
    left, reads back from its written form split as a level. -/
theorem Predicate.levelReads : ∀ (t : Predicate) (k depth : Nat), t.Normal →
    (∀ q ∈ t.leaves, q.Rereads) → g.Holds k t.chunks → depth + t.groupDepth ≤ maxDepth →
      t.LevelReads g maxDepth k depth
  | .junction conn cs, k, depth, hnorm, ht, hh, hd => by
    have hred : (Predicate.junction conn cs).Reduced := by
      rcases hnorm with ⟨b, hb⟩ | hred
      · cases hb
      · exact hred
    cases hred with
    | test h => simp [Predicate.field?] at h
    | junction htwo hreduced hflat =>
      obtain ⟨c, cs', rfl⟩ := List.exists_cons_of_ne_nil
        (List.ne_nil_of_length_pos (show 0 < cs.length by omega))
      have hkeep : ∀ x ∈ c :: cs', x.Keepable Predicate.Rereads conn := fun x hx =>
        ⟨hreduced x hx, hflat x hx, fun q hq =>
          ht q (by rw [Predicate.leaves_junction, mem_leavesAll]; exact ⟨x, hx, hq⟩)⟩
      have hh' : g.Holds k (joinChunks (plainChunks (" " ++ conn.keyword ++ " "))
          ((c :: cs').map Predicate.childChunk)) := by
        rw [← Predicate.childChunks_eq_map]
        exact hh
      -- the children are walked from an empty level
      obtain ⟨ps, hwalk, hreads, -, htl⟩ := Predicate.childrenWalk (c :: cs') k depth
        (guardedText g.marker k (Predicate.junction conn (c :: cs')).chunks) [] none [] none
        (List.cons_ne_nil _ _) hkeep hh' (by simpa [Predicate.groupDepth] using hd) (by simp)
      refine ⟨ps, ?_, ?_, buildPieces_junction htwo hreads htl fun x hx =>
        ⟨hreduced x hx, hflat x hx⟩⟩
      · rcases hreads with _ | ⟨_, _⟩
        simp
      · rw [splitLevel_of_isBlank_eq_false (Predicate.isBlank_junction_chunks hfit.letters k ht)]
        have hchunks : (Predicate.junction conn (c :: cs')).chunks = joinChunks
            (plainChunks (" " ++ conn.keyword ++ " ")) ((c :: cs').map Predicate.childChunk) := by
          rw [Predicate.chunks, Predicate.childChunks_eq_map]
        rw [hchunks] at hwalk ⊢
        simpa using hwalk
  | .negation c, k, depth, hnorm, ht, hh, hd => by
    have hred : c.Reduced := by
      rcases hnorm with ⟨b, hb⟩ | hred
      · cases hb
      · cases hred with
        | test h => simp [Predicate.field?] at h
        | negation h => exact h
    have hh' : g.Holds k (plainChunks "NOT (" ++ c.chunks ++ plainChunks ")") := hh
    have hd' : depth + 1 + c.groupDepth ≤ maxDepth := by
      simp only [Predicate.groupDepth] at hd
      omega
    -- the child is split one level deeper
    have hc := Predicate.levelReads c k (depth + 1) (.inr hred) (by simpa using ht)
      (by simpa using hh'.left.right) hd'
    exact Predicate.levelReads_of_childSteps (Predicate.isBlank_chunks hfit.letters k ht (by simp))
      (childSteps_negation hred (by simpa using ht) hfit.letters (by omega) hc (by simp))
  | .const b, k, depth, _, _, hh, _ => Predicate.levelReads_leaf hfit trivial rfl hh
  | .compare f op v, k, depth, _, ht, hh, _ =>
    Predicate.levelReads_leaf hfit (ht _ (by simp [Predicate.leaves])) rfl hh
  | .between f lo hi n, k, depth, _, ht, hh, _ =>
    Predicate.levelReads_leaf hfit (ht _ (by simp [Predicate.leaves])) rfl hh
  | .member f vs n, k, depth, _, ht, hh, _ =>
    Predicate.levelReads_leaf hfit (ht _ (by simp [Predicate.leaves])) rfl hh
  | .like f pat n, k, depth, _, ht, hh, _ =>
    Predicate.levelReads_leaf hfit (ht _ (by simp [Predicate.leaves])) rfl hh
  | .isNull f n, k, depth, _, ht, hh, _ =>
    Predicate.levelReads_leaf hfit (ht _ (by simp [Predicate.leaves])) rfl hh
termination_by t => sizeOf t

/-- The written children of a junction, walked from a level that holds the pieces `R`, waits
    with the connective `pend` and has gathered white space, add one piece each, read to the
    child; the first is joined by `pend`, the others by the junction's connective. -/
theorem Predicate.childrenWalk {conn : Connective} : ∀ (cs : List Predicate) (k depth : Nat)
    (whole : List Char) (R : List Piece) (pend : Option Connective) (u : List Char)
    (o : Option Char), cs ≠ [] → (∀ c ∈ cs, c.Keepable Predicate.Rereads conn) →
    g.Holds k (joinChunks (plainChunks (" " ++ conn.keyword ++ " ")) (cs.map Predicate.childChunk)) →
    depth + Predicate.childrenDepth cs ≤ maxDepth → (∀ x ∈ u, Text.isWhiteSpace x = true) →
    ∃ ps, walkLevel maxDepth depth whole ⟨R, pend, u.reverse, false, false⟩ o
        (guardedText g.marker k (joinChunks (plainChunks (" " ++ conn.keyword ++ " "))
          (cs.map Predicate.childChunk))) = .ok (R.reverse ++ ps) ∧
      List.Forall₂ (Piece.Reads g) ps cs ∧ (∀ P ∈ ps.head?, P.conn = pend.getD .and) ∧
      ∀ P ∈ ps.tail, P.conn = conn
  | [], _, _, _, _, _, _, _, hne, _, _, _, _ => absurd rfl hne
  | c :: rest, k, depth, whole, R, pend, u, o, _, hkeep, hh, hd, hu => by
    obtain ⟨hred, -, hleaves⟩ := hkeep c List.mem_cons_self
    rw [List.map_cons] at hh ⊢
    have hx : g.Holds k c.childChunk := by
      cases rest with
      | nil => exact hh
      | cons c' rest' =>
        rw [List.map_cons, joinChunks_cons_cons] at hh
        exact hh.left.left
    -- the child's own text, whatever follows it: a group one level deeper, or a clause
    have hchild : ∀ tail, EndsWord tail →
        ChildSteps g maxDepth depth whole R pend u o (guardedText g.marker k c.childChunk) tail c := by
      intro tail htail
      cases c with
      | junction conn' cs' =>
        have hx' : g.Holds k (plainChunks "(" ++ (Predicate.junction conn' cs').chunks ++
            plainChunks ")") := hx
        have hd' : depth + 1 + (Predicate.junction conn' cs').groupDepth ≤ maxDepth := by
          simp only [Predicate.childrenDepth] at hd
          omega
        exact childSteps_junction hleaves hfit.letters (by omega)
          (Predicate.levelReads (.junction conn' cs') k (depth + 1) (.inr hred) hleaves
            (by simpa using hx'.left.right) hd') hu
      | negation c' =>
        have hx' : g.Holds k (plainChunks "NOT (" ++ c'.chunks ++ plainChunks ")") := hx
        have hred' : c'.Reduced := by
          cases hred with
          | test h => simp [Predicate.field?] at h
          | negation h => exact h
        have hd' : depth + 1 + c'.groupDepth ≤ maxDepth := by
          simp only [Predicate.childrenDepth, Predicate.groupDepth] at hd
          omega
        exact childSteps_negation hred' (by simpa using hleaves) hfit.letters (by omega)
          (Predicate.levelReads c' k (depth + 1) (.inr hred') (by simpa using hleaves)
            (by simpa using hx'.left.right) hd') hu
      | const b => exact absurd rfl (hred.ne_const b)
      | _ => exact childSteps_leaf hfit (hleaves _ (by simp [Predicate.leaves])) rfl hx hu htail
    cases rest with
    | nil =>
      obtain ⟨S, o', P, hwalk, hclose, hread, hconn⟩ := hchild [] (.inl rfl)
      refine ⟨[P], ?_, .cons hread .nil, by simp [hconn], by simp⟩
      rw [List.append_nil] at hwalk
      exact hwalk.trans ((walkLevel_end hclose o').trans (by simp))
    | cons c' rest' =>
      have hrest : g.Holds (k + (spansOf c.childChunk).length)
          (joinChunks (plainChunks (" " ++ conn.keyword ++ " ")) ((c' :: rest').map Predicate.childChunk)) := by
        rw [List.map_cons, joinChunks_cons_cons] at hh
        simpa using hh.right
      -- the connective between blanks ends the child's piece and waits for the next
      obtain ⟨S, o', P, hwalk, hclose, hread, hconn⟩ := hchild (' ' :: (conn.keyword.toList ++
        ' ' :: guardedText g.marker (k + (spansOf c.childChunk).length)
          (joinChunks (plainChunks (" " ++ conn.keyword ++ " ")) ((c' :: rest').map Predicate.childChunk))))
        (.blank _)
      obtain ⟨ps, hwalk', hreads, hhead, htl⟩ := Predicate.childrenWalk (c' :: rest')
        (k + (spansOf c.childChunk).length) depth whole (P :: R) (some conn) [' '] (some ' ')
        (List.cons_ne_nil _ _) (fun x hx => hkeep x (List.mem_cons_of_mem c hx)) hrest
        (by simp only [Predicate.childrenDepth] at hd ⊢; omega) (by simp [isWhiteSpace_blank])
      refine ⟨P :: ps, ?_, .cons hread hreads, by simp [hconn], ?_⟩
      · rw [List.map_cons, joinChunks_cons_cons, guardedText_append, guardedText_append,
          ← List.map_cons]
        simp only [guardedText_plainChunks, spansOf_append, spansOf_plainChunks, List.append_nil]
        have htext : (" " ++ conn.keyword ++ " ").toList = ' ' :: (conn.keyword.toList ++ [' ']) := by
          simp
        rw [htext, List.append_assoc, List.cons_append, List.append_assoc, List.singleton_append,
          hwalk, walkLevel_connective hclose]
        exact hwalk'.trans (by simp)
      · intro Q hQ
        cases ps with
        | nil => simp at hQ
        | cons Q' ps' =>
          rcases List.mem_cons.1 hQ with rfl | hQ
          · simpa using hhead Q rfl
          · exact htl Q hQ
termination_by cs => sizeOf cs

end

end Levels

/-! ## The written form read back -/

/-- A tree in normal form whose leaves read back is read back from its written form, with the
    default quotes and dates and `LIKE` read as a regular expression, when its groups nest no
    deeper than the reader allows and its written form is shorter than the number of markers the
    guard may try (and than the number of 64-bit span indices). -/
theorem parse_render {opts : ParseOptions} {t : Predicate} (ht : t.NormalWith Predicate.Rereads)
    (hquotes : opts.quotes = ({} : ParseOptions).quotes) (hlike : opts.like = .regex)
    (hdates : opts.dates = DateTime.readLiteral?) (hdepth : t.groupDepth ≤ opts.maxDepth)
        (hlen : t.render.length < 26 ^ opts.placeholderMaxLen)
    (h64 : t.render.length ≤ 2 ^ 64) : parse opts t.render = .ok t := by
  obtain ⟨g, hguard, htext, horig, hfit, hu⟩ := guard_render ht.2 hlen h64
  -- the whole written form holds its spans from the first on
  have hh : g.Holds 0 t.chunks :=
    ⟨by rw [horig, List.drop_zero], by rw [Predicate.flatMap_text_chunks]; exact hu⟩
  obtain ⟨ps, -, hsplit, hbuild⟩ : t.LevelReads g opts.maxDepth 0 0 :=
    Predicate.levelReads hfit t 0 0 ht.1 ht.2 hh (by omega)
  rw [parse, hquotes, hguard, except_ok_bind, split, htext, hsplit, except_ok_bind, build, hlike,
    hdates, hbuild]

/-- Every tree read from a filter with the default options is read back from its written form,
    when its leaves read back, its groups nest no deeper than the reader allows and its written
    form is shorter than the number of markers the guard may try. -/
theorem parse_render_of_parse {s : String} {t : Predicate} (h : parse {} s = .ok t)
    (hleaves : ∀ q ∈ t.leaves, q.Rereads) (hdepth : t.groupDepth ≤ ({} : ParseOptions).maxDepth)
    (hlen : t.render.length < 26 ^ ({} : ParseOptions).placeholderMaxLen) :
    parse {} t.render = .ok t := by
  have h64 : 26 ^ ({} : ParseOptions).placeholderMaxLen ≤ 2 ^ 64 := by decide
  exact parse_render ⟨(parse_normalWith h).1, hleaves⟩ rfl rfl rfl hdepth hlen (by omega)

/-- A field written in backticks compared with a text holding a quote, or a negated test for
    `NULL`: read back from the written form `` `user name` = 'it\'s' OR NOT (x IS NOT NULL) ``. -/
theorem parse_render_of_parse_quoted_group :
    (∀ q ∈ (Predicate.junction .or [.compare "user name" .eq (.text "it's"),
        .negation (.isNull "x" true)]).leaves, q.Rereads) ∧
      (Predicate.junction .or [.compare "user name" .eq (.text "it's"),
        .negation (.isNull "x" true)]).groupDepth ≤ ({} : ParseOptions).maxDepth ∧
      (Predicate.junction .or [.compare "user name" .eq (.text "it's"),
        .negation (.isNull "x" true)]).render.length < 26 ^ ({} : ParseOptions).placeholderMaxLen ∧
      parse {} (Predicate.junction .or [.compare "user name" .eq (.text "it's"),
        .negation (.isNull "x" true)]).render =
        .ok (.junction .or [.compare "user name" .eq (.text "it's"), .negation (.isNull "x" true)]) := by
  have hleaves : ∀ q ∈ (Predicate.junction .or [.compare "user name" .eq (.text "it's"),
      .negation (.isNull "x" true)]).leaves, q.Rereads := by
    intro q hq
    simp [Predicate.leaves, Predicate.leavesAll] at hq
    rcases hq with rfl | rfl
    · exact ⟨⟨by decide, fun h => absurd h (by decide +kernel)⟩, trivial, by decide⟩
    · exact ⟨by decide, fun _ => by decide +kernel⟩
  have hnorm : (Predicate.junction .or [.compare "user name" .eq (.text "it's"),
      .negation (.isNull "x" true)]).Normal := by
    refine .inr (.junction (by simp) (fun c hc => ?_) (by decide))
    simp at hc
    rcases hc with rfl | rfl
    · exact .test rfl
    · exact .negation (.test rfl)
  have hdepth : (Predicate.junction .or [.compare "user name" .eq (.text "it's"),
      .negation (.isNull "x" true)]).groupDepth ≤ ({} : ParseOptions).maxDepth := by decide
  have hlen : (Predicate.junction .or [.compare "user name" .eq (.text "it's"),
      .negation (.isNull "x" true)]).render.length < 26 ^ ({} : ParseOptions).placeholderMaxLen := by
    decide
  exact ⟨hleaves, hdepth, hlen, parse_render_of_parse
    (parse_render ⟨hnorm, hleaves⟩ rfl rfl rfl hdepth hlen (by decide)) hleaves hdepth hlen⟩

end FilterQuery.Query

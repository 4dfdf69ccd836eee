import FilterQuery.Proofs.SwappedSpan

/-!
# A clause of two texts that differ in one span

The clause reader run on the tokens of the two texts of a `SpanSwap`: both runs fail together,
and when they succeed they read the fills of one hole (`readClause_swap`). The reader reads a
field name and then the values its operator asks for; each of these is the same in both runs or,
when it is the swapped slot alone, the two contents. The slots of a clause are distinct, so at most
one of them is the swapped slot, and the leaf has at most one open place (`fills_leaf`).

## Key results

- `fills_leaf`: a leaf built from a field name and a value read after it
- `readComparison_swap`, `readBetween_swap`, `readIn_swap`, `readLike_swap`, `readIsNull_swap`:
  what follows the field
- `readClause_swap`: a whole clause
-/

namespace FilterQuery.Query

variable {dates : DateRecognizer}

/-- Whether a token of symbols is the given keyword. -/
def SymToken.isKeyword (t : SymToken) (keyword : String) : Bool :=
  match t with
  | .word w => isWordSyms w keyword
  | _ => false

/-- A keyword without digits is the same token whatever the marker. -/
theorem isKeyword_expand (keyword : String) (hw : digitFree keyword = true) {m : List Char}
    (t : SymToken) :
    (t.expand m).isKeyword keyword = t.isKeyword keyword := by
  cases t with
  | word w => exact isWord_expandSyms hw w
  | _ => rfl

/-- The slots of the tokens read by a reader are among those of the tokens it was given. -/
theorem slotsOfTokens_subset_of_eq_append {TS used rest : List SymToken} (h : TS = used ++ rest) :
    slotsOfTokens used ⊆ slotsOfTokens TS := by
  rw [h, slotsOfTokens_append]
  exact List.subset_append_left _ _

theorem readIn_lparen (g : Guarded) (field : String) (negated : Bool) {ts : List Token}
    (h : ts.head? ≠ some .rparen) :
    readIn dates g field negated (.lparen :: ts) =
      readListValues dates g (ts.length + 1) ts [] >>= fun r => pure
          (.member field r.1 negated, r.2) := by
  unfold readIn
  split
  · rename_i heq
    simp only [List.cons.injEq, true_and] at heq
    simp [heq] at h
  · rename_i heq
    simp only [List.cons.injEq, true_and] at heq
    subst heq
    rfl
  · rename_i _ hne
    exact absurd rfl (hne ts)

/-- A comma or a closing parenthesis ends a value of an `IN` list whatever the marker. -/
theorem listStop_expand {m : List Char} (t : SymToken) :
    (t.expand m = .comma || t.expand m = .rparen) = (t = .comma || t = .rparen) := by
  cases t <;> rfl

/-- The leaf `readComparison` builds: `= NULL` and `!= NULL` test for null. -/
def comparisonLeaf (op : CompareOp) (field : String) (v : Literal) : Predicate :=
  match op, v with
  | .eq, .null => .isNull field false
  | .ne, .null => .isNull field true
  | _, _ => .compare field op v

theorem readComparison_eq (g : Guarded) (field : String) (op : CompareOp) (ts : List Token) :
    readComparison dates g field op ts =
      readValue dates g (fun _ => false) ts >>= fun r => pure
          (comparisonLeaf op field r.1, r.2) := by
  unfold readComparison
  congr 1
  funext r
  obtain ⟨v, rest⟩ := r
  cases op <;> cases v <;> rfl

/-- Two results related by `Paired` fail together or succeed together. -/
theorem Paired.cases {ε α β : Type} {R : α → β → Prop} {x₁ : Except ε α} {x₂ : Except ε β}
    (h : Paired R x₁ x₂) :
    (∃ e₁ e₂, x₁ = .error e₁ ∧ x₂ = .error e₂) ∨ ∃ a b, x₁ = .ok a ∧ x₂ = .ok b ∧ R a b := by
  cases x₁ <;> cases x₂
  · exact .inl ⟨_, _, rfl, rfl⟩
  · cases h
  · cases h
  · exact .inr ⟨_, _, rfl, rfl, h⟩

theorem slotsOfTokens_rest_subset {TS used rest : List SymToken} (h : TS = used ++ rest) :
    slotsOfTokens rest ⊆ slotsOfTokens TS := by
  rw [h, slotsOfTokens_append]
  exact List.subset_append_right _ _

/-- Slots read first are not read again. -/
theorem not_mem_rest_of_nodup {TS used rest : List SymToken} (h : TS = used ++ rest)
    (hnodup : (slotsOfTokens TS).Nodup) {k : Nat} (hk : k ∈ slotsOfTokens used) :
    k ∉ slotsOfTokens rest := by
  rw [h, slotsOfTokens_append] at hnodup
  exact fun hk' => (List.nodup_append.1 hnodup).2.2 k hk k hk' rfl

/-- A text of symbols that reads as one character is that character: a placeholder holds the
    marker twice. -/
theorem expandSyms_eq_singleton_iff {m : List Char} (hm : MarkerOk m) {a : List Sym} {c : Char} :
    expandSyms m a = [c] ↔ a = [.char c] := by
  constructor
  · intro h
    match a, h with
    | .char d :: a', h =>
      simp only [expandSyms_cons, Sym.expand_char, List.singleton_append, List.cons.injEq] at h
      obtain ⟨rfl, h'⟩ := h
      rw [(expandSyms_eq_nil_iff hm).1 h']
    | .slot i :: a', h =>
      have hlen := congrArg List.length h
      have hm₀ : 0 < m.length := List.length_pos_iff.2 hm.ne_nil
      simp only [expandSyms_cons, Sym.expand_slot, placeholder, List.length_append,
        List.length_singleton] at hlen
      omega
  · rintro rfl
    rfl

/-- A clause of no tokens, or of more than a lone word, is read as a field and what follows. -/
theorem readClauseTokens_eq_readGeneral (g : Guarded) (like : LikeSyntax) {ts : List Token}
    (hne : ts ≠ []) (hword : ∀ w, ts ≠ [.word w]) :
    readClauseTokens dates g like ts = readClauseTokens.readGeneral dates g like ts := by
  unfold readClauseTokens
  split
  · exact absurd rfl hne
  · exact absurd rfl (hword _)
  · rfl

/-- Tokens that are not a lone word do not expand to one. -/
theorem map_expand_ne_word {m : List Char} {TS : List SymToken} (h : ∀ w, TS ≠ [.word w])
    (w' : List Char) : TS.map (SymToken.expand m) ≠ [.word w'] := by
  intro heq
  cases TS with
  | nil => cases heq
  | cons t rest =>
    simp only [List.map_cons, List.cons.injEq, List.map_eq_nil_iff] at heq
    obtain ⟨ht, rfl⟩ := heq
    cases t with
    | word w => exact h w rfl
    | _ => cases ht

namespace SpanSwap

variable {S : SpanSwap} {like : LikeSyntax}

/-- A leaf built from a field name and what is read after it. The field is the same in both runs
    or the two contents; what is read after it is the same, or made by `g` of the two contents
    in a place the leaf leaves open. The two cannot both be the swapped slot. -/
theorem fills_leaf {β : Type} (mk : String → β → Predicate) {ksF ksV : List Nat}
    {f₁ f₂ : String} {x₁ x₂ : β} (hf : S.Same ksF S.u₁ S.u₂ f₁ f₂)
    (hx : x₁ = x₂ ∨ (S.k ∈ ksV ∧ ∃ g : String → β, x₁ = g S.u₁ ∧ x₂ = g S.u₂ ∧
      ∀ f, ∃ l : LeafHole, ∀ u, mk f (g u) = l.fill like u))
    (hk : S.k ∈ ksF → S.k ∉ ksV) (hfield : ∀ x, ∃ l : LeafHole, ∀ u, mk u x = l.fill like u) :
    S.Fills like (ksF ++ ksV) (mk f₁ x₁) (mk f₂ x₂) := by
  rcases hf with rfl | ⟨hkF, rfl, rfl⟩
  · rcases hx with rfl | ⟨hkV, g, rfl, rfl, hvalue⟩
    · exact Fills.same _ _
    · -- only the value is open
      obtain ⟨l, hl⟩ := hvalue f₁
      exact ⟨.leaf l, fun _ => List.mem_append_right _ hkV, hl _, hl _⟩
  · rcases hx with rfl | ⟨hkV, -⟩
    · -- only the field is open
      obtain ⟨l, hl⟩ := hfield x₁
      exact ⟨.leaf l, fun _ => List.mem_append_left _ hkF, hl _, hl _⟩
    · exact absurd hkV (hk hkF)

/-- A value that is the same or the two contents, in a place a leaf leaves open. -/
theorem Same.open_value {β : Type} {mk : String → β → Predicate} {ks : List Nat}
    {v₁ v₂ : Literal} (hv : S.Same ks (Literal.text S.u₁) (.text S.u₂) v₁ v₂)
    {g : Literal → β} (hvalue : ∀ f, ∃ l : LeafHole, ∀ u, mk f (g (.text u)) = l.fill like u) :
    g v₁ = g v₂ ∨ (S.k ∈ ks ∧ ∃ g' : String → β, g v₁ = g' S.u₁ ∧ g v₂ = g' S.u₂ ∧
      ∀ f, ∃ l : LeafHole, ∀ u, mk f (g' u) = l.fill like u) := by
  rcases hv with rfl | ⟨hk, rfl, rfl⟩
  · exact .inl rfl
  · exact .inr ⟨hk, fun u => g (.text u), rfl, rfl, hvalue⟩

/-- Two values read one after the other, of which at most one is the swapped slot. -/
theorem Same.pair {ks₁ ks₂ : List Nat} {a₁ a₂ b₁ b₂ : Literal}
    (ha : S.Same ks₁ (Literal.text S.u₁) (.text S.u₂) a₁ a₂)
    (mk : String → Literal × Literal → Predicate)
    (hb : S.Same ks₂ (Literal.text S.u₁) (.text S.u₂) b₁ b₂) (hk : S.k ∈ ks₁ → S.k ∉ ks₂)
    (hfst : ∀ f b, ∃ l : LeafHole, ∀ u, mk f (.text u, b) = l.fill like u)
    (hsnd : ∀ f a, ∃ l : LeafHole, ∀ u, mk f (a, .text u) = l.fill like u) :
    (a₁, b₁) = (a₂, b₂) ∨ (S.k ∈ ks₁ ++ ks₂ ∧ ∃ g : String → Literal × Literal,
      (a₁, b₁) = g S.u₁ ∧ (a₂, b₂) = g S.u₂ ∧ ∀ f, ∃ l : LeafHole, ∀ u, mk f (g u) = l.fill like u) := by
  rcases ha with rfl | ⟨hk₁, rfl, rfl⟩ <;> rcases hb with rfl | ⟨hk₂, rfl, rfl⟩
  · exact .inl rfl
  · exact .inr ⟨List.mem_append_right _ hk₂, fun u => (a₁, .text u), rfl, rfl, fun f => hsnd f a₁⟩
  · exact .inr ⟨List.mem_append_left _ hk₁, fun u => (.text u, b₁), rfl, rfl, fun f => hfst f b₁⟩
  · exact absurd hk₂ (hk hk₁)

/-- Lists of values read at one place of the two texts, having read the slots `ks`: the same list,
    or, when the swapped slot is among those read, lists that differ in one place, which holds the
    two contents. -/
def SameValues (S : SpanSwap) (ks : List Nat) (vs₁ vs₂ : List Literal) : Prop :=
  vs₁ = vs₂ ∨ (S.k ∈ ks ∧ ∃ bs as, vs₁ = bs ++ .text S.u₁ :: as ∧ vs₂ = bs ++ .text S.u₂ :: as)

theorem SameValues.mono {ks ks' : List Nat} {vs₁ vs₂ : List Literal}
    (h : S.SameValues ks vs₁ vs₂) (hks : ks ⊆ ks') : S.SameValues ks' vs₁ vs₂ :=
  h.imp_right fun ⟨hk, hvs⟩ => ⟨hks hk, hvs⟩

/-- One more value in front, of which at most one of it and the list is the swapped slot. -/
theorem SameValues.cons {ks ks' : List Nat} {v₁ v₂ : Literal} {vs₁ vs₂ : List Literal}
    (h : S.SameValues ks vs₁ vs₂) (hv : S.Same ks' (Literal.text S.u₁) (.text S.u₂) v₁ v₂)
    (hk : S.k ∈ ks → S.k ∉ ks') : S.SameValues (ks ++ ks') (v₁ :: vs₁) (v₂ :: vs₂) := by
  rcases hv with rfl | ⟨hk', rfl, rfl⟩ <;> rcases h with rfl | ⟨hks, bs, as, rfl, rfl⟩
  · exact .inl rfl
  · exact .inr ⟨List.mem_append_left _ hks, v₁ :: bs, as, rfl, rfl⟩
  · exact .inr ⟨List.mem_append_right _ hk', [], vs₁, rfl, rfl⟩
  · exact absurd hk' (hk hks)

/-- Lists of values that are the same or differ in one value, as the values of an `IN` leaf. -/
theorem SameValues.open_member {ks : List Nat} {vs₁ vs₂ : List Literal}
    (h : S.SameValues ks vs₁ vs₂) (negated : Bool) :
    vs₁ = vs₂ ∨ (S.k ∈ ks ∧ ∃ g : String → List Literal, vs₁ = g S.u₁ ∧ vs₂ = g S.u₂ ∧
      ∀ f, ∃ l : LeafHole, ∀ u, Predicate.member f (g u) negated = l.fill like u) := by
  rcases h with rfl | ⟨hk, bs, as, rfl, rfl⟩
  · exact .inl rfl
  · exact .inr ⟨hk, fun u => bs ++ .text u :: as, rfl, rfl,
      fun f => ⟨.memberValue f bs as negated, fun _ => rfl⟩⟩

theorem SameValues.reverse {ks : List Nat} {vs₁ vs₂ : List Literal}
    (h : S.SameValues ks vs₁ vs₂) : S.SameValues ks vs₁.reverse vs₂.reverse := by
  rcases h with rfl | ⟨hk, bs, as, rfl, rfl⟩
  · exact .inl rfl
  · exact .inr ⟨hk, as.reverse, bs.reverse, by simp, by simp⟩

/-- A reader that goes on after tokens already read. -/
theorem Reads.append {α : Type} {TS used rest : List SymToken} (hTS : TS = used ++ rest)
    {R R' : List Nat → α → α → Prop} (hR : ∀ ks x₁ x₂, R ks x₁ x₂ → R' (slotsOfTokens used ++ ks) x₁ x₂)
    {r₁ r₂ : α × List Token} (h : S.Reads rest R r₁ r₂) : S.Reads TS R' r₁ r₂ := by
  obtain ⟨used', rest', hrest, h₁, h₂, hR'⟩ := h
  refine ⟨used ++ used', rest', by rw [hTS, hrest, List.append_assoc], h₁, h₂, ?_⟩
  rw [slotsOfTokens_append]
  exact hR _ _ _ hR'

/-- A leaf that holds only a field name. -/
theorem fills_field (mk : String → Predicate) {ksF ks : List Nat} {f₁ f₂ : String}
    (hf : S.Same ksF S.u₁ S.u₂ f₁ f₂) (hfield : ∃ l : LeafHole, ∀ u, mk u = l.fill like u) :
    S.Fills like (ksF ++ ks) (mk f₁) (mk f₂) := by
  rcases hf with rfl | ⟨hkF, rfl, rfl⟩
  · exact Fills.same _ _
  · obtain ⟨l, hl⟩ := hfield
    exact ⟨.leaf l, fun _ => List.mem_append_left _ hkF, hl _, hl _⟩

/-! ## What follows the field -/

section Readers

variable {ksF : List Nat} {f₁ f₂ : String} {TS : List SymToken}

/-- A value read after the field, and a leaf made of the two: the leaf may leave open the field or
    the value. -/
theorem value_leaf_swap {stop : Token → Bool} {stopSyms : SymToken → Bool}
    (hstop : ∀ m, MarkerOk m → ∀ t, stop (t.expand m) = stopSyms t)
    (hf : S.Same ksF S.u₁ S.u₂ f₁ f₂) (hfree : S.Free TS)
    (hk : S.k ∈ ksF → S.k ∉ slotsOfTokens TS) {mk : String → Literal → Predicate}
    (hfield : ∀ v, ∃ l : LeafHole, ∀ u, mk u v = l.fill like u)
    (hvalue : ∀ f, ∃ l : LeafHole, ∀ u, mk f (.text u) = l.fill like u) :
    Paired (S.Reads TS fun ks => S.Fills like (ksF ++ ks))
      (readValue dates S.g₁ stop (TS.map (SymToken.expand S.g₁.marker)) >>= fun r =>
        pure (mk f₁ r.1, r.2))
      (readValue dates S.g₂ stop (TS.map (SymToken.expand S.g₂.marker)) >>= fun r =>
        pure (mk f₂ r.1, r.2)) := by
  refine Paired.bind (readValue_swap hstop hfree) ?_
  rintro ⟨v₁, r₁⟩ ⟨v₂, r₂⟩ ⟨used, rest, hTS, hr₁, hr₂, hv⟩
  refine ⟨used, rest, hTS, hr₁, hr₂, fills_leaf mk hf (hv.open_value (g := id) hvalue) ?_ hfield⟩
  exact fun hkF hkV => hk hkF (slotsOfTokens_subset_of_eq_append hTS hkV)

theorem readComparison_swap (hf : S.Same ksF S.u₁ S.u₂ f₁ f₂) (op : CompareOp)
    (hfree : S.Free TS) (hk : S.k ∈ ksF → S.k ∉ slotsOfTokens TS) :
    Paired (S.Reads TS fun ks => S.Fills like (ksF ++ ks))
      (readComparison dates S.g₁ f₁ op (TS.map (SymToken.expand S.g₁.marker)))
      (readComparison dates S.g₂ f₂ op (TS.map (SymToken.expand S.g₂.marker))) := by
  rw [readComparison_eq, readComparison_eq]
  refine value_leaf_swap (fun _ _ _ => rfl) hf hfree hk (fun v => ?_)
    (fun f => ⟨.compareValue f op, fun _ => by cases op <;> rfl⟩)
  -- the field is open in a test for null or in a comparison
  cases v with
  | null =>
    cases op with
    | eq => exact ⟨.isNullField false, fun _ => rfl⟩
    | ne => exact ⟨.isNullField true, fun _ => rfl⟩
    | _ => exact ⟨.compareField _ .null, fun _ => rfl⟩
  | _ => exact ⟨.compareField op _, fun _ => by cases op <;> rfl⟩

theorem readLike_swap (hf : S.Same ksF S.u₁ S.u₂ f₁ f₂) (negated : Bool) (hfree : S.Free TS)
    (hk : S.k ∈ ksF → S.k ∉ slotsOfTokens TS) :
    Paired (S.Reads TS fun ks => S.Fills like (ksF ++ ks))
      (readLike dates S.g₁ like f₁ negated (TS.map (SymToken.expand S.g₁.marker)))
      (readLike dates S.g₂ like f₂ negated (TS.map (SymToken.expand S.g₂.marker))) := by
  unfold readLike
  refine Paired.bind (readValue_swap (fun _ _ _ => rfl) hfree) ?_
  rintro ⟨v₁, r₁⟩ ⟨v₂, r₂⟩ ⟨used, rest, hTS, hr₁, hr₂, hv⟩
  rcases hv with rfl | ⟨hkV, rfl, rfl⟩
  · -- the same value: a pattern in both, or refused in both
    cases v₁ with
    | text p =>
      exact ⟨used, rest, hTS, hr₁, hr₂, fills_field (fun f => .like f (likePattern like p) negated)
        hf ⟨.likeField _ negated, fun _ => rfl⟩⟩
    | _ => trivial
  · -- the pattern is made from the two contents, so the field is the same in both
    have hkF : S.k ∉ ksF := fun hkF => hk hkF (slotsOfTokens_subset_of_eq_append hTS hkV)
    rcases hf with rfl | ⟨hkF', -⟩
    · exact ⟨used, rest, hTS, hr₁, hr₂, .leaf (.likePattern f₁ negated),
        fun _ => List.mem_append_right _ hkV, rfl, rfl⟩
    · exact absurd hkF' hkF

theorem readIsNull_swap (hf : S.Same ksF S.u₁ S.u₂ f₁ f₂) (TS : List SymToken) :
    Paired (S.Reads TS fun ks => S.Fills like (ksF ++ ks))
      (readIsNull f₁ (TS.map (SymToken.expand S.g₁.marker)))
      (readIsNull f₂ (TS.map (SymToken.expand S.g₂.marker))) := by
  unfold readIsNull
  cases TS with
  | nil => trivial
  | cons t r =>
    simp only [List.map_cons, isKeyword_expand "not" rfl]
    -- an optional `NOT`, then `NULL` or `NONE`
    by_cases hnot : t.isKeyword "not" = true
    · simp only [hnot, ↓reduceIte]
      cases r with
      | nil => trivial
      | cons t' r' =>
        simp only [List.map_cons, isKeyword_expand "null" rfl,
          isKeyword_expand "none" rfl]
        split_ifs
        · exact ⟨[t, t'], r', rfl, rfl, rfl,
            fills_field (fun f => .isNull f true) hf ⟨.isNullField true, fun _ => rfl⟩⟩
        · trivial
    · simp only [hnot, Bool.false_eq_true, ↓reduceIte, isKeyword_expand "null" rfl,
        isKeyword_expand "none" rfl]
      split_ifs
      · exact ⟨[t], r, rfl, rfl, rfl,
          fills_field (fun f => .isNull f false) hf ⟨.isNullField false, fun _ => rfl⟩⟩
      · trivial

theorem readBetween_swap (hf : S.Same ksF S.u₁ S.u₂ f₁ f₂) (negated : Bool)
    (hfree : S.Free TS) (hnodup : (slotsOfTokens TS).Nodup)
    (hk : S.k ∈ ksF → S.k ∉ slotsOfTokens TS) :
    Paired (S.Reads TS fun ks => S.Fills like (ksF ++ ks))
      (readBetween dates S.g₁ f₁ negated (TS.map (SymToken.expand S.g₁.marker)))
      (readBetween dates S.g₂ f₂ negated (TS.map (SymToken.expand S.g₂.marker))) := by
  have hlow : Paired (S.Reads TS fun ks => S.Same ks (Literal.text S.u₁) (.text S.u₂))
      (readValue dates S.g₁ (fun t => t.isKeyword "and") (TS.map (SymToken.expand S.g₁.marker)))
      (readValue dates S.g₂ (fun t => t.isKeyword "and") (TS.map (SymToken.expand S.g₂.marker))) :=
    readValue_swap (fun _ _ t => isKeyword_expand "and" rfl t) hfree
  unfold readBetween
  rcases hlow.cases with ⟨e₁, e₂, h₁, h₂⟩ | ⟨⟨lo₁, r₁⟩, ⟨lo₂, r₂⟩, h₁, h₂, used, rest, hTS, hr₁, hr₂, hlo⟩
  · rw [h₁, h₂]
    trivial
  rw [h₁, h₂]
  simp only at hr₁ hr₂ hlo
  subst hr₁ hr₂
  -- the low value is followed by `AND`, then by the high value
  cases rest with
  | nil => trivial
  | cons t rest =>
    simp only [List.map_cons, isKeyword_expand "and" rfl]
    split_ifs with hand
    · have hfree' : S.Free rest := by
        rw [hTS, ← List.singleton_append, ← List.append_assoc] at hfree
        exact hfree.of_append_right
      have hhigh : Paired (S.Reads rest fun ks => S.Same ks (Literal.text S.u₁) (.text S.u₂))
          (readValue dates S.g₁ (fun _ => false) (rest.map (SymToken.expand S.g₁.marker)))
          (readValue dates S.g₂ (fun _ => false) (rest.map (SymToken.expand S.g₂.marker))) :=
        readValue_swap (fun _ _ _ => rfl) hfree'
      rcases hhigh.cases with ⟨e₁, e₂, h₁, h₂⟩ |
        ⟨⟨hi₁, r₁⟩, ⟨hi₂, r₂⟩, h₁, h₂, used', rest', hrest, hr₁, hr₂, hhi⟩
      · rw [h₁, h₂]
        trivial
      rw [h₁, h₂]
      simp only at hr₁ hr₂ hhi
      subst hr₁ hr₂
      have hTS' : TS = (used ++ t :: used') ++ rest' := by simp [hTS, hrest]
      -- the field and the two ends are read from different tokens
      have hks : slotsOfTokens used ++ slotsOfTokens used' ⊆ slotsOfTokens (used ++ t :: used') := by
        simp [slotsOfTokens]
      have hlohi : S.k ∈ slotsOfTokens used → S.k ∉ slotsOfTokens used' := by
        intro hkl hkh
        refine not_mem_rest_of_nodup (show TS = used ++ (t :: used' ++ rest') by simp [hTS, hrest])
          hnodup hkl ?_
        simp [slotsOfTokens] at hkh ⊢
        exact .inr (.inl hkh)
      refine ⟨used ++ t :: used', rest', hTS', rfl, rfl, ?_⟩
      let mk := fun f (x : Literal × Literal) => Predicate.between f x.1 x.2 negated
      refine (fills_leaf mk hf (hlo.pair mk hhi hlohi (fun f b => ⟨.betweenLow f b negated, fun _ => rfl⟩)
          (fun f a => ⟨.betweenHigh f a negated, fun _ => rfl⟩))
        (fun hkF hkV => hk hkF ?_) (fun x => ⟨.betweenField x.1 x.2 negated, fun _ => rfl⟩)).mono
        (List.append_subset.2 ⟨List.subset_append_left _ _,
          List.Subset.trans hks (List.subset_append_right _ _)⟩)
      exact slotsOfTokens_subset_of_eq_append hTS' (hks hkV)
    · trivial

/-- The values of an `IN` list up to its closing parenthesis, after the values `acc` already read:
    the same list in both runs, or lists that differ in the one value that is the swapped slot. -/
theorem readListValues_swap (fuel : Nat) {TS : List SymToken} {ksA : List Nat}
    {acc₁ acc₂ : List Literal} (hacc : S.SameValues ksA acc₁ acc₂) (hfree : S.Free TS)
    (hnodup : (slotsOfTokens TS).Nodup) (hk : S.k ∈ ksA → S.k ∉ slotsOfTokens TS) :
    Paired (S.Reads TS fun ks => S.SameValues (ksA ++ ks))
      (readListValues dates S.g₁ fuel (TS.map (SymToken.expand S.g₁.marker)) acc₁)
      (readListValues dates S.g₂ fuel (TS.map (SymToken.expand S.g₂.marker)) acc₂) := by
  induction fuel generalizing TS ksA acc₁ acc₂ with
  | zero => trivial
  | succ fuel ih =>
    have hval : Paired (S.Reads TS fun ks => S.Same ks (Literal.text S.u₁) (.text S.u₂))
        (readValue dates S.g₁ (fun t => t = .comma || t = .rparen)
          (TS.map (SymToken.expand S.g₁.marker)))
        (readValue dates S.g₂ (fun t => t = .comma || t = .rparen)
          (TS.map (SymToken.expand S.g₂.marker))) :=
      readValue_swap (fun _ _ t => listStop_expand t) hfree
    simp only [readListValues]
    rcases hval.cases with ⟨e₁, e₂, h₁, h₂⟩ |
      ⟨⟨v₁, r₁⟩, ⟨v₂, r₂⟩, h₁, h₂, used, rest, hTS, hr₁, hr₂, hv⟩
    · -- an empty value is reported as such, any other failure as it is
      rw [h₁, h₂]
      split <;> split <;> trivial
    rw [h₁, h₂]
    simp only at hr₁ hr₂ hv
    subst hr₁ hr₂
    have hacc' := hacc.cons hv fun hkA hkU => hk hkA (slotsOfTokens_subset_of_eq_append hTS hkU)
    -- the value is followed by a comma and more values, or by the closing parenthesis
    cases rest with
    | nil => trivial
    | cons t rest =>
      cases t with
      | comma =>
        have hTS' : TS = (used ++ [.comma]) ++ rest := by simp [hTS]
        have hslots : slotsOfTokens (used ++ [.comma]) = slotsOfTokens used := by
          simp [slotsOfTokens, SymToken.words]
        have hfree' : S.Free rest := by
          rw [hTS'] at hfree
          exact hfree.of_append_right
        refine (ih hacc' hfree' (List.Nodup.sublist ?_ hnodup) ?_).mono
          fun r₁ r₂ h => Reads.append hTS' ?_ h
        · rw [hTS', slotsOfTokens_append]
          exact List.sublist_append_right _ _
        · intro hk'
          rcases List.mem_append.1 hk' with hkA | hkU
          · exact fun hkR => hk hkA (slotsOfTokens_rest_subset hTS' hkR)
          · exact not_mem_rest_of_nodup hTS' hnodup (hslots ▸ hkU)
        · intro ks x₁ x₂ hx
          refine hx.mono ?_
          rw [hslots, List.append_assoc]
          exact List.Subset.refl _
      | rparen =>
        refine ⟨used ++ [.rparen], rest, by simp [hTS], rfl, rfl, hacc'.reverse.mono ?_⟩
        simp [slotsOfTokens, SymToken.words]
      | _ => trivial

theorem readIn_swap (hf : S.Same ksF S.u₁ S.u₂ f₁ f₂) (negated : Bool) (hfree : S.Free TS)
    (hnodup : (slotsOfTokens TS).Nodup) (hk : S.k ∈ ksF → S.k ∉ slotsOfTokens TS) :
    Paired (S.Reads TS fun ks => S.Fills like (ksF ++ ks))
      (readIn dates S.g₁ f₁ negated (TS.map (SymToken.expand S.g₁.marker)))
      (readIn dates S.g₂ f₂ negated (TS.map (SymToken.expand S.g₂.marker))) := by
  match TS, hfree, hnodup, hk with
  | [], _, _, _ => trivial
  | .word _ :: _, _, _, _ | .op _ :: _, _, _, _ | .rparen :: _, _, _, _ | .comma :: _, _, _, _ =>
    trivial
  | .lparen :: rest, hfree, hnodup, hk =>
    by_cases hr : rest.head? = some .rparen
    · -- an empty list
      obtain ⟨rest', rfl⟩ := List.head?_eq_some_iff.1 hr
      exact ⟨[.lparen, .rparen], rest', rfl, rfl, rfl,
        fills_field (fun f => .member f [] negated) hf ⟨.memberField [] negated, fun _ => rfl⟩⟩
    have hne : ∀ m, (rest.map (SymToken.expand m)).head? ≠ some .rparen := by
      intro m
      cases rest with
      | nil => simp
      | cons t rest => cases t <;> simp_all [SymToken.expand]
    have hTS : SymToken.lparen :: rest = [.lparen] ++ rest := rfl
    have hslots : slotsOfTokens rest = slotsOfTokens (.lparen :: rest) := by
      simp [slotsOfTokens, SymToken.words]
    simp only [List.map_cons, SymToken.expand]
    rw [readIn_lparen _ _ _ (hne _), readIn_lparen _ _ _ (hne _), List.length_map, List.length_map]
    refine Paired.bind (readListValues_swap (rest.length + 1)
      (show S.SameValues [] [] [] from .inl rfl) (hTS ▸ hfree).of_append_right (hslots ▸ hnodup)
      (by simp)) ?_
    rintro ⟨vs₁, r₁⟩ ⟨vs₂, r₂⟩ ⟨used, rest', hrest, h₁, h₂, hvs⟩
    have hks : slotsOfTokens used = slotsOfTokens (.lparen :: used) := by
      simp [slotsOfTokens, SymToken.words]
    refine ⟨.lparen :: used, rest', by simp [hrest], h₁, h₂, ?_⟩
    rw [← hks]
    refine fills_leaf (fun f vs => .member f vs negated) hf (hvs.open_member negated) ?_
      (fun vs => ⟨.memberField vs negated, fun _ => rfl⟩)
    exact fun hkF hkU => hk hkF (hslots ▸ slotsOfTokens_subset_of_eq_append hrest (by simpa using hkU))

theorem readKeywordOperator_swap (hf : S.Same ksF S.u₁ S.u₂ f₁ f₂) (t : SymToken)
    (negated : Bool) (hfree : S.Free TS) (hnodup : (slotsOfTokens TS).Nodup)
    (hk : S.k ∈ ksF → S.k ∉ slotsOfTokens TS) :
    Paired (S.Reads TS fun ks => S.Fills like (ksF ++ ks))
      (readKeywordOperator dates S.g₁ like f₁ (t.expand S.g₁.marker) negated
        (TS.map (SymToken.expand S.g₁.marker)))
      (readKeywordOperator dates S.g₂ like f₂ (t.expand S.g₂.marker) negated
        (TS.map (SymToken.expand S.g₂.marker))) := by
  unfold readKeywordOperator
  simp only [isKeyword_expand "between" rfl, isKeyword_expand "in" rfl,
    isKeyword_expand "like" rfl]
  split_ifs
  · exact readBetween_swap hf negated hfree hnodup hk
  · exact readIn_swap hf negated hfree hnodup hk
  · exact readLike_swap hf negated hfree hk
  · trivial
  · trivial

end Readers

/-! ## A whole clause -/

/-- A reader that goes on after one token, for a relation that only gains from more slots. -/
theorem Reads.after_token {α : Type} {t : SymToken} {r : List SymToken}
    {R : List Nat → α → α → Prop} (hR : ∀ ks ks' x₁ x₂, ks ⊆ ks' → R ks x₁ x₂ → R ks' x₁ x₂)
    {r₁ r₂ : α × List Token} (h : S.Reads r R r₁ r₂) : S.Reads (t :: r) R r₁ r₂ :=
  Reads.append (show t :: r = [t] ++ r from rfl)
    (fun _ _ _ hx => hR _ _ _ _ (List.subset_append_right _ _) hx) h

/-- Nothing may follow the tree of a clause. -/
theorem Reads.finish {TS used rest : List SymToken} (hTS : TS = used ++ rest)
    {x₁ x₂ : Predicate × List Token}
    (h : S.Reads rest (fun ks => S.Fills like (slotsOfTokens used ++ ks)) x₁ x₂) :
    Paired (S.Fills like (slotsOfTokens TS))
      (match x₁.2 with
        | [] => pure x₁.1
        | extra :: _ => throw (QueryError.bare (.trailingToken extra.describe)) :
        Except QueryError Predicate)
      (match x₂.2 with
        | [] => pure x₂.1
        | extra :: _ => throw (QueryError.bare (.trailingToken extra.describe)) :
        Except QueryError Predicate) := by
  obtain ⟨used', rest', hrest, h₁, h₂, hp⟩ := h
  rw [h₁, h₂]
  cases rest' with
  | nil =>
    refine hp.mono ?_
    rw [hTS, hrest, List.append_nil, slotsOfTokens_append]
    exact List.Subset.refl _
  | cons _ _ => trivial

/-- A clause that starts with a field: the field, what follows it, and nothing after. -/
theorem readGeneral_swap {TS : List SymToken} (hfree : S.Free TS)
    (hnodup : (slotsOfTokens TS).Nodup) :
    Paired (S.Fills like (slotsOfTokens TS))
      (readClauseTokens.readGeneral dates S.g₁ like (TS.map (SymToken.expand S.g₁.marker)))
      (readClauseTokens.readGeneral dates S.g₂ like (TS.map (SymToken.expand S.g₂.marker))) := by
  unfold readClauseTokens.readGeneral
  refine Paired.bind (readField_swap hfree) ?_
  rintro ⟨f₁, r₁⟩ ⟨f₂, r₂⟩ ⟨used, rest, hTS, h₁, h₂, hf⟩
  simp only at h₁ h₂ hf
  subst h₁ h₂
  simp only
  -- what follows the field is read from tokens that do not hold the field's slots
  have hk : S.k ∈ slotsOfTokens used → S.k ∉ slotsOfTokens rest :=
    not_mem_rest_of_nodup hTS hnodup
  have hmono : ∀ {ks ks' : List Nat} {p₁ p₂ : Predicate}, ks ⊆ ks' →
      S.Fills like (slotsOfTokens used ++ ks) p₁ p₂ →
      S.Fills like (slotsOfTokens used ++ ks') p₁ p₂ := fun hks h =>
    h.mono (List.append_subset.2 ⟨List.subset_append_left _ _,
      List.subset_append_of_subset_right _ hks⟩)
  cases rest with
  | nil => trivial
  | cons t r =>
    have hTS' : TS = (used ++ [t]) ++ r := by simp [hTS]
    have hfree' : S.Free r := (hTS' ▸ hfree).of_append_right
    have hnodup' : (slotsOfTokens r).Nodup := by
      rw [hTS', slotsOfTokens_append] at hnodup
      exact (List.nodup_append.1 hnodup).2.1
    have hk' : S.k ∈ slotsOfTokens used → S.k ∉ slotsOfTokens r :=
      fun hkU hkR => hk hkU (slotsOfTokens_rest_subset (show t :: r = [t] ++ r from rfl) hkR)
    -- what the operator reads is read after the token, and nothing may follow it
    have hlift : ∀ {t : SymToken} {x₁ x₂ : Predicate × List Token},
        S.Reads r (fun ks => S.Fills like (slotsOfTokens used ++ ks)) x₁ x₂ →
        S.Reads (t :: r) (fun ks => S.Fills like (slotsOfTokens used ++ ks)) x₁ x₂ :=
      fun h => h.after_token fun _ _ _ _ => hmono
    simp only [List.map_cons]
    cases t with
    | op o =>
      exact Paired.bind ((readComparison_swap hf o hfree' hk').mono fun _ _ h => hlift h)
        fun _ _ h => Reads.finish hTS h
    | word w =>
      have his : ∀ m, Text.isWord (expandSyms m w) "is" = isWordSyms w "is" :=
        fun _ => isWord_expandSyms rfl w
      have hnot : ∀ m, Text.isWord (expandSyms m w) "not" = isWordSyms w "not" :=
        fun _ => isWord_expandSyms rfl w
      simp only [SymToken.expand, Token.isKeyword, his, hnot]
      split_ifs
      · exact Paired.bind ((readIsNull_swap hf r).mono fun _ _ h => hlift h)
          fun _ _ h => Reads.finish hTS h
      · -- after NOT comes the keyword of the operator
        cases r with
        | nil => trivial
        | cons n r' =>
          have hr : n :: r' = [n] ++ r' := rfl
          have hfree'' : S.Free r' := (show S.Free ([n] ++ r') from hfree').of_append_right
          have hnodup'' : (slotsOfTokens r').Nodup := by
            rw [hr, slotsOfTokens_append] at hnodup'
            exact (List.nodup_append.1 hnodup').2.1
          have hk'' : S.k ∈ slotsOfTokens used → S.k ∉ slotsOfTokens r' := fun hkU hkR =>
            hk' hkU (slotsOfTokens_rest_subset hr hkR)
          simp only [List.map_cons]
          refine Paired.bind ((readKeywordOperator_swap hf n true hfree'' hnodup'' hk'').mono
            fun _ _ h => hlift (h.after_token fun _ _ _ _ => hmono))
            fun _ _ h => Reads.finish hTS h
      · exact Paired.bind ((readKeywordOperator_swap hf (.word w) false hfree' hnodup' hk').mono
          fun _ _ h => hlift h) fun _ _ h => Reads.finish hTS h
    | lparen =>
      exact Paired.bind ((readKeywordOperator_swap hf .lparen false hfree' hnodup' hk').mono
        fun _ _ h => hlift h) fun _ _ h => Reads.finish hTS h
    | rparen =>
      exact Paired.bind ((readKeywordOperator_swap hf .rparen false hfree' hnodup' hk').mono
        fun _ _ h => hlift h) fun _ _ h => Reads.finish hTS h
    | comma =>
      exact Paired.bind ((readKeywordOperator_swap hf .comma false hfree' hnodup' hk').mono
        fun _ _ h => hlift h) fun _ _ h => Reads.finish hTS h

/-- A lone word may be a constant, and is read as one with either marker. -/
theorem readClauseTokens_word_swap (w : List Sym) (hfree : S.Free [.word w])
    (hnodup : (slotsOfTokens [.word w]).Nodup) :
    Paired (S.Fills like (slotsOfTokens [.word w]))
      (readClauseTokens dates S.g₁ like [.word (expandSyms S.g₁.marker w)])
      (readClauseTokens dates S.g₂ like [.word (expandSyms S.g₂.marker w)]) := by
  have htrue : ∀ m, Text.isWord (expandSyms m w) "true" = isWordSyms w "true" :=
    fun _ => isWord_expandSyms rfl w
  have hfalse : ∀ m, Text.isWord (expandSyms m w) "false" = isWordSyms w "false" :=
    fun _ => isWord_expandSyms rfl w
  simp only [readClauseTokens, expandSyms_eq_singleton_iff S.marker₁,
    expandSyms_eq_singleton_iff S.marker₂, htrue, hfalse]
  split_ifs
  · exact Fills.same _ _
  · exact Fills.same _ _
  · exact readGeneral_swap hfree hnodup

/-- The tokens of a clause: a constant, or a field and what follows it. -/
theorem readClauseTokens_swap {TS : List SymToken} (hfree : S.Free TS)
    (hnodup : (slotsOfTokens TS).Nodup) :
    Paired (S.Fills like (slotsOfTokens TS))
      (readClauseTokens dates S.g₁ like (TS.map (SymToken.expand S.g₁.marker)))
      (readClauseTokens dates S.g₂ like (TS.map (SymToken.expand S.g₂.marker))) := by
  by_cases hword : ∃ w, TS = [.word w]
  · obtain ⟨w, rfl⟩ := hword
    exact readClauseTokens_word_swap w hfree hnodup
  · cases TS with
    | nil => exact Fills.same _ _
    | cons t rest =>
      have hw : ∀ w, t :: rest ≠ [.word w] := fun w h => hword ⟨w, h⟩
      rw [readClauseTokens_eq_readGeneral _ _ (by simp) (map_expand_ne_word hw),
        readClauseTokens_eq_readGeneral _ _ (by simp) (map_expand_ne_word hw)]
      exact readGeneral_swap hfree hnodup

/-- A clause of the two texts: the two runs fail together, and when they succeed they read the
    fills of one hole, open only if the clause holds the swapped slot. -/
theorem readClause_swap {a : List Sym} (hfree₁ : MarkerFree S.g₁.marker a)
    (hfree₂ : MarkerFree S.g₂.marker a) (hnodup : (slotsOf a).Nodup) :
    Paired (S.Fills like (slotsOf a))
      (readClause dates S.g₁ like (expandSyms S.g₁.marker a))
      (readClause dates S.g₂ like (expandSyms S.g₂.marker a)) := by
  have h₁ := tokenize_expands S.marker₁ a
  have h₂ := tokenize_expands S.marker₂ a
  unfold readClause
  cases hlex : lexSyms a [] with
  | none =>
    -- both texts fail to split into tokens
    rw [hlex] at h₁ h₂
    obtain ⟨e₁, he₁⟩ := h₁.eq_error
    obtain ⟨e₂, he₂⟩ := h₂.eq_error
    rw [he₁, he₂]
    trivial
  | some TS =>
    rw [hlex] at h₁ h₂
    rw [h₁.eq_ok, h₂.eq_ok]
    -- the tokens hold the slots of the clause, and their words are parts of it
    obtain ⟨hslots, hwords⟩ := lexSyms_keepsWords hlex
    simp only [List.reverse_nil, slotsOfTokens_nil, List.nil_append, List.flatMap_nil,
      List.not_mem_nil, false_or] at hslots hwords
    have hfree : S.Free TS := fun w hw => ⟨hfree₁.mono (hwords w hw), hfree₂.mono (hwords w hw)⟩
    have hpair : Paired (S.Fills like (slotsOf a)) _ _ :=
      hslots ▸ @readClauseTokens_swap dates S like TS hfree (hslots ▸ hnodup)
    rcases hpair.cases with ⟨e₁, e₂, he₁, he₂⟩ | ⟨p₁, p₂, hp₁, hp₂, hp⟩
    · simp only [except_ok_bind, he₁, he₂]
      trivial
    · simp only [except_ok_bind, hp₁, hp₂]
      exact hp

end SpanSwap

end FilterQuery.Query
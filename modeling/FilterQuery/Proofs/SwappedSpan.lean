import FilterQuery.Proofs.TokenSymbols
import FilterQuery.Proofs.LiteralHole

/-!
# Two guarded texts that differ in one span

A `SpanSwap` is a pair of guarded texts written from the same symbols, each with its own marker,
whose originals agree except at one slot `k`, where they hold two spans opened by the same quote
character and with non-empty contents `u₁` and `u₂`. This module runs the value and field
readers of a clause on the tokens of the two texts side by side.

`Paired R r₁ r₂` says that two results fail together and, when they succeed, are related by
`R`. A reader of a value or of a field name reads the same tokens in both runs, and reads the same
value in both unless the tokens it reads are the swapped slot alone, where it reads `u₁` and
`u₂` (`read_swap`, `readValue_swap`, `readField_swap`).

## Key results

- `Paired.bind`: relating two runs of a reader step by step
- `read_swap`, `readValue_swap`: a value of the two texts
- `readField_swap`: the field name that starts a clause of the two texts
-/

namespace FilterQuery.Query

variable {dates : DateRecognizer}

/-! ## Two results side by side -/

/-- Two results that fail together and, when they succeed, are related by `R`. -/
def Paired {ε α β : Type} (R : α → β → Prop) : Except ε α → Except ε β → Prop
  | .ok a, .ok b => R a b
  | .error _, .error _ => True
  | _, _ => False

namespace Paired

variable {ε α β γ δ : Type} {R : α → β → Prop}

@[simp] theorem ok_ok {a : α} {b : β} : Paired (ε := ε) R (.ok a) (.ok b) ↔ R a b := Iff.rfl

@[simp] theorem error_error {e₁ e₂ : ε} : Paired R (α := α) (β := β) (.error e₁) (.error e₂) :=
  trivial

theorem refl {R : α → α → Prop} (hR : ∀ a, R a a) : ∀ x : Except ε α, Paired R x x
  | .ok a => hR a
  | .error _ => trivial

/-- Two runs related step by step: results related by `R` are continued by steps whose results
    are related by `R'`. -/
theorem bind {x₁ : Except ε α} {x₂ : Except ε β} {f₁ : α → Except ε γ} {f₂ : β → Except ε δ}
    {R' : γ → δ → Prop} (h : Paired R x₁ x₂) (hf : ∀ a b, R a b → Paired R' (f₁ a) (f₂ b)) :
    Paired R' (x₁ >>= f₁) (x₂ >>= f₂) := by
  cases x₁ with
  | error e₁ =>
    cases x₂ with
    | error e₂ => trivial
    | ok b => cases h
  | ok a =>
    cases x₂ with
    | error e₂ => cases h
    | ok b => exact hf a b h

theorem mono {x₁ : Except ε α} {x₂ : Except ε β} {R' : α → β → Prop} (h : Paired R x₁ x₂)
    (hR : ∀ a b, R a b → R' a b) : Paired R' x₁ x₂ := by
  cases x₁ <;> cases x₂ <;> first | trivial | cases h | exact hR _ _ h

/-- Related results succeed together. -/
theorem ok_iff {x₁ : Except ε α} {x₂ : Except ε β} (h : Paired R x₁ x₂) :
    (∃ a, x₁ = .ok a) ↔ (∃ b, x₂ = .ok b) := by
  cases x₁ <;> cases x₂
  · simp
  · cases h
  · cases h
  · simp

theorem rel_of_ok {x₁ : Except ε α} {x₂ : Except ε β} {a : α} {b : β} (h : Paired R x₁ x₂)
    (h₁ : x₁ = .ok a) (h₂ : x₂ = .ok b) : R a b := by
  subst h₁ h₂
  exact h

end Paired

/-! ## The setting -/

/-- Two guarded texts written from the same symbols that differ in the span of the slot `k`: their
    markers are markers the guard may choose, and their originals agree except at `k`, where they
    are `q₁` and `q₂`, opened by the same quote character and with non-empty contents. -/
structure SpanSwap where
  g₁ : Guarded
  g₂ : Guarded
  k : Nat
  q₁ : List Char
  q₂ : List Char
  marker₁ : MarkerOk g₁.marker
  marker₂ : MarkerOk g₂.marker
  originals : ∀ j, slotOriginal g₁.originals j = slotOriginal g₂.originals j ∨
    (j = k ∧ slotOriginal g₁.originals j = some q₁ ∧ slotOriginal g₂.originals j = some q₂)
  head : q₁.head? = q₂.head?
  content₁ : unquote q₁ ≠ []
  content₂ : unquote q₂ ≠ []

namespace SpanSwap

variable (S : SpanSwap)

/-- The content of the first text's span. -/
def u₁ : String := String.ofList (unquote S.q₁)

/-- The content of the second text's span. -/
def u₂ : String := String.ofList (unquote S.q₂)

/-- Words in which neither marker occurs outside the placeholders. -/
def Free (TS : List SymToken) : Prop :=
  ∀ w ∈ TS.flatMap SymToken.words, MarkerFree S.g₁.marker w ∧ MarkerFree S.g₂.marker w

/-- Two things read at one place of the two texts, having read the slots `ks`: the same thing, or
    `y₁` and `y₂` when the swapped slot is among those read. -/
def Same {α : Type} (ks : List Nat) (y₁ y₂ x₁ x₂ : α) : Prop :=
  x₁ = x₂ ∨ (S.k ∈ ks ∧ x₁ = y₁ ∧ x₂ = y₂)

/-- Both runs of a reader on the tokens `TS` read the same tokens and stop at the same rest, with
    results related by `R` given the slots of the tokens read. -/
def Reads {α : Type} (TS : List SymToken) (R : List Nat → α → α → Prop)
    (r₁ r₂ : α × List Token) : Prop :=
  ∃ used rest, TS = used ++ rest ∧ r₁.2 = rest.map (SymToken.expand S.g₁.marker) ∧
    r₂.2 = rest.map (SymToken.expand S.g₂.marker) ∧ R (slotsOfTokens used) r₁.1 r₂.1

/-- Two trees read from one part of the two texts, having read the slots `ks`: the fills of one
    hole with the two contents, open only if the swapped slot is among those read. -/
def Fills (like : LikeSyntax) (ks : List Nat) (p₁ p₂ : Predicate) : Prop :=
  ∃ H : Hole, (H.isOpen → S.k ∈ ks) ∧ p₁ = H.fill like S.u₁ ∧ p₂ = H.fill like S.u₂

variable {S}

theorem Same.mono {α : Type} {ks ks' : List Nat} {y₁ y₂ x₁ x₂ : α} (h : S.Same ks y₁ y₂ x₁ x₂)
    (hks : ks ⊆ ks') : S.Same ks' y₁ y₂ x₁ x₂ :=
  h.imp_right fun ⟨hk, h₁, h₂⟩ => ⟨hks hk, h₁, h₂⟩

theorem Fills.mono {like : LikeSyntax} {ks ks' : List Nat} {p₁ p₂ : Predicate}
    (h : S.Fills like ks p₁ p₂) (hks : ks ⊆ ks') : S.Fills like ks' p₁ p₂ :=
  let ⟨H, hopen, h₁, h₂⟩ := h
  ⟨H, fun ho => hks (hopen ho), h₁, h₂⟩

theorem Fills.same {like : LikeSyntax} (ks : List Nat) (p : Predicate) : S.Fills like ks p p :=
  ⟨.closed p, by simp, rfl, rfl⟩

theorem Free.of_append_right {TS TS' : List SymToken} (h : S.Free (TS ++ TS')) : S.Free TS' :=
  fun w hw => h w (by simp only [List.flatMap_append, List.mem_append]; exact .inr hw)

end SpanSwap

/-! ## Words of a value -/

/-- `takeWords` over tokens of symbols. -/
def takeWordsSyms (stop : SymToken → Bool) :
    List SymToken → List (List Sym) → Option (List (List Sym) × List SymToken)
  | [], acc => some (acc.reverse, [])
  | t :: rest, acc =>
    if stop t then some (acc.reverse, t :: rest)
    else match t with
      | .word w => takeWordsSyms stop rest (w :: acc)
      | _ => none

/-- `joinWords` over words of symbols. -/
def joinSyms : List (List Sym) → List Sym
  | [] => []
  | [w] => w
  | w :: rest => w ++ .char ' ' :: joinSyms rest

section Words

variable {m : List Char}

/-- The words of a value written with a marker are the words of its symbols, when the test that
    ends the value does not depend on the marker. -/
theorem takeWords_expands {stop : Token → Bool} {stopSyms : SymToken → Bool}
    (hstop : ∀ t, stop (t.expand m) = stopSyms t) (TS : List SymToken) (acc : List (List Sym)) :
    Expands (fun r => (r.1.map (expandSyms m), r.2.map (SymToken.expand m)))
      (takeWords stop (TS.map (SymToken.expand m)) (acc.map (expandSyms m)))
      (takeWordsSyms stopSyms TS acc) := by
  induction TS generalizing acc with
  | nil => simp [takeWords, takeWordsSyms, List.map_reverse]
  | cons t rest ih =>
    simp only [List.map_cons, takeWords, takeWordsSyms, hstop]
    by_cases ht : stopSyms t = true
    · simp [ht, List.map_reverse]
    · simp only [ht, Bool.false_eq_true, ↓reduceIte]
      cases t with
      | word w => exact ih (w :: acc)
      | _ => exact expands_error_none

/-- The words a value is read from come first among the tokens. -/
theorem takeWordsSyms_eq_some {stop : SymToken → Bool} {TS TS' : List SymToken}
    {acc WS : List (List Sym)} (h : takeWordsSyms stop TS acc = some (WS, TS')) :
    ∃ ws, WS = acc.reverse ++ ws ∧ TS = ws.map .word ++ TS' := by
  induction TS generalizing acc with
  | nil =>
    simp only [takeWordsSyms, Option.some.injEq, Prod.mk.injEq] at h
    obtain ⟨rfl, rfl⟩ := h
    exact ⟨[], by simp, rfl⟩
  | cons t rest ih =>
    unfold takeWordsSyms at h
    split at h
    · simp only [Option.some.injEq, Prod.mk.injEq] at h
      obtain ⟨rfl, rfl⟩ := h
      exact ⟨[], by simp, rfl⟩
    · split at h
      · rename_i w _
        obtain ⟨ws, hWS, hTS⟩ := ih h
        exact ⟨w :: ws, by simp [hWS], by simp [hTS]⟩
      · cases h

theorem joinWords_expandSyms (WS : List (List Sym)) :
    joinWords (WS.map (expandSyms m)) = expandSyms m (joinSyms WS) := by
  induction WS with
  | nil => rfl
  | cons w rest ih =>
    cases rest with
    | nil => rfl
    | cons w' rest' =>
      simp only [List.map_cons, joinWords, joinSyms] at ih ⊢
      rw [ih]
      simp

theorem slotsOf_joinSyms (WS : List (List Sym)) : slotsOf (joinSyms WS) = WS.flatMap slotsOf := by
  induction WS with
  | nil => rfl
  | cons w rest ih =>
    cases rest with
    | nil => simp [joinSyms]
    | cons w' rest' =>
      simp only [joinSyms] at ih ⊢
      simp [ih]

/-- A marker occurs outside placeholders exactly when it occurs as plain characters. -/
theorem markerFree_iff {a : List Sym} : MarkerFree m a ↔ ¬ m.map Sym.char <:+: a := by
  constructor
  · intro h hm
    exact h m hm (List.infix_refl m)
  · intro h cs hcs hm
    exact h ((hm.map Sym.char).trans hcs)

/-- An infix that misses a separator lies on one side of it. -/
theorem infix_or_infix_of_not_mem {α : Type} {l xs ys : List α} {x : α} (hx : x ∉ l)
    (h : l <:+: xs ++ x :: ys) : l <:+: xs ∨ l <:+: ys := by
  rcases List.infix_append_iff.1 h with h | h | ⟨l₁, l₂, rfl, h₁, h₂⟩
  · exact .inl h
  · rcases List.infix_cons_iff.1 h with h | h
    · -- an infix that starts the tail after the separator is empty
      cases l with
      | nil => exact .inl List.nil_infix
      | cons y l =>
        obtain ⟨rfl, -⟩ := List.cons_prefix_cons.1 h
        exact absurd List.mem_cons_self hx
    · exact .inr h
  · cases l₂ with
    | nil => exact .inl (by simpa using h₁.isInfix)
    | cons y l₂ =>
      obtain ⟨rfl, -⟩ := List.cons_prefix_cons.1 h₂
      exact absurd (List.mem_append_right _ List.mem_cons_self) hx

/-- Words joined by spaces keep the markers out: a marker has no space. -/
theorem MarkerFree.join (hm : MarkerOk m) {WS : List (List Sym)}
    (h : ∀ w ∈ WS, MarkerFree m w) : MarkerFree m (joinSyms WS) := by
  rw [markerFree_iff]
  induction WS with
  | nil =>
    intro hinf
    exact hm.ne_nil (List.map_eq_nil_iff.1 (List.eq_nil_of_infix_nil hinf))
  | cons w rest ih =>
    cases rest with
    | nil => simpa [joinSyms, markerFree_iff] using h w List.mem_cons_self
    | cons w' rest' =>
      have hspace : Sym.char ' ' ∉ m.map Sym.char := by
        simp only [List.mem_map, Sym.char.injEq, not_exists, not_and]
        intro c hc hc'
        subst hc'
        have hws := isWhiteSpace_of_mem (.inl (hm.letters _ hc))
        exact absurd hws (by decide)
      intro hinf
      rcases infix_or_infix_of_not_mem hspace hinf with hw | hrest
      · exact markerFree_iff.1 (h w List.mem_cons_self) hw
      · exact ih (fun v hv => h v (List.mem_cons_of_mem _ hv)) hrest

@[simp] theorem flatMap_words_map_word (ws : List (List Sym)) :
    (ws.map .word).flatMap SymToken.words = ws := by
  induction ws with
  | nil => rfl
  | cons w ws ih => simp [SymToken.words, ih]

theorem slotsOfTokens_map_word (ws : List (List Sym)) :
    slotsOfTokens (ws.map .word) = ws.flatMap slotsOf := by
  simp [slotsOfTokens]

end Words

/-! ## Values and field names -/

@[simp] theorem except_ok_bind {ε α β : Type} (a : α) (f : α → Except ε β) :
    ((.ok a : Except ε α) >>= f) = f a := rfl

theorem eq_of_soleSlot?_eq_some {a : List Sym} {j : Nat} (h : soleSlot? a = some j) :
    a = [.slot j] := by
  unfold soleSlot? at h
  split at h
  · cases h; rfl
  · cases h

namespace SpanSwap

variable {S : SpanSwap}

theorem Reads.word {α : Type} {y₁ y₂ x₁ x₂ : α} {a : List Sym} (rest : List SymToken)
    (h : S.Same (slotsOf a) y₁ y₂ x₁ x₂) :
    S.Reads (.word a :: rest) (fun ks => S.Same ks y₁ y₂)
      (x₁, rest.map (SymToken.expand S.g₁.marker)) (x₂, rest.map (SymToken.expand S.g₂.marker)) :=
  ⟨[.word a], rest, rfl, rfl, rfl, by simpa [slotsOfTokens, SymToken.words] using h⟩

/-- A value of the two texts read from the same symbols: the same value, or the two contents as
    texts when the symbols are the swapped slot alone. -/
theorem read_swap {a : List Sym} (h₁ : MarkerFree S.g₁.marker a)
    (h₂ : MarkerFree S.g₂.marker a) :
    Paired (S.Same (slotsOf a) (Literal.text S.u₁) (.text S.u₂))
      (Literal.read dates S.g₁ (expandSyms S.g₁.marker a))
      (Literal.read dates S.g₂ (expandSyms S.g₂.marker a)) := by
  unfold Literal.read
  rw [isEmpty_expandSyms S.marker₁, isEmpty_expandSyms S.marker₂,
    lookup?_expandSyms S.marker₁ h₁, lookup?_expandSyms S.marker₂ h₂,
    touches_expandSyms S.marker₁ h₁, touches_expandSyms S.marker₂ h₂]
  by_cases ha : a.isEmpty
  · simp only [ha, ↓reduceIte]
    trivial
  simp only [ha, Bool.false_eq_true, ↓reduceIte]
  cases hs : soleSlot? a with
  | some j =>
    obtain rfl := eq_of_soleSlot?_eq_some hs
    simp only [Option.bind_some]
    rcases S.originals j with hj | ⟨rfl, hq₁, hq₂⟩
    · -- a slot whose originals agree reads the same in both
      rw [hj]
      cases slotOriginal S.g₂.originals j with
      | some q => exact .inl rfl
      | none => simp [plainChars?]
    · rw [hq₁, hq₂]
      exact .inr ⟨by simp, rfl, rfl⟩
  | none =>
    simp only [Option.bind_none]
    cases hp : plainChars? a with
    | none => simp
    | some cs =>
      -- plain characters read the same in both
      obtain rfl := plainChars?_eq_some_iff.1 hp
      simp only [expandSyms_map_char, Option.isNone_some, Bool.false_eq_true, ↓reduceIte]
      exact Paired.refl (fun _ => .inl rfl) _

/-- A value read up to a token that a test independent of the marker accepts: both runs read the
    same words and stop at the same rest, and read the same value or the two contents. -/
theorem readValue_swap {stop : Token → Bool} {stopSyms : SymToken → Bool}
    (hstop : ∀ m, MarkerOk m → ∀ t, stop (t.expand m) = stopSyms t) {TS : List SymToken}
    (hfree : S.Free TS) :
    Paired (S.Reads TS fun ks => S.Same ks (Literal.text S.u₁) (.text S.u₂))
      (readValue dates S.g₁ stop (TS.map (SymToken.expand S.g₁.marker)))
      (readValue dates S.g₂ stop (TS.map (SymToken.expand S.g₂.marker))) := by
  have hw₁ := takeWords_expands (hstop _ S.marker₁) TS []
  have hw₂ := takeWords_expands (hstop _ S.marker₂) TS []
  simp only [List.map_nil] at hw₁ hw₂
  unfold readValue
  cases ht : takeWordsSyms stopSyms TS [] with
  | none =>
    rw [ht] at hw₁ hw₂
    obtain ⟨e₁, he₁⟩ := hw₁.eq_error
    obtain ⟨e₂, he₂⟩ := hw₂.eq_error
    rw [he₁, he₂]
    trivial
  | some r =>
    obtain ⟨WS, TS'⟩ := r
    rw [ht] at hw₁ hw₂
    obtain ⟨ws, hWS, hTS⟩ := takeWordsSyms_eq_some ht
    simp only [List.reverse_nil, List.nil_append] at hWS
    subst hWS
    rw [hw₁.eq_ok, hw₂.eq_ok]
    simp only [except_ok_bind, joinWords_expandSyms]
    -- the words of the value are among the tokens, so free of both markers
    have hws : ∀ w ∈ WS, MarkerFree S.g₁.marker w ∧ MarkerFree S.g₂.marker w :=
      fun w hw => hfree w (by rw [hTS, List.flatMap_append, flatMap_words_map_word]; simp [hw])
    refine Paired.bind (read_swap (MarkerFree.join S.marker₁ fun w hw => (hws w hw).1)
      (MarkerFree.join S.marker₂ fun w hw => (hws w hw).2)) fun v₁ v₂ hv => ?_
    refine ⟨WS.map .word, TS', hTS, rfl, rfl, ?_⟩
    rwa [slotsOfTokens_map_word, ← slotsOf_joinSyms]

/-- The field name that starts a clause of the two texts: both runs read the first word, and read
    the same name, or the two contents when the word is the swapped slot alone. -/
theorem readField_swap {TS : List SymToken} (hfree : S.Free TS) :
    Paired (S.Reads TS fun ks => S.Same ks S.u₁ S.u₂)
      (readField S.g₁ (TS.map (SymToken.expand S.g₁.marker)))
      (readField S.g₂ (TS.map (SymToken.expand S.g₂.marker))) := by
  match TS, hfree with
  | [], _ => trivial
  | .op _ :: _, _ | .lparen :: _, _ | .rparen :: _, _ | .comma :: _, _ => trivial
  | .word a :: rest, hfree =>
    obtain ⟨h₁, h₂⟩ := hfree a (by simp [SymToken.words])
    simp only [List.map_cons, SymToken.expand, readField]
    rw [lookup?_expandSyms S.marker₁ h₁, lookup?_expandSyms S.marker₂ h₂,
      touches_expandSyms S.marker₁ h₁, touches_expandSyms S.marker₂ h₂]
    cases hs : soleSlot? a with
    | some j =>
      obtain rfl := eq_of_soleSlot?_eq_some hs
      simp only [Option.bind_some]
      rcases S.originals j with hj | ⟨rfl, hq₁, hq₂⟩
      · rw [hj]
        cases slotOriginal S.g₂.originals j with
        | some q =>
          -- the same span names the same field in both, or is refused in both
          simp only
          split
          · trivial
          · split
            · trivial
            · exact Reads.word rest (.inl rfl)
        | none => simp [plainChars?]
      · -- the swapped spans are opened by the same quote and have contents
        rw [hq₁, hq₂]
        by_cases hq : S.q₂.head? = some '\''
        · simp [hq, S.head]
        · simp only [S.head, hq, ↓reduceIte, List.isEmpty_eq_false_iff.2 S.content₁,
            List.isEmpty_eq_false_iff.2 S.content₂, Bool.false_eq_true]
          exact Reads.word rest (.inr ⟨by simp, rfl, rfl⟩)
    | none =>
      simp only [Option.bind_none]
      cases hp : plainChars? a with
      | none => simp
      | some cs =>
        -- a plain word names the same field in both
        obtain rfl := plainChars?_eq_some_iff.1 hp
        simp only [expandSyms_map_char, Option.isNone_some, Bool.or_false]
        split_ifs
        · trivial
        · exact Reads.word rest (.inl rfl)

end SpanSwap

end FilterQuery.Query

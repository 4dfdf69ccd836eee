import FilterQuery.Regex.Node

/-!
# The matcher finds exactly the substrings a pattern describes

`Matches pre w post r` says which texts a node describes: the node `r` matches the text `w`
that stands between `pre` and `post`, and an assertion at an end of `w` looks at the last
character of `pre` or the first of `post`. It is the usual reading of patterns: a
concatenation splits the text in two, an alternation takes either side, and `r{n,m}` is `n`
to `m` copies of `r` one after the other.

The matcher works on states, lists of nodes still to match one after the other, whose
meaning is `SeqMatches`. This module shows that
* `accepts` holds exactly when a state matches the empty text at a position;
* `step` over a character gives states that match what follows the character, and one of
  them for every way the state matches a text starting with that character; repeated copies
  of a starred node that match the empty text can be dropped, which is why `step` never
  tries them;
* `search` therefore finds the end of a match of the pattern, wherever the match starts;

so `Node.isMatch r text` holds exactly when some substring of the text matches `r`.

## Key results
- `Regex.accepts_iff`: `accepts` decides whether a state matches the empty text
- `Regex.step_sound`, `Regex.step_complete`: the states after one character
- `Regex.search_iff`: what a search from the middle of a text finds
- `Regex.Node.isMatch_iff`: `isMatch` finds exactly the substrings that match
- `Regex.Matches.catAll_iff`: a concatenation of nodes is a state
-/

namespace FilterQuery

namespace Regex

/-- `Matches pre w post r`: the node `r` matches the text `w`, which stands between `pre` and
    `post`. A repetition `r{n,m}` is no copy when `n = 0`, or else one copy followed by
    `r{n-1,m-1}` when `m ≠ 0` (`none` is no bound). -/
inductive Matches : List Char → List Char → List Char → Node → Prop
  | empty {pre post : List Char} : Matches pre [] post .empty
  | chars {pre post : List Char} {s : CharSet} {c : Char} :
      s.contains c = true → Matches pre [c] post (.chars s)
  | look {pre post : List Char} {l : Look} :
      l.holds pre.getLast? post.head? = true → Matches pre [] post (.look l)
  | cat {pre u v post : List Char} {a b : Node} :
      Matches pre u (v ++ post) a → Matches (pre ++ u) v post b →
        Matches pre (u ++ v) post (.cat a b)
  | altLeft {pre w post : List Char} {a b : Node} :
      Matches pre w post a → Matches pre w post (.alt a b)
  | altRight {pre w post : List Char} {a b : Node} :
      Matches pre w post b → Matches pre w post (.alt a b)
  | repeatZero {pre post : List Char} {a : Node} {hi : Option Nat} :
      Matches pre [] post (.repeat a 0 hi)
  | repeatMore {pre u v post : List Char} {a : Node} {n : Nat} {hi : Option Nat} :
      hi ≠ some 0 → Matches pre u (v ++ post) a →
        Matches (pre ++ u) v post (.repeat a (n - 1) (hi.map (· - 1))) →
          Matches pre (u ++ v) post (.repeat a n hi)

/-- `SeqMatches pre w post s`: the nodes of the state `s`, one after the other, match `w`. -/
inductive SeqMatches : List Char → List Char → List Char → List Node → Prop
  | nil {pre post : List Char} : SeqMatches pre [] post []
  | cons {pre u v post : List Char} {a : Node} {s : List Node} :
      Matches pre u (v ++ post) a → SeqMatches (pre ++ u) v post s →
        SeqMatches pre (u ++ v) post (a :: s)

variable {pre post w : List Char} {a b : Node}

/-! ### Taking a match apart -/

namespace Matches

theorem empty_iff : Matches pre w post .empty ↔ w = [] :=
  ⟨fun h => by cases h; rfl, fun h => h ▸ .empty⟩

theorem chars_iff {s : CharSet} :
    Matches pre w post (.chars s) ↔ ∃ c, w = [c] ∧ s.contains c = true := by
  constructor
  · intro h
    cases h with
    | chars hc => exact ⟨_, rfl, hc⟩
  · rintro ⟨c, rfl, hc⟩
    exact .chars hc

theorem look_iff {l : Look} :
    Matches pre w post (.look l) ↔ w = [] ∧ l.holds pre.getLast? post.head? = true := by
  constructor
  · intro h
    cases h with
    | look hl => exact ⟨rfl, hl⟩
  · rintro ⟨rfl, hl⟩
    exact .look hl

theorem cat_iff :
    Matches pre w post (.cat a b) ↔
      ∃ u v, w = u ++ v ∧ Matches pre u (v ++ post) a ∧ Matches (pre ++ u) v post b := by
  constructor
  · intro h
    cases h with
    | cat ha hb => exact ⟨_, _, rfl, ha, hb⟩
  · rintro ⟨u, v, rfl, ha, hb⟩
    exact .cat ha hb

theorem alt_iff : Matches pre w post (.alt a b) ↔ Matches pre w post a ∨ Matches pre w post b := by
  constructor
  · intro h
    cases h with
    | altLeft ha => exact .inl ha
    | altRight hb => exact .inr hb
  · rintro (ha | hb)
    · exact .altLeft ha
    · exact .altRight hb

theorem repeat_iff {n : Nat} {hi : Option Nat} :
    Matches pre w post (.repeat a n hi) ↔
      (w = [] ∧ n = 0) ∨
        (hi ≠ some 0 ∧ ∃ u v, w = u ++ v ∧ Matches pre u (v ++ post) a ∧
          Matches (pre ++ u) v post (.repeat a (n - 1) (hi.map (· - 1)))) := by
  constructor
  · intro h
    cases h with
    | repeatZero => exact .inl ⟨rfl, rfl⟩
    | repeatMore hmax ha hrest => exact .inr ⟨hmax, _, _, rfl, ha, hrest⟩
  · rintro (⟨rfl, rfl⟩ | ⟨hmax, u, v, rfl, ha, hrest⟩)
    · exact .repeatZero
    · exact .repeatMore hmax ha hrest

/-- A larger bound keeps a match of a repetition. -/
theorem repeat_mono {u : List Char} {n m m' : Nat} (h : Matches pre u post (.repeat a n (some m)))
    (hle : m ≤ m') : Matches pre u post (.repeat a n (some m')) := by
  generalize hr : Node.repeat a n (some m) = r at h
  induction h generalizing n m m' with
  | repeatZero =>
    cases hr
    exact .repeatZero
  | repeatMore hmax hcopy _ _ ihrest =>
    cases hr
    have hm : m ≠ 0 := fun h0 => hmax (by rw [h0])
    exact .repeatMore (by simp only [ne_eq, Option.some.injEq]; omega) hcopy
      (ihrest (show m - 1 ≤ m' - 1 by omega) rfl)
  | _ => cases hr

/-- A non-empty match of `r{0,m}` has a first copy that is not empty: the empty copies
    before it can be dropped, which only lowers the count of copies. -/
theorem repeat_zero_nonempty {u : List Char} {hi : Option Nat}
    (h : Matches pre u post (.repeat a 0 hi)) (hu : u ≠ []) :
    ∃ u₁ u₂, u = u₁ ++ u₂ ∧ u₁ ≠ [] ∧ Matches pre u₁ (u₂ ++ post) a ∧
      Matches (pre ++ u₁) u₂ post (.repeat a 0 (hi.map (· - 1))) := by
  generalize hr : Node.repeat a 0 hi = r at h
  induction h generalizing hi with
  | repeatZero => exact absurd rfl hu
  | @repeatMore pre' u₁ v _ _ _ hi hmax hcopy hrest _ ihrest =>
    cases hr
    by_cases hu₁ : u₁ = []
    · -- an empty first copy: the rest is a non-empty match with one copy fewer allowed
      subst hu₁
      rw [List.append_nil] at hrest
      obtain ⟨v₁, v₂, rfl, hv₁, hcopy', hrest'⟩ := ihrest (by simpa using hu) rfl
      refine ⟨v₁, v₂, rfl, hv₁, by simpa using hcopy', ?_⟩
      rw [List.nil_append, List.append_nil] at *
      cases hi with
      | none => simpa using hrest'
      | some m =>
        simp only [Option.map_some] at hrest' ⊢
        exact repeat_mono hrest' (by omega)
    · exact ⟨u₁, v, rfl, hu₁, hcopy, hrest⟩
  | _ => cases hr

end Matches

/-! ### States -/

namespace SeqMatches

theorem nil_iff : SeqMatches pre w post [] ↔ w = [] :=
  ⟨fun h => by cases h; rfl, fun h => h ▸ .nil⟩

theorem cons_iff {s : List Node} :
    SeqMatches pre w post (a :: s) ↔
      ∃ u v, w = u ++ v ∧ Matches pre u (v ++ post) a ∧ SeqMatches (pre ++ u) v post s := by
  constructor
  · intro h
    cases h with
    | cons ha hs => exact ⟨_, _, rfl, ha, hs⟩
  · rintro ⟨u, v, rfl, ha, hs⟩
    exact .cons ha hs

theorem singleton_iff : SeqMatches pre w post [a] ↔ Matches pre w post a := by
  rw [cons_iff]
  constructor
  · rintro ⟨u, v, rfl, ha, hv⟩
    obtain rfl := nil_iff.1 hv
    simpa using ha
  · intro ha
    exact ⟨w, [], by simp, by simpa using ha, .nil⟩

/-- A state split in two matches a text split in two. -/
theorem append_iff {s t : List Node} :
    SeqMatches pre w post (s ++ t) ↔
      ∃ u v, w = u ++ v ∧ SeqMatches pre u (v ++ post) s ∧ SeqMatches (pre ++ u) v post t := by
  induction s generalizing pre w with
  | nil =>
    constructor
    · intro h
      exact ⟨[], w, rfl, .nil, by simpa using h⟩
    · rintro ⟨u, v, rfl, hs, ht⟩
      obtain rfl := nil_iff.1 hs
      simpa using ht
  | cons x s ih =>
    rw [List.cons_append, cons_iff]
    constructor
    · rintro ⟨u, v, rfl, hx, hst⟩
      obtain ⟨v₁, v₂, rfl, hs, ht⟩ := ih.1 hst
      refine ⟨u ++ v₁, v₂, by simp, cons_iff.2 ⟨u, v₁, rfl, by simpa using hx, hs⟩, ?_⟩
      simpa using ht
    · rintro ⟨u, v, rfl, hs, ht⟩
      obtain ⟨u₁, u₂, rfl, hx, hs'⟩ := cons_iff.1 hs
      refine ⟨u₁, u₂ ++ v, by simp, by simpa using hx, ih.2 ⟨u₂, v, rfl, hs', ?_⟩⟩
      simpa using ht

/-- Matching the empty text, the head of a state matches it too, and so does the rest. -/
theorem tail_of_nil {s : List Node} (h : SeqMatches pre [] post (a :: s)) :
    SeqMatches pre [] post s := by
  obtain ⟨u, v, huv, -, hs⟩ := cons_iff.1 h
  obtain ⟨rfl, rfl⟩ := List.append_eq_nil_iff.1 huv.symm
  simpa using hs

/-! One equation per kind of node at the head of a state, as `accepts` and `step` read it. -/

theorem empty_cons {s : List Node} : SeqMatches pre w post (.empty :: s) ↔ SeqMatches pre w post s := by
  rw [cons_iff]
  constructor
  · rintro ⟨u, v, rfl, hu, hs⟩
    obtain rfl := Matches.empty_iff.1 hu
    simpa using hs
  · intro hs
    exact ⟨[], w, rfl, .empty, by simpa using hs⟩

theorem chars_cons {cs : CharSet} {s : List Node} :
    SeqMatches pre w post (.chars cs :: s) ↔
      ∃ c w', w = c :: w' ∧ cs.contains c = true ∧ SeqMatches (pre ++ [c]) w' post s := by
  rw [cons_iff]
  constructor
  · rintro ⟨u, v, rfl, hu, hs⟩
    obtain ⟨c, rfl, hc⟩ := Matches.chars_iff.1 hu
    exact ⟨c, v, rfl, hc, hs⟩
  · rintro ⟨c, w', rfl, hc, hs⟩
    exact ⟨[c], w', rfl, .chars hc, hs⟩

theorem look_cons {l : Look} {s : List Node} :
    SeqMatches pre w post (.look l :: s) ↔
      l.holds pre.getLast? (w ++ post).head? = true ∧ SeqMatches pre w post s := by
  rw [cons_iff]
  constructor
  · rintro ⟨u, v, rfl, hu, hs⟩
    obtain ⟨rfl, hl⟩ := Matches.look_iff.1 hu
    exact ⟨by simpa using hl, by simpa using hs⟩
  · rintro ⟨hl, hs⟩
    exact ⟨[], w, rfl, .look hl, by simpa using hs⟩

theorem cat_cons {s : List Node} :
    SeqMatches pre w post (.cat a b :: s) ↔ SeqMatches pre w post (a :: b :: s) := by
  rw [cons_iff, cons_iff]
  constructor
  · rintro ⟨u, v, rfl, hu, hs⟩
    obtain ⟨u₁, u₂, rfl, ha, hb⟩ := Matches.cat_iff.1 hu
    refine ⟨u₁, u₂ ++ v, by simp, by simpa using ha, cons_iff.2 ⟨u₂, v, rfl, hb, ?_⟩⟩
    simpa using hs
  · rintro ⟨u₁, v₁, rfl, ha, hbs⟩
    obtain ⟨u₂, v, rfl, hb, hs⟩ := cons_iff.1 hbs
    refine ⟨u₁ ++ u₂, v, by simp, Matches.cat_iff.2 ⟨u₁, u₂, rfl, by simpa using ha, hb⟩, ?_⟩
    simpa using hs

theorem alt_cons {s : List Node} :
    SeqMatches pre w post (.alt a b :: s) ↔
      SeqMatches pre w post (a :: s) ∨ SeqMatches pre w post (b :: s) := by
  simp only [cons_iff, Matches.alt_iff]
  constructor
  · rintro ⟨u, v, rfl, ha | hb, hs⟩
    · exact .inl ⟨u, v, rfl, ha, hs⟩
    · exact .inr ⟨u, v, rfl, hb, hs⟩
  · rintro (⟨u, v, rfl, ha, hs⟩ | ⟨u, v, rfl, hb, hs⟩)
    · exact ⟨u, v, rfl, .inl ha, hs⟩
    · exact ⟨u, v, rfl, .inr hb, hs⟩

theorem repeat_cons {n : Nat} {hi : Option Nat} {s : List Node} :
    SeqMatches pre w post (.repeat a n hi :: s) ↔
      (n = 0 ∧ SeqMatches pre w post s) ∨
        (hi ≠ some 0 ∧
          SeqMatches pre w post (a :: .repeat a (n - 1) (hi.map (· - 1)) :: s)) := by
  rw [cons_iff]
  constructor
  · rintro ⟨u, v, rfl, hu, hs⟩
    rcases Matches.repeat_iff.1 hu with ⟨rfl, rfl⟩ | ⟨hmax, u₁, u₂, rfl, ha, hrest⟩
    · exact .inl ⟨rfl, by simpa using hs⟩
    · refine .inr ⟨hmax, cons_iff.2 ⟨u₁, u₂ ++ v, by simp, by simpa using ha, ?_⟩⟩
      exact cons_iff.2 ⟨u₂, v, rfl, hrest, by simpa using hs⟩
  · rintro (⟨rfl, hs⟩ | ⟨hmax, hcopy⟩)
    · exact ⟨[], w, rfl, .repeatZero, by simpa using hs⟩
    · obtain ⟨u₁, v₁, rfl, ha, hrs⟩ := cons_iff.1 hcopy
      obtain ⟨u₂, v, rfl, hrest, hs⟩ := cons_iff.1 hrs
      refine ⟨u₁ ++ u₂, v, by simp, .repeatMore hmax (by simpa using ha) hrest, ?_⟩
      simpa using hs

end SeqMatches

/-- A concatenation of nodes matches what they match one after the other. -/
theorem Matches.catAll_iff {l : List Node} :
    Matches pre w post (Node.catAll l) ↔ SeqMatches pre w post l := by
  fun_induction Node.catAll l generalizing pre w with
  | case1 => rw [Matches.empty_iff, SeqMatches.nil_iff]
  | case2 a => rw [SeqMatches.singleton_iff]
  | case3 a rest _ ih => simp only [Matches.cat_iff, SeqMatches.cons_iff, ih]

/-! ### Matching the empty text -/

/-- `accepts` decides whether a state matches the empty text between two characters. -/
theorem accepts_iff (prev next : Option Char) (s : List Node) {pre post : List Char}
    (hpre : pre.getLast? = prev) (hpost : post.head? = next) :
    accepts prev next s = true ↔ SeqMatches pre [] post s := by
  fun_induction accepts prev next s with
  | case1 => exact ⟨fun _ => .nil, fun _ => rfl⟩
  | case2 rest ih => rw [ih, SeqMatches.empty_cons]
  | case3 set rest => simp [SeqMatches.chars_cons]
  | case4 l rest ih =>
    rw [Bool.and_eq_true, ih, SeqMatches.look_cons, List.nil_append, hpre, hpost]
  | case5 a b rest ih => rw [ih, SeqMatches.cat_cons]
  | case6 a b rest iha ihb => rw [Bool.or_eq_true, iha, ihb, SeqMatches.alt_cons]
  | case7 a hi rest ih =>
    -- a copy of the starred node that matches the empty text is one that can be left out
    rw [ih, SeqMatches.repeat_cons]
    constructor
    · intro h
      exact .inl ⟨rfl, h⟩
    · rintro (⟨-, h⟩ | ⟨-, h⟩)
      · exact h
      · exact h.tail_of_nil.tail_of_nil
  | case8 a n rest => simp [SeqMatches.repeat_cons]
  | case9 a n m rest ih => simp [ih, SeqMatches.repeat_cons]
  | case10 a n rest ih => simp [ih, SeqMatches.repeat_cons]

/-! ### One character -/

section Step

variable {prev : Option Char} {c : Char}

/-- What `step` makes of a repetition that may match no copy: a copy that starts with the
    character, followed by the repetition with one copy fewer allowed; or else the rest of the
    state. Both its cases (no bound, a positive bound) are this one. -/
theorem sound_repeat_zero {hi : Option Nat} {rest s' : List Node} (hhi : hi ≠ some 0)
    (iha : ∀ {w post s'}, s' ∈ step prev c [a] → SeqMatches (pre ++ [c]) w post s' →
      SeqMatches pre (c :: w) post [a])
    (ihrest : ∀ {w post s'}, s' ∈ step prev c rest → SeqMatches (pre ++ [c]) w post s' →
      SeqMatches pre (c :: w) post rest)
    (hs' : s' ∈ (step prev c [a]).map (· ++ .repeat a 0 (hi.map (· - 1)) :: rest) ++
      step prev c rest)
    (h : SeqMatches (pre ++ [c]) w post s') :
    SeqMatches pre (c :: w) post (.repeat a 0 hi :: rest) := by
  rw [SeqMatches.repeat_cons]
  rcases List.mem_append.1 hs' with hcopy | hskip
  · obtain ⟨t, ht, rfl⟩ := List.mem_map.1 hcopy
    obtain ⟨w₁, w₂, rfl, hw₁, hw₂⟩ := SeqMatches.append_iff.1 h
    refine .inr ⟨hhi, SeqMatches.cons_iff.2 ⟨c :: w₁, w₂, rfl, ?_, ?_⟩⟩
    · exact SeqMatches.singleton_iff.1 (iha ht hw₁)
    · simpa using hw₂
  · exact .inl ⟨rfl, ihrest hskip h⟩

theorem complete_repeat_zero {hi : Option Nat} {rest : List Node}
    (iha : ∀ {w post}, SeqMatches pre (c :: w) post [a] →
      ∃ s' ∈ step prev c [a], SeqMatches (pre ++ [c]) w post s')
    (ihrest : ∀ {w post}, SeqMatches pre (c :: w) post rest →
      ∃ s' ∈ step prev c rest, SeqMatches (pre ++ [c]) w post s')
    (h : SeqMatches pre (c :: w) post (.repeat a 0 hi :: rest)) :
    ∃ s' ∈ (step prev c [a]).map (· ++ .repeat a 0 (hi.map (· - 1)) :: rest) ++
      step prev c rest, SeqMatches (pre ++ [c]) w post s' := by
  obtain ⟨u, v, huv, hu, hv⟩ := SeqMatches.cons_iff.1 h
  by_cases hne : u = []
  · -- no copy: the rest of the state reads the character
    subst hne
    rw [List.nil_append] at huv
    subst huv
    obtain ⟨s', hs', hm⟩ := ihrest (by simpa using hv)
    exact ⟨s', List.mem_append_right _ hs', hm⟩
  · -- the first copy that is not empty reads the character
    obtain ⟨u₁, u₂, rfl, hu₁, hcopy, hmore⟩ := Matches.repeat_zero_nonempty hu hne
    obtain ⟨x, u₁', rfl⟩ := List.exists_cons_of_ne_nil hu₁
    simp only [List.cons_append, List.append_assoc, List.cons.injEq] at huv
    obtain ⟨rfl, rfl⟩ := huv
    obtain ⟨t, ht, hmt⟩ := iha (SeqMatches.singleton_iff.2 hcopy)
    refine ⟨t ++ .repeat a 0 (hi.map (· - 1)) :: rest,
      List.mem_append_left _ (List.mem_map.2 ⟨t, ht, rfl⟩), ?_⟩
    refine SeqMatches.append_iff.2 ⟨u₁', u₂ ++ v, rfl, by simpa using hmt, ?_⟩
    exact SeqMatches.cons_iff.2 ⟨u₂, v, rfl, by simpa using hmore, by simpa using hv⟩

/-- Every state `step` gives, followed by the character, matches what the state matched. -/
theorem step_sound (prev : Option Char) (c : Char) (s : List Node) {pre : List Char}
    (hpre : pre.getLast? = prev) {w post : List Char} {s' : List Node}
    (hs' : s' ∈ step prev c s) (h : SeqMatches (pre ++ [c]) w post s') :
    SeqMatches pre (c :: w) post s := by
  fun_induction step prev c s generalizing w post s' with
  | case1 => simp at hs'
  | case2 rest ih => exact SeqMatches.empty_cons.2 (ih hs' h)
  | case3 set rest hc =>
    obtain rfl := List.mem_singleton.1 hs'
    exact SeqMatches.chars_cons.2 ⟨c, w, rfl, hc, h⟩
  | case4 => simp at hs'
  | case5 l rest hl ih => exact SeqMatches.look_cons.2 ⟨by simpa [hpre] using hl, ih hs' h⟩
  | case6 => simp at hs'
  | case7 a b rest ih => exact SeqMatches.cat_cons.2 (ih hs' h)
  | case8 a b rest iha ihb =>
    rcases List.mem_append.1 hs' with hs' | hs'
    · exact SeqMatches.alt_cons.2 (.inl (iha hs' h))
    · exact SeqMatches.alt_cons.2 (.inr (ihb hs' h))
  | case9 a rest iha ihrest => exact sound_repeat_zero (by simp) iha ihrest hs' h
  | case10 a rest ih => exact SeqMatches.repeat_cons.2 (.inl ⟨rfl, ih hs' h⟩)
  | case11 a m rest iha ihrest => exact sound_repeat_zero (by simp) iha ihrest hs' h
  | case12 => simp at hs'
  | case13 a n m rest ih => exact SeqMatches.repeat_cons.2 (.inr ⟨by simp, by simpa using ih hs' h⟩)
  | case14 a n rest ih => exact SeqMatches.repeat_cons.2 (.inr ⟨by simp, by simpa using ih hs' h⟩)

/-- Every way a state matches a text that starts with the character goes on from one of the
    states `step` gives. -/
theorem step_complete (prev : Option Char) (c : Char) (s : List Node) {pre : List Char}
    (hpre : pre.getLast? = prev) {w post : List Char} (h : SeqMatches pre (c :: w) post s) :
    ∃ s' ∈ step prev c s, SeqMatches (pre ++ [c]) w post s' := by
  fun_induction step prev c s generalizing w post with
  | case1 => cases SeqMatches.nil_iff.1 h
  | case2 rest ih => exact ih (SeqMatches.empty_cons.1 h)
  | case3 set rest hc =>
    obtain ⟨c', w', hcw, -, hrest⟩ := SeqMatches.chars_cons.1 h
    obtain ⟨rfl, rfl⟩ := List.cons.inj hcw
    exact ⟨rest, List.mem_singleton_self _, hrest⟩
  | case4 set rest hc =>
    obtain ⟨c', w', hcw, hc', -⟩ := SeqMatches.chars_cons.1 h
    obtain ⟨rfl, rfl⟩ := List.cons.inj hcw
    exact absurd hc' (by simpa using hc)
  | case5 l rest hl ih => exact ih (SeqMatches.look_cons.1 h).2
  | case6 l rest hl =>
    have hholds := (SeqMatches.look_cons.1 h).1
    simp [hpre] at hholds
    exact absurd hholds hl
  | case7 a b rest ih => exact ih (SeqMatches.cat_cons.1 h)
  | case8 a b rest iha ihb =>
    rcases SeqMatches.alt_cons.1 h with ha | hb
    · obtain ⟨s', hs', hm⟩ := iha ha
      exact ⟨s', List.mem_append_left _ hs', hm⟩
    · obtain ⟨s', hs', hm⟩ := ihb hb
      exact ⟨s', List.mem_append_right _ hs', hm⟩
  | case9 a rest iha ihrest => exact complete_repeat_zero iha ihrest h
  | case10 a rest ih =>
    rcases SeqMatches.repeat_cons.1 h with ⟨-, h⟩ | ⟨hhi, -⟩
    · exact ih h
    · exact absurd rfl hhi
  | case11 a m rest iha ihrest => exact complete_repeat_zero iha ihrest h
  | case12 a n rest =>
    rcases SeqMatches.repeat_cons.1 h with ⟨hn, -⟩ | ⟨hhi, -⟩
    · cases hn
    · exact absurd rfl hhi
  | case13 a n m rest ih =>
    rcases SeqMatches.repeat_cons.1 h with ⟨hn, -⟩ | ⟨-, h⟩
    · cases hn
    · exact ih (by simpa using h)
  | case14 a n rest ih =>
    rcases SeqMatches.repeat_cons.1 h with ⟨hn, -⟩ | ⟨-, h⟩
    · cases hn
    · exact ih (by simpa using h)

end Step

/-! ### The search -/

theorem mem_stepAll {prev : Option Char} {c : Char} {states : List (List Node)}
    {s' : List Node} : s' ∈ stepAll prev c states ↔ ∃ s ∈ states, s' ∈ step prev c s := by
  rw [stepAll, List.mem_eraseDups, List.mem_flatMap]

/-- A search over the rest `cs` of a text, after `done`, succeeds exactly when one of the
    live states (the pattern, started afresh here, among them) matches a prefix of `cs`, or
    the pattern matches a part of `cs` that starts later. -/
theorem search_iff (r : Node) (done : List Char) (states : List (List Node)) (cs : List Char) :
    search r done.getLast? states cs = true ↔
      (∃ s ∈ [r] :: states, ∃ w post, cs = w ++ post ∧ SeqMatches done w post s) ∨
        ∃ x w post, x ≠ [] ∧ cs = x ++ w ++ post ∧ Matches (done ++ x) w post r := by
  induction cs generalizing done states with
  | nil =>
    simp only [search, List.any_eq_true]
    constructor
    · rintro ⟨s, hs, hacc⟩
      exact .inl ⟨s, hs, [], [], rfl, (accepts_iff _ _ s rfl rfl).1 hacc⟩
    · rintro (⟨s, hs, w, post, hcs, hm⟩ | ⟨x, w, post, hx, hcs, -⟩)
      · obtain ⟨rfl, rfl⟩ := List.append_eq_nil_iff.1 hcs.symm
        exact ⟨s, hs, (accepts_iff _ _ s rfl rfl).2 hm⟩
      · exact absurd (List.append_eq_nil_iff.1 (List.append_eq_nil_iff.1 hcs.symm).1).1 hx
  | cons c rest ih =>
    -- after the character the live states are stepped, and the pattern starts afresh
    have ih' := ih (done ++ [c]) (stepAll done.getLast? c ([r] :: states))
    rw [show (done ++ [c]).getLast? = some c by simp] at ih'
    simp only [search, Bool.or_eq_true, List.any_eq_true, ih']
    constructor
    · rintro (⟨s, hs, hacc⟩ | ⟨s', hs', w, post, hrest, hm⟩ | ⟨x, w, post, hx, hrest, hm⟩)
      · exact .inl ⟨s, hs, [], c :: rest, rfl, (accepts_iff _ _ s rfl rfl).1 hacc⟩
      · rcases List.mem_cons.1 hs' with rfl | hstep
        · exact .inr ⟨[c], w, post, by simp, by simp [hrest], SeqMatches.singleton_iff.1 hm⟩
        · obtain ⟨s, hs, hs'⟩ := mem_stepAll.1 hstep
          exact .inl ⟨s, hs, c :: w, post, by simp [hrest], step_sound _ c s rfl hs' hm⟩
      · exact .inr ⟨c :: x, w, post, by simp, by simp [hrest], by simpa using hm⟩
    · rintro (⟨s, hs, w, post, hcs, hm⟩ | ⟨x, w, post, hx, hcs, hm⟩)
      · cases w with
        | nil => exact .inl ⟨s, hs, (accepts_iff _ _ s rfl (by rw [← List.nil_append post, ← hcs]; rfl)).2 hm⟩
        | cons c' w =>
          obtain ⟨rfl, rfl⟩ := List.cons.inj hcs
          obtain ⟨s', hs', hm'⟩ := step_complete _ c s rfl hm
          exact .inr (.inl ⟨s', List.mem_cons_of_mem _ (mem_stepAll.2 ⟨s, hs, hs'⟩), w, post,
            rfl, hm'⟩)
      · obtain ⟨c', x', rfl⟩ := List.exists_cons_of_ne_nil hx
        simp only [List.cons_append, List.cons.injEq] at hcs
        obtain ⟨rfl, rfl⟩ := hcs
        by_cases hx' : x' = []
        · subst hx'
          exact .inr (.inl ⟨[r], List.mem_cons_self, w, post, by simp,
            SeqMatches.singleton_iff.2 (by simpa using hm)⟩)
        · exact .inr (.inr ⟨x', w, post, hx', rfl, by simpa using hm⟩)

/-- `isMatch` finds exactly the substrings of the text that the pattern matches, each with
    what stands before and after it. -/
theorem Node.isMatch_iff (r : Node) (text : String) :
    r.isMatch text = true ↔
      ∃ pre w post, text.toList = pre ++ w ++ post ∧ Matches pre w post r := by
  rw [Node.isMatch, show (none : Option Char) = ([] : List Char).getLast? from rfl, search_iff]
  constructor
  · rintro (⟨s, hs, w, post, htext, hm⟩ | ⟨x, w, post, -, htext, hm⟩)
    · obtain rfl : s = [r] := by simpa using hs
      exact ⟨[], w, post, by simpa using htext, SeqMatches.singleton_iff.1 hm⟩
    · exact ⟨x, w, post, htext, by simpa using hm⟩
  · rintro ⟨pre, w, post, htext, hm⟩
    by_cases hpre : pre = []
    · subst hpre
      exact .inl ⟨[r], List.mem_singleton_self _, w, post, by simpa using htext,
        SeqMatches.singleton_iff.2 hm⟩
    · exact .inr ⟨pre, w, post, hpre, htext, by simpa using hm⟩

end Regex

end FilterQuery

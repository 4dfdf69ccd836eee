import FilterQuery.Query.Guard

/-!
# The marker search

`freeMarker?` tries the words over `a`–`z` by length, and the words of one length with an
odometer over the alphabet whose last digit turns fastest and carries into the one before it.
This module shows that from `a…a` the odometer turns through the `26 ^ n` words of `n`
letters once each, in alphabetical order, and then reports that it has gone round; so the
search of one length is the search of `markerWords n` from its start. The words of
`markerWords n` are all the words of `n` letters, in strictly increasing order, so the marker
is the first word absent from the text, shortest first and then alphabetically, and the
guard gives up exactly when every word up to the limit occurs, before it reads any quote.

## Key results
- `OdometerVisits.replicate_zero`: from `a…a` the odometer turns through `odometerStates n`
  and stops
- `searchOdometer_eq_find`: searching with the odometer is searching the words it visits
- `freeMarker?_eq_find`: the marker search as a search of `markerWords`
- `markerWords_pairwise`, `mem_markerWords_iff`: the words of one length, all of them, in
  alphabetical order
- `freeMarker?_eq_none_iff`, `IsFirstFreeMarker.of_freeMarker?`: the search fails when every
  word occurs, and otherwise finds the first free word
- `guard_marker_search`: what the guard's choice of marker comes to
-/

namespace FilterQuery.Text

theorem occursIn_iff_infix (w s : List Char) : occursIn w s = true ↔ w <:+: s := by
  induction s with
  | nil => simp [occursIn]
  | cons c rest ih => simp [occursIn, ih, List.infix_cons_iff]

end FilterQuery.Text

namespace FilterQuery.Query

/-! ## The odometer -/

/-- The digit vectors of `n` digits (listed last first), in the order the odometer turns
    through them from `a…a`: the last digit fastest. -/
def odometerStates : Nat → List (List (Fin 26))
  | 0 => [[]]
  | n + 1 => (odometerStates n).flatMap fun high => (List.finRange 26).map (· :: high)

/-- From `s` the odometer turns through the digit vectors of `L`, one after the other, and
    then reports that it has gone round. -/
inductive OdometerVisits : List (Fin 26) → List (List (Fin 26)) → Prop
  | last {s : List (Fin 26)} (h : advanceOdometer s = none) : OdometerVisits s [s]
  | next {s s' : List (Fin 26)} {L : List (List (Fin 26))} (h : advanceOdometer s = some s')
      (rest : OdometerVisits s' L) : OdometerVisits s (s :: L)

theorem advanceOdometer_cons_of_lt {d : Fin 26} (h : d.val + 1 < 26) (high : List (Fin 26)) :
    advanceOdometer (d :: high) = some (⟨d.val + 1, h⟩ :: high) := by
  simp [advanceOdometer, h]

/-- The last digit at `z` goes back to `a` and carries. -/
theorem advanceOdometer_cons_last (high : List (Fin 26)) :
    advanceOdometer (25 :: high) = (advanceOdometer high).map (0 :: ·) := by
  rw [advanceOdometer, dif_neg (by decide)]

/-- Within one value of the higher digits the last digit turns from `d` up to `z`; then the
    odometer carries and goes on as the higher digits do, or stops with them. -/
theorem OdometerVisits.block (high : List (Fin 26)) {M : List (List (Fin 26))}
    (hM : (advanceOdometer high = none ∧ M = []) ∨
      ∃ high', advanceOdometer high = some high' ∧ OdometerVisits (0 :: high') M) :
    ∀ d : Fin 26, OdometerVisits (d :: high) (((List.finRange 26).drop d).map (· :: high) ++ M) := by
  -- downwards from `z`: `k` more turns of the last digit are left in the block
  suffices ∀ k (d : Fin 26), d.val + k = 25 →
      OdometerVisits (d :: high) (((List.finRange 26).drop d).map (· :: high) ++ M) from
    fun d => this (25 - d.val) d (by omega)
  intro k
  induction k with
  | zero =>
    intro d hd
    obtain rfl : d = 25 := Fin.ext (show d.val = 25 by omega)
    have hdrop : (List.finRange 26).drop (25 : Fin 26) = [25] := by decide
    rw [hdrop, List.map_singleton, List.singleton_append]
    rcases hM with ⟨hnone, rfl⟩ | ⟨high', hsome, hrest⟩
    · exact .last (by rw [advanceOdometer_cons_last, hnone]; rfl)
    · exact .next (by rw [advanceOdometer_cons_last, hsome]; rfl) hrest
  | succ k ih =>
    intro d hd
    have hlt : d.val + 1 < 26 := by omega
    have hdrop : (List.finRange 26).drop d = d :: (List.finRange 26).drop (d.val + 1) := by
      rw [List.drop_eq_getElem_cons (by simp), List.getElem_finRange]
      rfl
    rw [hdrop, List.map_cons, List.cons_append]
    exact .next (advanceOdometer_cons_of_lt hlt high) (ih ⟨d.val + 1, hlt⟩ (by simp; omega))

/-- While the higher digits turn through `L`, all the digits turn through every vector with
    the higher digits of `L`, the last digit fastest. -/
theorem OdometerVisits.extend {s : List (Fin 26)} {L : List (List (Fin 26))}
    (h : OdometerVisits s L) :
    OdometerVisits (0 :: s) (L.flatMap fun high => (List.finRange 26).map (· :: high)) := by
  induction h with
  | last hnone =>
    simpa using OdometerVisits.block _ (.inl ⟨hnone, rfl⟩) 0
  | next hsome _ ih =>
    simpa using OdometerVisits.block _ (.inr ⟨_, hsome, ih⟩) 0

/-- From `a…a` the odometer turns through `odometerStates n` and stops. -/
theorem OdometerVisits.replicate_zero (n : Nat) :
    OdometerVisits (List.replicate n 0) (odometerStates n) := by
  induction n with
  | zero => exact .last rfl
  | succ n ih => exact ih.extend

theorem length_odometerStates (n : Nat) : (odometerStates n).length = Nat.pow 26 n := by
  induction n with
  | zero => rfl
  | succ n ih =>
    have hblocks : ∀ L : List (List (Fin 26)),
        (L.flatMap fun high => (List.finRange 26).map (· :: high)).length = L.length * 26 := by
      intro L
      induction L with
      | nil => rfl
      | cons high L ihL =>
        simp only [List.flatMap_cons, List.length_append, List.length_map, List.length_finRange,
          ihL, List.length_cons]
        omega
    rw [odometerStates, hblocks, ih]
    rfl

/-- Searching with the odometer from `s` is searching, in order, the words it turns through,
    given a turn for each of them. -/
theorem searchOdometer_eq_find (text : List Char) {s : List (Fin 26)}
    {L : List (List (Fin 26))} (h : OdometerVisits s L) {fuel : Nat} (hfuel : L.length ≤ fuel) :
    searchOdometer text fuel s = (L.map odometerWord).find? fun w => !Text.occursIn w text := by
  induction h generalizing fuel with
  | @last s hnone =>
    obtain ⟨fuel, rfl⟩ : ∃ f, fuel = f + 1 := ⟨fuel - 1, by simp at hfuel; omega⟩
    cases hocc : Text.occursIn (odometerWord s) text <;> simp [searchOdometer, hocc, hnone]
  | @next s s' L hsome _ ih =>
    obtain ⟨fuel, rfl⟩ : ∃ f, fuel = f + 1 := ⟨fuel - 1, by simp at hfuel; omega⟩
    have hrest : L.length ≤ fuel := by simp at hfuel; omega
    cases hocc : Text.occursIn (odometerWord s) text <;>
      simp [searchOdometer, hocc, hsome, ih hrest]

/-! ## The words of one length -/

theorem markerAlphabet_eq : markerAlphabet = (List.finRange 26).map markerLetter := by decide

theorem odometerWord_cons (d : Fin 26) (high : List (Fin 26)) :
    odometerWord (d :: high) = odometerWord high ++ [markerLetter d] := by
  simp [odometerWord]

/-- The words of `n + 1` letters are also the words of `n` letters, each followed by every
    letter in turn. -/
theorem markerWords_succ (n : Nat) :
    markerWords (n + 1) = (markerWords n).flatMap fun w => markerAlphabet.map (w ++ [·]) := by
  induction n with
  | zero => simp [markerWords, List.map_eq_flatMap]
  | succ n ih =>
    -- the first letter outermost, the last letter innermost: both orders of the loops agree
    calc markerWords (n + 2)
        = markerAlphabet.flatMap fun c =>
            ((markerWords n).flatMap fun w => markerAlphabet.map (w ++ [·])).map (c :: ·) := by
          rw [← ih]
          rfl
      _ = (markerAlphabet.flatMap fun c => (markerWords n).map (c :: ·)).flatMap
            fun w => markerAlphabet.map (w ++ [·]) := by
          simp only [List.map_flatMap, List.map_map, List.flatMap_assoc, List.flatMap_map]
          rfl
      _ = (markerWords (n + 1)).flatMap fun w => markerAlphabet.map (w ++ [·]) := rfl

/-- The odometer spells the words of `n` letters in the order of `markerWords n`. -/
theorem map_odometerWord_odometerStates (n : Nat) :
    (odometerStates n).map odometerWord = markerWords n := by
  induction n with
  | zero => rfl
  | succ n ih =>
    rw [markerWords_succ, ← ih, odometerStates, List.map_flatMap, List.flatMap_map,
      markerAlphabet_eq]
    simp only [List.map_map]
    congr 1
    funext high
    congr 1
    funext d
    exact odometerWord_cons d high

/-- The marker search tries `markerWords 1`, then `markerWords 2`, and so on up to the
    limit, each from its start. -/
theorem freeMarker?_eq_find (text : List Char) (maxLen : Nat) :
    freeMarker? text maxLen = (List.range maxLen).findSome? fun k =>
      (markerWords (k + 1)).find? fun w => !Text.occursIn w text := by
  unfold freeMarker?
  congr 1
  funext k
  rw [searchOdometer_eq_find text (OdometerVisits.replicate_zero (k + 1))
    (Nat.le_of_eq (length_odometerStates (k + 1))), map_odometerWord_odometerStates]

theorem mem_markerWords_iff {n : Nat} {w : List Char} :
    w ∈ markerWords n ↔ w.length = n ∧ ∀ c ∈ w, c ∈ markerAlphabet := by
  induction n generalizing w with
  | zero => cases w <;> simp [markerWords]
  | succ n ih =>
    simp only [markerWords, List.mem_flatMap, List.mem_map]
    constructor
    · rintro ⟨c, hc, u, hu, rfl⟩
      obtain ⟨hlen, hletters⟩ := ih.1 hu
      refine ⟨by simp [hlen], fun d hd => ?_⟩
      rcases List.mem_cons.1 hd with rfl | hd
      · exact hc
      · exact hletters d hd
    · rintro ⟨hlen, hletters⟩
      cases w with
      | nil => simp at hlen
      | cons c u =>
        refine ⟨c, hletters c List.mem_cons_self, u, ih.2 ⟨by simpa using hlen, ?_⟩, rfl⟩
        exact fun d hd => hletters d (List.mem_cons_of_mem c hd)

theorem markerAlphabet_pairwise : markerAlphabet.Pairwise (· < ·) := by decide

/-- The words of one length are in strictly increasing alphabetical order. -/
theorem markerWords_pairwise (n : Nat) : (markerWords n).Pairwise (· < ·) := by
  induction n with
  | zero => simp [markerWords]
  | succ n ih =>
    rw [markerWords, List.pairwise_flatMap]
    constructor
    · -- one first letter: the order of the rest
      intro c _
      rw [List.pairwise_map]
      exact ih.imp fun h => List.cons_lt_cons_iff.2 (.inr ⟨rfl, h⟩)
    · -- two first letters: the order of the letters
      refine markerAlphabet_pairwise.imp fun hcd => ?_
      intro x hx y hy
      obtain ⟨u, -, rfl⟩ := List.mem_map.1 hx
      obtain ⟨v, -, rfl⟩ := List.mem_map.1 hy
      exact List.cons_lt_cons_iff.2 (.inl hcd)

/-! ## The first free word -/

/-- `m` is the marker the guard looks for: a word of one to `maxLen` letters over `a`–`z`
    that does not occur in the text, such that every shorter word, and every word of its
    length that comes before it alphabetically, does. -/
structure IsFirstFreeMarker (text : List Char) (maxLen : Nat) (m : List Char) : Prop where
  letters : ∀ c ∈ m, c ∈ markerAlphabet
  length_pos : 0 < m.length
  length_le : m.length ≤ maxLen
  free : ¬ m <:+: text
  first : ∀ w : List Char, (∀ c ∈ w, c ∈ markerAlphabet) → 0 < w.length →
    w.length < m.length ∨ (w.length = m.length ∧ w < m) → w <:+: text

/-- The search of one length finds a free word that every word before it misses. -/
theorem find?_markerWords_eq_some {text m : List Char} {n : Nat}
    (h : (markerWords n).find? (fun w => !Text.occursIn w text) = some m) :
    m ∈ markerWords n ∧ ¬ m <:+: text ∧ ∀ w ∈ markerWords n, w < m → w <:+: text := by
  obtain ⟨hfree, before, after, hsplit, hbefore⟩ := List.find?_eq_some_iff_append.1 h
  have hsorted := markerWords_pairwise n
  rw [hsplit, List.pairwise_append, List.pairwise_cons] at hsorted
  refine ⟨List.mem_of_find?_eq_some h, ?_, ?_⟩
  · rw [← Text.occursIn_iff_infix]
    simpa using hfree
  · intro w hw hlt
    rw [hsplit, List.mem_append, List.mem_cons] at hw
    rcases hw with hw | rfl | hw
    · rw [← Text.occursIn_iff_infix]
      simpa using hbefore w hw
    · exact absurd hlt (List.lt_irrefl _)
    · -- a word after `m` comes after it alphabetically
      exact absurd (hsorted.2.1.1 w hw) (List.lt_asymm hlt)

theorem find?_markerWords_eq_none {text : List Char} {n : Nat} :
    (markerWords n).find? (fun w => !Text.occursIn w text) = none ↔
      ∀ w ∈ markerWords n, w <:+: text := by
  simp [List.find?_eq_none, Text.occursIn_iff_infix]

/-- One more letter allowed: the words of the new length are tried after the shorter ones. -/
theorem freeMarker?_succ (text : List Char) (n : Nat) :
    freeMarker? text (n + 1) = (freeMarker? text n).or
      ((markerWords (n + 1)).find? fun w => !Text.occursIn w text) := by
  rw [freeMarker?_eq_find, freeMarker?_eq_find, List.range_succ, List.findSome?_append]
  simp

/-- The search fails exactly when every word of one to `maxLen` letters occurs in the text. -/
theorem freeMarker?_eq_none_iff {text : List Char} {maxLen : Nat} :
    freeMarker? text maxLen = none ↔
      ∀ w : List Char, (∀ c ∈ w, c ∈ markerAlphabet) → 0 < w.length → w.length ≤ maxLen →
        w <:+: text := by
  induction maxLen with
  | zero =>
    simp only [freeMarker?_eq_find, List.range_zero, List.findSome?_nil, true_iff]
    intro w _ hpos hle
    omega
  | succ n ih =>
    rw [freeMarker?_succ, Option.or_eq_none_iff, ih, find?_markerWords_eq_none]
    constructor
    · rintro ⟨hshort, hlong⟩ w hw hpos hle
      rcases Nat.lt_or_eq_of_le hle with hlt | heq
      · exact hshort w hw hpos (by omega)
      · exact hlong w (mem_markerWords_iff.2 ⟨heq, hw⟩)
    · intro hall
      refine ⟨fun w hw hpos hle => hall w hw hpos (by omega), fun w hw => ?_⟩
      obtain ⟨hlen, hletters⟩ := mem_markerWords_iff.1 hw
      exact hall w hletters (by omega) (by omega)

/-- The word the search finds is the first free word. -/
theorem IsFirstFreeMarker.of_freeMarker? {text m : List Char} {maxLen : Nat}
    (h : freeMarker? text maxLen = some m) : IsFirstFreeMarker text maxLen m := by
  induction maxLen with
  | zero => simp [freeMarker?_eq_find] at h
  | succ n ih =>
    rw [freeMarker?_succ] at h
    cases hshort : freeMarker? text n with
    | some m' =>
      -- found among the shorter words
      rw [hshort, Option.some_or, Option.some.injEq] at h
      subst h
      have hm := ih hshort
      exact { hm with length_le := by have := hm.length_le; omega }
    | none =>
      -- every shorter word occurs; the first free word of `n + 1` letters
      rw [hshort, Option.none_or] at h
      obtain ⟨hmem, hfree, hbefore⟩ := find?_markerWords_eq_some h
      obtain ⟨hlen, hletters⟩ := mem_markerWords_iff.1 hmem
      have hshorter := freeMarker?_eq_none_iff.1 hshort
      refine ⟨hletters, by omega, by omega, hfree, ?_⟩
      rintro w hw hpos (hlt | ⟨heq, hlt⟩)
      · exact hshorter w hw hpos (by omega)
      · exact hbefore w (mem_markerWords_iff.2 ⟨by omega, hw⟩) hlt

/-! ## The guard's marker -/

/-- The scan of the spans fails only at a span that is not closed. -/
theorem scanSpans_ne_exhausted (quotes marker : List Char) (n : Nat) :
    ∀ (cs : List Char) (st : ScanState) (out : List Char) (origs : List (List Char)),
      scanSpans quotes marker cs st out origs ≠ .error (.placeholderExhausted n) := by
  intro cs
  induction cs with
  | nil => intro st out origs; cases st <;> simp [scanSpans, QueryError.at_]
  | cons c rest ih =>
    intro st out origs
    cases st with
    | outside => simp only [scanSpans]; split <;> apply ih
    | inside q spanRev escaped =>
      simp only [scanSpans]
      split
      · apply ih
      · split
        · apply ih
        · split <;> apply ih

/-- A text with a quote: the guard gives up exactly when the marker search fails, and
    otherwise its marker is the one found. -/
theorem guard_of_quote {text quotes : List Char} (hq : ∃ c ∈ text, c ∈ quotes) (maxLen : Nat) :
    (guard text quotes maxLen = .error (.placeholderExhausted maxLen) ↔
        freeMarker? text maxLen = none) ∧
      ∀ g, guard text quotes maxLen = .ok g → freeMarker? text maxLen = some g.marker := by
  have hany : text.any (· ∈ quotes) = true := by simpa using hq
  unfold guard
  rw [hany, Bool.not_true, if_neg Bool.false_ne_true]
  cases hfree : freeMarker? text maxLen with
  | none => simp
  | some m =>
    refine ⟨?_, fun g hg => ?_⟩
    · simp only [reduceCtorEq, iff_false]
      intro herr
      cases hscan : scanSpans quotes m text .outside [] [] with
      | error e =>
        simp only [hscan, bind, Except.bind, Except.error.injEq] at herr
        exact scanSpans_ne_exhausted quotes m maxLen text .outside [] [] (herr ▸ hscan)
      | ok r => simp [hscan, bind, Except.bind, pure, Except.pure] at herr
    · cases hscan : scanSpans quotes m text .outside [] [] with
      | error e => simp [hscan, bind, Except.bind] at hg
      | ok r =>
        simp only [hscan, bind, Except.bind, pure, Except.pure, Except.ok.injEq] at hg
        rw [← hg]

/-- How the guard picks its marker, for a text with a quote: it gives up exactly when every
    word of one to `maxLen` letters over `a`–`z` occurs in the text, whatever the spans
    (an unclosed one included); otherwise its marker is the first word that does not occur,
    shortest first and then alphabetically. Each length is searched with the odometer, which
    from `a…a` turns through the `26 ^ n` words of `n` letters, spelling each once and in
    strictly increasing alphabetical order, and then stops. -/
theorem guard_marker_search (text quotes : List Char) (maxLen : Nat)
    (hq : ∃ c ∈ text, c ∈ quotes) :
    (guard text quotes maxLen = .error (.placeholderExhausted maxLen) ↔
        ∀ w : List Char, (∀ c ∈ w, c ∈ markerAlphabet) → 0 < w.length → w.length ≤ maxLen →
          w <:+: text) ∧
      (∀ g, guard text quotes maxLen = .ok g → IsFirstFreeMarker text maxLen g.marker) ∧
      ∀ n, OdometerVisits (List.replicate n 0) (odometerStates n) ∧
        (odometerStates n).length = Nat.pow 26 n ∧
        ((odometerStates n).map odometerWord).Pairwise (· < ·) ∧
        ∀ w, w ∈ (odometerStates n).map odometerWord ↔
          w.length = n ∧ ∀ c ∈ w, c ∈ markerAlphabet := by
  obtain ⟨hexhausted, hmarker⟩ := guard_of_quote hq maxLen
  refine ⟨hexhausted.trans freeMarker?_eq_none_iff,
    fun g hg => IsFirstFreeMarker.of_freeMarker? (hmarker g hg), fun n => ?_⟩
  rw [map_odometerWord_odometerStates]
  exact ⟨OdometerVisits.replicate_zero n, length_odometerStates n, markerWords_pairwise n,
    fun w => mem_markerWords_iff⟩

/-- The guard's marker search for `a = 'b'` with the usual quotes and four letters at most. -/
theorem guard_marker_search_quoted_letter :
    (∃ c ∈ "a = 'b'".toList, c ∈ ['\'', '"', '`']) ∧
      ((guard "a = 'b'".toList ['\'', '"', '`'] 4 = .error (.placeholderExhausted 4) ↔
          ∀ w : List Char, (∀ c ∈ w, c ∈ markerAlphabet) → 0 < w.length → w.length ≤ 4 →
            w <:+: "a = 'b'".toList) ∧
        (∀ g, guard "a = 'b'".toList ['\'', '"', '`'] 4 = .ok g →
          IsFirstFreeMarker "a = 'b'".toList 4 g.marker) ∧
        ∀ n, OdometerVisits (List.replicate n 0) (odometerStates n) ∧
          (odometerStates n).length = Nat.pow 26 n ∧
          ((odometerStates n).map odometerWord).Pairwise (· < ·) ∧
          ∀ w, w ∈ (odometerStates n).map odometerWord ↔
            w.length = n ∧ ∀ c ∈ w, c ∈ markerAlphabet) := by
  have hq : ∃ c ∈ "a = 'b'".toList, c ∈ ['\'', '"', '`'] := ⟨'\'', by decide, by decide⟩
  exact ⟨hq, guard_marker_search _ _ _ hq⟩

end FilterQuery.Query

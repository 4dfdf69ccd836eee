import FilterQuery.Text.Basic

/-!
# Texts up to the white space between their words

`Text.squash` writes every run of white space of a text as a single space. Two texts with the
same squash differ only in how much white space, and which, stands between their other
characters; replacing one run of white space by any other non-empty one keeps the squash
(`squash_respace`).

The squash is computed left to right by `squashFrom`, which knows whether the text before
ended in white space. Written this way the squash of a join is the squash of its two halves,
joined by the state the first half ends in (`squashFrom_append`); that state can be read off
the first half's squash, so texts with the same squash can be joined (`squash_append_congr`),
and reversing a text reverses its squash (`squash_reverse`).

The reader of a filter looks at white space in a handful of ways: it skips it, stops a word
at it, trims it from both ends, asks whether a text is blank, and compares a word of letters
that has none with a keyword. Each of these sees the same thing in two texts with the same
squash, and this module proves it once for all of them: how squash-equal texts start
(`squash_eq_squash_cons`, `squash_eq_squash_cons_ws`), what a scan for characters other than
white space takes from them (`takeWhile_eq_of_squash_eq`), and that trimming, blank tests and
keyword tests keep the relation.

## Key results
- `squash_append_congr`: texts with the same squash joined to texts with the same squash
- `squash_respace`: replacing a run of white space by another keeps the squash
- `squash_eq_squash_cons`, `squash_eq_squash_cons_ws`: how squash-equal texts start
- `takeWhile_eq_of_squash_eq`: scans for characters that are no white space
- `squash_trim`, `isBlank_congr`, `isWord_congr`: trimming, blank tests and keyword tests
-/

namespace FilterQuery.Text

/-- The text with every run of white space written as one space. `inRun` says whether the
    text before ended in white space, for which a space is already written. -/
def squashFrom : Bool → List Char → List Char
  | _, [] => []
  | inRun, c :: rest =>
    if isWhiteSpace c then
      if inRun then squashFrom true rest else ' ' :: squashFrom true rest
    else c :: squashFrom false rest

/-- The text with every run of white space written as one space. -/
def squash (s : List Char) : List Char := squashFrom false s

-- Tabs and no-break spaces between words count as one space.
example : squash "a \t b ".toList = "a b ".toList := by decide

@[simp] theorem squashFrom_nil (b : Bool) : squashFrom b [] = [] := rfl

@[simp] theorem squash_nil : squash [] = [] := rfl

theorem squashFrom_cons_of_not_ws {c : Char} (hc : isWhiteSpace c = false) (b : Bool)
    (s : List Char) : squashFrom b (c :: s) = c :: squash s := by
  simp [squashFrom, hc, squash]

theorem squash_cons_of_not_ws {c : Char} (hc : isWhiteSpace c = false) (s : List Char) :
    squash (c :: s) = c :: squash s :=
  squashFrom_cons_of_not_ws hc false s

/-- Inside a run of white space the rest of the run writes nothing. -/
theorem squashFrom_true (s : List Char) : squashFrom true s = squash (s.dropWhile isWhiteSpace) := by
  induction s with
  | nil => rfl
  | cons c rest ih =>
    cases hc : isWhiteSpace c
    · rw [squashFrom_cons_of_not_ws hc, List.dropWhile_cons_of_neg (by simp [hc]),
        squash_cons_of_not_ws hc]
    · rw [List.dropWhile_cons_of_pos (by simp [hc]), ← ih]
      simp [squashFrom, hc]

theorem squash_cons_of_ws {c : Char} (hc : isWhiteSpace c = true) (s : List Char) :
    squash (c :: s) = ' ' :: squash (s.dropWhile isWhiteSpace) := by
  simp [squash, squashFrom, hc, squashFrom_true]

/-- The first character of a squash: the text's own, or a space for white space. -/
theorem head?_squash (s : List Char) :
    (squash s).head? = s.head?.map fun c => if isWhiteSpace c then ' ' else c := by
  cases s with
  | nil => rfl
  | cons c rest =>
    cases hc : isWhiteSpace c
    · simp [squash_cons_of_not_ws hc, hc]
    · simp [squash_cons_of_ws hc, hc]

@[simp] theorem squash_eq_nil_iff {s : List Char} : squash s = [] ↔ s = [] := by
  constructor
  · intro h
    have := head?_squash s
    rw [h] at this
    cases s with
    | nil => rfl
    | cons c rest => simp at this
  · rintro rfl
    rfl

theorem isWhiteSpace_space : isWhiteSpace ' ' = true := by decide

/-- What is left after leading white space squashes to a text without leading white space. -/
theorem dropWhile_squash_dropWhile (s : List Char) :
    (squash (s.dropWhile isWhiteSpace)).dropWhile isWhiteSpace =
      squash (s.dropWhile isWhiteSpace) := by
  have hhead := List.head?_dropWhile_not isWhiteSpace s
  cases h : s.dropWhile isWhiteSpace with
  | nil => rfl
  | cons d r =>
    have hd : isWhiteSpace d = false := by simpa [h] using hhead
    rw [squash_cons_of_not_ws hd, List.dropWhile_cons_of_neg (by simp [hd])]

/-- Dropping leading white space and squashing can be done in either order. -/
theorem squash_dropWhile (s : List Char) :
    squash (s.dropWhile isWhiteSpace) = (squash s).dropWhile isWhiteSpace := by
  cases s with
  | nil => rfl
  | cons c rest =>
    cases hc : isWhiteSpace c
    · rw [List.dropWhile_cons_of_neg (by simp [hc]), squash_cons_of_not_ws hc,
        List.dropWhile_cons_of_neg (by simp [hc])]
    · rw [List.dropWhile_cons_of_pos (by simp [hc]), squash_cons_of_ws hc,
        List.dropWhile_cons_of_pos (by simp [isWhiteSpace_space]), dropWhile_squash_dropWhile]

/-- A run of white space in front of a text is written as one space. -/
theorem squash_ws_append {w : List Char} (hw : w ≠ []) (hws : ∀ c ∈ w, isWhiteSpace c = true)
    (s : List Char) : squash (w ++ s) = ' ' :: squash (s.dropWhile isWhiteSpace) := by
  obtain ⟨c, w', rfl⟩ := List.exists_cons_of_ne_nil hw
  rw [List.cons_append, squash_cons_of_ws (hws c List.mem_cons_self),
    List.dropWhile_append_of_pos fun d hd => hws d (List.mem_cons_of_mem c hd)]

/-! ## Joining, reversing and trimming -/

/-- The squash of a join: the second part is squashed from the state the first ends in. -/
theorem squashFrom_append (u v : List Char) (b : Bool) :
    squashFrom b (u ++ v) = squashFrom b u ++ squashFrom (u.foldl (fun _ c => isWhiteSpace c) b) v := by
  induction u generalizing b with
  | nil => rfl
  | cons c u ih =>
    cases hc : isWhiteSpace c
    · simp [squashFrom, hc, ih]
    · cases b <;> simp [squashFrom, hc, ih]

/-- The state after a text: whether its last character is white space. -/
theorem foldl_isWhiteSpace (u : List Char) (b : Bool) :
    u.foldl (fun _ c => isWhiteSpace c) b = (u.getLast?.map isWhiteSpace).getD b := by
  induction u generalizing b with
  | nil => rfl
  | cons c u ih =>
    rw [List.foldl_cons, ih, List.getLast?_cons]
    cases u.getLast? <;> rfl

/-- Reversing a text reverses its squash. -/
theorem squash_reverse (s : List Char) : squash s.reverse = (squash s).reverse := by
  induction s with
  | nil => rfl
  | cons c t ih =>
    -- the state after the reversed tail is whether the tail starts with white space
    have hstate : t.reverse.foldl (fun _ c => isWhiteSpace c) false =
        (t.head?.map isWhiteSpace).getD false := by
      rw [foldl_isWhiteSpace, List.getLast?_reverse]
    rw [List.reverse_cons, squash, squashFrom_append, ← squash, ih, hstate]
    cases hc : isWhiteSpace c
    · simp [squashFrom, hc, squash_cons_of_not_ws hc]
    · rw [squash_cons_of_ws hc, ← squashFrom_true]
      cases t with
      | nil => simp [squashFrom, hc]
      | cons d t' =>
        cases hd : isWhiteSpace d
        · simp [squashFrom, hc, hd, squash]
        · simp [squashFrom, hc, hd, squash, squashFrom_true]

/-- A text ends in white space exactly when its squash does. -/
theorem map_getLast?_squash (s : List Char) :
    (squash s).getLast?.map isWhiteSpace = s.getLast?.map isWhiteSpace := by
  rw [← List.head?_reverse, ← squash_reverse, head?_squash, List.head?_reverse, Option.map_map]
  cases s.getLast? with
  | none => rfl
  | some c =>
    cases hc : isWhiteSpace c
    · simp [hc]
    · simp [hc, isWhiteSpace_space]

theorem squashFrom_congr (b : Bool) {v₁ v₂ : List Char} (h : squash v₁ = squash v₂) :
    squashFrom b v₁ = squashFrom b v₂ := by
  cases b
  · exact h
  · rw [squashFrom_true, squashFrom_true, squash_dropWhile, squash_dropWhile, h]

/-- Texts with the same squash, joined to texts with the same squash, have the same squash:
    whether a space is merged at the seam depends only on the squashes. -/
theorem squash_append_congr {u₁ u₂ v₁ v₂ : List Char} (hu : squash u₁ = squash u₂)
    (hv : squash v₁ = squash v₂) : squash (u₁ ++ v₁) = squash (u₂ ++ v₂) := by
  have hstate : u₁.foldl (fun _ c => isWhiteSpace c) false =
      u₂.foldl (fun _ c => isWhiteSpace c) false := by
    rw [foldl_isWhiteSpace, foldl_isWhiteSpace, ← map_getLast?_squash, ← map_getLast?_squash u₂, hu]
  show squashFrom false (u₁ ++ v₁) = squashFrom false (u₂ ++ v₂)
  rw [squashFrom_append, squashFrom_append, hstate, squashFrom_congr _ hv]
  exact congrArg (· ++ _) hu

theorem squash_cons_congr (c : Char) {a b : List Char} (h : squash a = squash b) :
    squash (c :: a) = squash (c :: b) :=
  squash_append_congr (show squash [c] = squash [c] from rfl) h

/-- A non-empty run of white space squashes to one space. -/
theorem squash_run {w : List Char} (hw : w ≠ []) (hws : ∀ c ∈ w, isWhiteSpace c = true) :
    squash w = [' '] := by
  simpa using squash_ws_append hw hws []

/-- Replacing a run of white space by another non-empty one keeps the squash. -/
theorem squash_respace (pre : List Char) {w w' : List Char} (hw : w ≠ []) (hw' : w' ≠ [])
    (hws : ∀ c ∈ w, isWhiteSpace c = true) (hws' : ∀ c ∈ w', isWhiteSpace c = true)
    (post : List Char) : squash (pre ++ w ++ post) = squash (pre ++ w' ++ post) := by
  have hrun : squash w = squash w' := by rw [squash_run hw hws, squash_run hw' hws']
  exact squash_append_congr (squash_append_congr rfl hrun) rfl

/-- A text that starts with white space is a non-empty run followed by a text that does not. -/
theorem exists_run_of_ws {c : Char} (hc : isWhiteSpace c = true) (a : List Char) :
    ∃ w, w ≠ [] ∧ (∀ d ∈ w, isWhiteSpace d = true) ∧ c :: a = w ++ a.dropWhile isWhiteSpace := by
  refine ⟨c :: a.takeWhile isWhiteSpace, List.cons_ne_nil _ _, ?_, ?_⟩
  · intro d hd
    rcases List.mem_cons.1 hd with rfl | hd
    · exact hc
    · exact List.all_eq_true.1 List.all_takeWhile d hd
  · rw [List.cons_append, List.takeWhile_append_dropWhile]

/-- Trimming and squashing can be done in either order. -/
theorem squash_trim (s : List Char) : squash (trim s) = trim (squash s) := by
  simp only [trim, squash_reverse, squash_dropWhile]

theorem squash_trim_congr {a b : List Char} (h : squash a = squash b) :
    squash (trim a) = squash (trim b) := by
  rw [squash_trim, squash_trim, h]

theorem squash_reverse_congr {a b : List Char} (h : squash a = squash b) :
    squash a.reverse = squash b.reverse := by
  rw [squash_reverse, squash_reverse, h]

/-! ## How squash-equal texts start -/

/-- A text whose squash is that of a text starting with a character that is no white space
    starts with the same character. -/
theorem squash_eq_squash_cons {c : Char} (hc : isWhiteSpace c = false) {a y : List Char}
    (h : squash (c :: a) = squash y) : ∃ b, y = c :: b ∧ squash a = squash b := by
  cases y with
  | nil => simp [squash_cons_of_not_ws hc] at h
  | cons d b =>
    cases hd : isWhiteSpace d
    · rw [squash_cons_of_not_ws hc, squash_cons_of_not_ws hd, List.cons.injEq] at h
      obtain ⟨rfl, h⟩ := h
      exact ⟨b, rfl, h⟩
    · rw [squash_cons_of_not_ws hc, squash_cons_of_ws hd, List.cons.injEq] at h
      obtain ⟨rfl, -⟩ := h
      simp [isWhiteSpace_space] at hc

/-- A text whose squash is that of a text starting with white space starts with white space,
    and the two agree after their leading runs. -/
theorem squash_eq_squash_cons_ws {c : Char} (hc : isWhiteSpace c = true) {a y : List Char}
    (h : squash (c :: a) = squash y) :
    ∃ d b, y = d :: b ∧ isWhiteSpace d = true ∧
      squash (a.dropWhile isWhiteSpace) = squash (b.dropWhile isWhiteSpace) := by
  cases y with
  | nil => simp [squash_cons_of_ws hc] at h
  | cons d b =>
    cases hd : isWhiteSpace d
    · rw [squash_cons_of_ws hc, squash_cons_of_not_ws hd, List.cons.injEq] at h
      obtain ⟨rfl, -⟩ := h
      simp [isWhiteSpace_space] at hd
    · rw [squash_cons_of_ws hc, squash_cons_of_ws hd, List.cons.injEq] at h
      exact ⟨d, b, rfl, hd, h.2⟩

theorem eq_nil_of_squash_eq {y : List Char} (h : squash [] = squash y) : y = [] :=
  squash_eq_nil_iff.1 h.symm

theorem isEmpty_congr {a b : List Char} (h : squash a = squash b) : a.isEmpty = b.isEmpty := by
  cases a with
  | nil => rw [eq_nil_of_squash_eq h]
  | cons c a =>
    cases b with
    | nil => exact absurd (eq_nil_of_squash_eq h.symm) (List.cons_ne_nil _ _)
    | cons d b => rfl

/-- Texts with the same squash start with the same character that is no white space. -/
theorem head?_eq_some_of_squash_eq {c : Char} (hc : isWhiteSpace c = false) {a b : List Char}
    (h : squash a = squash b) (ha : a.head? = some c) : b.head? = some c := by
  obtain ⟨a', rfl⟩ := List.head?_eq_some_iff.1 ha
  obtain ⟨b', rfl, -⟩ := squash_eq_squash_cons hc h
  rfl

/-- ... and agree after it. -/
theorem squash_tail_eq {c : Char} (hc : isWhiteSpace c = false) {a b : List Char}
    (h : squash a = squash b) (ha : a.head? = some c) : squash a.tail = squash b.tail := by
  obtain ⟨a', rfl⟩ := List.head?_eq_some_iff.1 ha
  obtain ⟨b', rfl, h'⟩ := squash_eq_squash_cons hc h
  exact h'

/-- A scan for characters that are never white space takes the same characters from texts
    with the same squash, and leaves rests with the same squash. -/
theorem takeWhile_eq_of_squash_eq {p : Char → Bool} (hp : ∀ c, p c = true → isWhiteSpace c = false) :
    ∀ {a b : List Char}, squash a = squash b →
      a.takeWhile p = b.takeWhile p ∧ squash (a.dropWhile p) = squash (b.dropWhile p)
  | [], b, h => by
    rw [eq_nil_of_squash_eq h]
    exact ⟨rfl, rfl⟩
  | c :: a, b, h => by
    cases hc : isWhiteSpace c
    · obtain ⟨b, rfl, hab⟩ := squash_eq_squash_cons hc h
      cases hpc : p c
      · simp [hpc, squash_cons_congr c hab]
      · obtain ⟨htake, hdrop⟩ := takeWhile_eq_of_squash_eq hp hab
        simp [hpc, htake, hdrop]
    · -- white space stops the scan at once in both
      obtain ⟨d, b, rfl, hd, -⟩ := squash_eq_squash_cons_ws hc h
      have hpc : p c = false := by
        cases hpc : p c
        · rfl
        · simp [hp c hpc] at hc
      have hpd : p d = false := by
        cases hpd : p d
        · rfl
        · simp [hp d hpd] at hd
      simp [hpc, hpd, h]

/-! ## Blank texts and words -/

/-- A text is blank exactly when its squash is. -/
theorem all_squash (s : List Char) : (squash s).all isWhiteSpace = s.all isWhiteSpace := by
  induction s with
  | nil => rfl
  | cons c t ih =>
    cases hc : isWhiteSpace c
    · simp [squash_cons_of_not_ws hc, hc]
    · rw [squash_cons_of_ws hc, List.all_cons, List.all_cons, isWhiteSpace_space, hc,
        squash_dropWhile, Bool.true_and, Bool.true_and, ← ih]
      -- what the run drops is white space
      induction squash t with
      | nil => rfl
      | cons d r ihr =>
        cases hd : isWhiteSpace d
        · simp [hd]
        · simp [hd, ihr]

theorem isBlank_congr {a b : List Char} (h : squash a = squash b) : isBlank a = isBlank b := by
  rw [isBlank, isBlank, ← all_squash, h, all_squash]

/-- A text without white space is its own squash. -/
theorem squash_of_forall_not_ws {s : List Char} (h : ∀ c ∈ s, isWhiteSpace c = false) :
    squash s = s := by
  induction s with
  | nil => rfl
  | cons c t ih =>
    rw [squash_cons_of_not_ws (h c List.mem_cons_self), ih fun d hd => h d (List.mem_cons_of_mem _ hd)]

/-- A squash holds white space exactly where the text does. -/
theorem any_squash (s : List Char) : (squash s).any isWhiteSpace = s.any isWhiteSpace := by
  induction s with
  | nil => rfl
  | cons c t ih =>
    cases hc : isWhiteSpace c
    · simp [squash_cons_of_not_ws hc, hc, ih]
    · simp [squash_cons_of_ws hc, hc, isWhiteSpace_space]

/-- The only text with the squash of a text without white space is that text. -/
theorem eq_of_squash_eq_of_forall_not_ws {a b : List Char} (ha : ∀ c ∈ a, isWhiteSpace c = false)
    (h : squash a = squash b) : a = b := by
  rw [squash_of_forall_not_ws ha] at h
  have hb : ∀ c ∈ b, isWhiteSpace c = false := by
    have hany : b.any isWhiteSpace = false := by
      rw [← any_squash, ← h, List.any_eq_false]
      intro c hc
      simp [ha c hc]
    simpa using hany
  rw [h, squash_of_forall_not_ws hb]

/-- The printable ASCII characters are no white space. -/
theorem isWhiteSpace_eq_false_of_range {c : Char} (h₁ : 0x21 ≤ c.toNat) (h₂ : c.toNat ≤ 0x7E) :
    isWhiteSpace c = false := by
  simp only [isWhiteSpace, Bool.or_eq_false_iff, Bool.and_eq_false_imp, decide_eq_true_eq,
    decide_eq_false_iff_not, beq_eq_false_iff_ne, ne_eq]
  omega

theorem isWhiteSpace_of_isAlpha {c : Char} (h : c.isAlpha = true) : isWhiteSpace c = false := by
  delta Char.isAlpha Char.isUpper Char.isLower at h
  simp only [Bool.or_eq_true, Bool.and_eq_true, decide_eq_true_eq, ge_iff_le,
    UInt32.le_iff_toNat_le] at h
  simp at h
  apply isWhiteSpace_eq_false_of_range <;> omega

theorem toNat_ofNat_of_lt {n : Nat} (h : n < 0xD800) : (Char.ofNat n).toNat = n := by
  rw [Char.ofNat, dif_pos (Or.inl h)]
  rfl

/-- Lowering the case keeps white space, and makes none. -/
theorem isWhiteSpace_asciiLower (c : Char) : isWhiteSpace (asciiLower c) = isWhiteSpace c := by
  unfold asciiLower
  split
  · rename_i h
    obtain ⟨h₁, h₂⟩ := h
    simp only [Char.le_def, UInt32.le_iff_toNat_le] at h₁ h₂
    simp at h₁ h₂
    -- an upper-case letter and its lower-case one are both printable
    rw [isWhiteSpace_eq_false_of_range (c := c) (by omega) (by omega),
      isWhiteSpace_eq_false_of_range] <;> rw [toNat_ofNat_of_lt (by omega)] <;> omega
  · rfl

/-- A text that is a keyword without white space, in any ASCII case, has none either. -/
theorem not_ws_of_isWord {word : String} (hword : ∀ c ∈ word.toList, isWhiteSpace c = false)
    {s : List Char} (hs : isWord s word = true) : ∀ c ∈ s, isWhiteSpace c = false := by
  intro c hc
  have hmem : asciiLower c ∈ word.toList.map asciiLower := by
    simp only [isWord, eqIgnoreCase, beq_iff_eq] at hs
    rw [← hs]
    exact List.mem_map_of_mem hc
  obtain ⟨d, hd, hdc⟩ := List.mem_map.1 hmem
  rw [← isWhiteSpace_asciiLower, ← hdc, isWhiteSpace_asciiLower, hword d hd]

/-- Whether a text is a keyword without white space does not depend on the white space in
    it: a text that is such a keyword has none. -/
theorem isWord_congr {word : String} (hword : ∀ c ∈ word.toList, isWhiteSpace c = false)
    {a b : List Char} (h : squash a = squash b) : isWord a word = isWord b word := by
  have hnows : ∀ {s : List Char}, isWord s word = true → ∀ c ∈ s, isWhiteSpace c = false :=
    not_ws_of_isWord hword
  cases ha : isWord a word
  · cases hb : isWord b word
    · rfl
    · rw [eq_of_squash_eq_of_forall_not_ws (hnows hb) h.symm, ha] at hb
      exact hb
  · rw [← eq_of_squash_eq_of_forall_not_ws (hnows ha) h, ha]

end FilterQuery.Text

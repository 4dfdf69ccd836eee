import FilterQuery.Proofs.GuardRoundTrip
import FilterQuery.Query.Build

/-!
# Guarded texts as symbols

The stages after `guard` read a guarded text character by character, but what they see in it
is a list of *symbols*: plain characters of the input, and placeholders, each standing for one
quoted span. `expandSyms m a` is the text of the symbols `a` when placeholders are written
with the marker `m`, and the guarded text is the expansion of the symbols of the input's
reading (`guardedText_eq_expandSyms`).

A placeholder is made of letters `a`–`z` and decimal digits: never white space, a parenthesis,
a comma or an operator character. So a scan for a class of characters that holds of all of
them runs through a placeholder whole, and a scan for a class that no marker letter is in stops
in front of one. A word that is one placeholder and nothing else looks up its span; any other
word holding a placeholder touches the marker; a word without one does not, as long as the
marker does not occur among its characters (`MarkerFree`).

## Key results

- `guardedText_eq_expandSyms`: the guarded text is the expansion of the reading's symbols
- `takeWhile_expandSyms_of_all`, `takeWhile_expandSyms_of_head`: scans through a placeholder
  and scans that stop in front of one
- `trim_expandSyms`, `isBlank_expandSyms`, `isWord_expandSyms`: what the splitter asks
- `lookup?_expandSyms`, `touches_expandSyms`: what the clause reader asks of a word
-/

namespace FilterQuery.Query

/-- A symbol of a guarded text: a character of the input, or the placeholder of the quoted
    span with the given index. -/
inductive Sym where
  | char (c : Char)
  | slot (i : Nat)
  deriving DecidableEq, Repr

namespace Sym

/-- The text of a symbol when placeholders are written with the marker `m`. -/
def expand (m : List Char) : Sym → List Char
  | char c => [c]
  | slot i => placeholder m i

/-- A test on characters read on symbols, answering `onSlot` for a placeholder. -/
def lift (p : Char → Bool) (onSlot : Bool) : Sym → Bool
  | char c => p c
  | slot _ => onSlot

/-- Whether the symbol is a placeholder. -/
def isSlot : Sym → Bool
  | char _ => false
  | slot _ => true

/-- The last character of a symbol's text: a placeholder ends with the marker. -/
def last (m : List Char) : Sym → Char
  | char c => c
  | slot _ => m.getLastD 'a'

@[simp] theorem expand_char (m : List Char) (c : Char) : (char c).expand m = [c] := rfl
@[simp] theorem expand_slot (m : List Char) (i : Nat) : (slot i).expand m = placeholder m i := rfl
@[simp] theorem lift_char (p : Char → Bool) (b : Bool) (c : Char) : (char c).lift p b = p c := rfl
@[simp] theorem lift_slot (p : Char → Bool) (b : Bool) (i : Nat) : (slot i).lift p b = b := rfl
@[simp] theorem isSlot_char (c : Char) : (char c).isSlot = false := rfl
@[simp] theorem isSlot_slot (i : Nat) : (slot i).isSlot = true := rfl
@[simp] theorem last_char (m : List Char) (c : Char) : (char c).last m = c := rfl

end Sym

/-- The text of a list of symbols when placeholders are written with the marker `m`. -/
def expandSyms (m : List Char) (a : List Sym) : List Char := a.flatMap (Sym.expand m)

@[simp] theorem expandSyms_nil (m : List Char) : expandSyms m [] = [] := rfl

@[simp] theorem expandSyms_cons (m : List Char) (s : Sym) (a : List Sym) :
    expandSyms m (s :: a) = s.expand m ++ expandSyms m a := List.flatMap_cons

@[simp] theorem expandSyms_append (m : List Char) (a b : List Sym) :
    expandSyms m (a ++ b) = expandSyms m a ++ expandSyms m b := List.flatMap_append

@[simp] theorem expandSyms_map_char (m : List Char) (cs : List Char) :
    expandSyms m (cs.map Sym.char) = cs := by
  induction cs with
  | nil => rfl
  | cons c cs ih => simp [ih]

/-- What `guard` promises of a marker it chooses: at least one letter, all of them `a`–`z`. -/
structure MarkerOk (m : List Char) : Prop where
  ne_nil : m ≠ []
  letters : ∀ c ∈ m, c ∈ markerAlphabet

/-- The marker occurs in no run of plain characters of the symbols. -/
def MarkerFree (m : List Char) (a : List Sym) : Prop :=
  ∀ cs : List Char, cs.map Sym.char <:+: a → ¬ m <:+: cs

theorem MarkerFree.mono {m : List Char} {a b : List Sym} (h : MarkerFree m b) (hab : a <:+: b) :
    MarkerFree m a :=
  fun cs hcs => h cs (hcs.trans hab)

/-! ## The characters of a placeholder -/

/-- The decimal digits. -/
def digitChars : List Char := "0123456789".toList

/-- Every character of a decimal numeral is one of the ten digits. -/
theorem mem_digitChars_of_mem_toDigits {c : Char} {n : Nat} (h : c ∈ Nat.toDigits 10 n) :
    c ∈ digitChars := by
  obtain ⟨h₁, h₂⟩ := Char.isDigit_iff_toNat.1 (all_isDigit_toDigits n c h)
  have hlt : c.toNat - 48 < 10 := by
    simp only [Char.reduceToNat] at h₁ h₂
    omega
  have hc : c = Nat.digitChar (c.toNat - 48) := by
    rw [← Char.toNat_inj, Nat.toNat_digitChar_of_lt_ten hlt]
    simp only [Char.reduceToNat] at h₁
    omega
  have hall : ∀ d < 10, Nat.digitChar d ∈ digitChars := by decide
  rw [hc]
  exact hall _ hlt

theorem mem_placeholder {m : List Char} {i : Nat} {c : Char} (h : c ∈ placeholder m i) :
    c ∈ m ∨ c ∈ digitChars := by
  simp only [placeholder, List.mem_append] at h
  rcases h with (h | h) | h
  · exact .inl h
  · exact .inr (mem_digitChars_of_mem_toDigits h)
  · exact .inl h

/-- No marker letter or digit ends a word of a clause. -/
theorem isWordDelimiter_of_mem {c : Char} (h : c ∈ markerAlphabet ∨ c ∈ digitChars) :
    isWordDelimiter c = false := by
  have hl : markerAlphabet.all (fun c => !isWordDelimiter c) = true := rfl
  have hd : digitChars.all (fun c => !isWordDelimiter c) = true := rfl
  rcases h with h | h
  · simpa using List.all_eq_true.1 hl c h
  · simpa using List.all_eq_true.1 hd c h

theorem isWhiteSpace_of_mem {c : Char} (h : c ∈ markerAlphabet ∨ c ∈ digitChars) :
    Text.isWhiteSpace c = false := by
  have := isWordDelimiter_of_mem h
  simp only [isWordDelimiter, Bool.or_eq_false_iff] at this
  exact this.1.1.1.1.1.1.1

theorem isAlpha_of_mem_markerAlphabet {c : Char} (h : c ∈ markerAlphabet) : c.isAlpha := by
  have hl : markerAlphabet.all Char.isAlpha = true := rfl
  exact List.all_eq_true.1 hl c h

theorem isAlpha_of_mem_digitChars {c : Char} (h : c ∈ digitChars) : c.isAlpha = false := by
  have hd : digitChars.all (fun c => !c.isAlpha) = true := rfl
  simpa using List.all_eq_true.1 hd c h

theorem asciiLower_of_mem_digitChars {c : Char} (h : c ∈ digitChars) : Text.asciiLower c = c := by
  have hd : digitChars.all (fun c => Text.asciiLower c == c) = true := rfl
  simpa using List.all_eq_true.1 hd c h

/-- Every character of a placeholder is a marker letter or a digit. -/
theorem mem_placeholder_of_markerOk {m : List Char} (hm : MarkerOk m) {i : Nat} {c : Char}
    (h : c ∈ placeholder m i) : c ∈ markerAlphabet ∨ c ∈ digitChars :=
  (mem_placeholder h).imp (hm.letters c) id

/-- A placeholder starts with the marker's first letter. -/
theorem placeholder_eq_cons {m : List Char} (hm : MarkerOk m) (i : Nat) :
    ∃ x xs, placeholder m i = x :: xs ∧ x ∈ markerAlphabet := by
  obtain ⟨x, xs, hxs⟩ := List.exists_cons_of_ne_nil hm.ne_nil
  exact ⟨x, xs ++ Nat.toDigits 10 i ++ m, by simp [placeholder, hxs], hm.letters x (by simp [hxs])⟩

/-! ## Scanning through and up to a placeholder -/

section Scan

variable {p : Char → Bool}

/-- A scan for characters that every placeholder character passes runs through placeholders
    whole. -/
theorem takeWhile_expandSyms_of_all {m : List Char} (hm : MarkerOk m)
    (hp : ∀ c, c ∈ markerAlphabet ∨ c ∈ digitChars → p c = true) (a : List Sym) :
    (expandSyms m a).takeWhile p = expandSyms m (a.takeWhile (Sym.lift p true)) := by
  induction a with
  | nil => rfl
  | cons s a ih =>
    cases s with
    | char c => by_cases hc : p c <;> simp [hc, ih]
    | slot i =>
      have hall : ∀ c ∈ placeholder m i, p c = true :=
        fun c hc => hp c (mem_placeholder_of_markerOk hm hc)
      simp [List.takeWhile_append_of_pos hall, List.takeWhile_cons, ih]

theorem dropWhile_expandSyms_of_all {m : List Char} (hm : MarkerOk m)
    (hp : ∀ c, c ∈ markerAlphabet ∨ c ∈ digitChars → p c = true) (a : List Sym) :
    (expandSyms m a).dropWhile p = expandSyms m (a.dropWhile (Sym.lift p true)) := by
  induction a with
  | nil => rfl
  | cons s a ih =>
    cases s with
    | char c => by_cases hc : p c <;> simp [hc, ih]
    | slot i =>
      have hall : ∀ c ∈ placeholder m i, p c = true :=
        fun c hc => hp c (mem_placeholder_of_markerOk hm hc)
      simp [List.dropWhile_append_of_pos hall, List.dropWhile_cons, ih]

theorem dropWhile_flatMap_of_head {f : Sym → List Char} (hchar : ∀ c, f (.char c) = [c])
    (hslot : ∀ i, ∃ x xs, f (.slot i) = x :: xs ∧ p x = false) (a : List Sym) :
    (a.flatMap f).dropWhile p = (a.dropWhile (Sym.lift p false)).flatMap f := by
  induction a with
  | nil => rfl
  | cons s a ih =>
    cases s with
    | char c => by_cases hc : p c <;> simp [hchar, hc, ih]
    | slot i =>
      obtain ⟨x, xs, hx, hpx⟩ := hslot i
      simp [hx, hpx]

/-- The placeholders written backwards start with the marker's last letter. -/
theorem reverse_placeholder_eq_cons {m : List Char} (hm : MarkerOk m) (i : Nat) :
    ∃ x xs, (placeholder m i).reverse = x :: xs ∧ x ∈ markerAlphabet := by
  obtain ⟨x, xs, hxs⟩ := List.exists_cons_of_ne_nil (List.reverse_ne_nil_iff.2 hm.ne_nil)
  refine ⟨x, xs ++ (Nat.toDigits 10 i).reverse ++ m.reverse, by simp [placeholder, hxs], ?_⟩
  exact hm.letters x (List.mem_reverse.1 (hxs ▸ List.mem_cons_self))

end Scan

/-- The symbols with plain white space dropped from both ends. -/
def trimSyms (a : List Sym) : List Sym :=
  ((a.dropWhile (Sym.lift Text.isWhiteSpace false)).reverse.dropWhile
    (Sym.lift Text.isWhiteSpace false)).reverse

/-- Trimming a guarded text trims its symbols: a placeholder is never white space. -/
theorem trim_expandSyms {m : List Char} (hm : MarkerOk m) (a : List Sym) :
    Text.trim (expandSyms m a) = expandSyms m (trimSyms a) := by
  have hfront : ∀ i, ∃ x xs, Sym.expand m (.slot i) = x :: xs ∧ Text.isWhiteSpace x = false := by
    intro i
    obtain ⟨x, xs, hx, hmem⟩ := placeholder_eq_cons hm i
    exact ⟨x, xs, hx, isWhiteSpace_of_mem (.inl hmem)⟩
  have hback : ∀ i, ∃ x xs, (Sym.expand m (.slot i)).reverse = x :: xs ∧
      Text.isWhiteSpace x = false := by
    intro i
    obtain ⟨x, xs, hx, hmem⟩ := reverse_placeholder_eq_cons hm i
    exact ⟨x, xs, hx, isWhiteSpace_of_mem (.inl hmem)⟩
  rw [Text.trim, expandSyms, dropWhile_flatMap_of_head (fun _ => rfl) hfront, List.reverse_flatMap,
    dropWhile_flatMap_of_head (f := List.reverse ∘ Sym.expand m) (fun _ => rfl) hback,
    List.reverse_flatMap]
  simp only [trimSyms, expandSyms, Function.comp_def, List.reverse_reverse]

theorem isBlank_expandSyms {m : List Char} (hm : MarkerOk m) (a : List Sym) :
    Text.isBlank (expandSyms m a) = a.all (Sym.lift Text.isWhiteSpace false) := by
  induction a with
  | nil => rfl
  | cons s a ih =>
    cases s with
    | char c => simp [Text.isBlank, ← ih]
    | slot i =>
      obtain ⟨x, xs, hx, hmem⟩ := placeholder_eq_cons hm i
      simp [Text.isBlank, hx, isWhiteSpace_of_mem (.inl hmem)]

theorem isEmpty_expandSyms {m : List Char} (hm : MarkerOk m) (a : List Sym) :
    (expandSyms m a).isEmpty = a.isEmpty := by
  cases a with
  | nil => rfl
  | cons s a =>
    cases s with
    | char c => rfl
    | slot i =>
      obtain ⟨x, xs, hx, -⟩ := placeholder_eq_cons hm i
      simp [hx]

theorem expandSyms_eq_nil_iff {m : List Char} (hm : MarkerOk m) {a : List Sym} :
    expandSyms m a = [] ↔ a = [] := by
  rw [← List.isEmpty_iff, isEmpty_expandSyms hm, List.isEmpty_iff]


/-! ## Words of symbols -/

/-- The characters of symbols that hold no placeholder. -/
def plainChars? : List Sym → Option (List Char)
  | [] => some []
  | .char c :: a => (plainChars? a).map (c :: ·)
  | .slot _ :: _ => none

theorem plainChars?_eq_some_iff {a : List Sym} {cs : List Char} :
    plainChars? a = some cs ↔ a = cs.map Sym.char := by
  induction a generalizing cs with
  | nil => cases cs <;> simp [plainChars?]
  | cons s a ih =>
    cases s with
    | char c =>
      cases cs with
      | nil => simp [plainChars?]
      | cons d ds =>
        simp only [plainChars?, Option.map_eq_some_iff, List.cons.injEq, List.map_cons,
          Sym.char.injEq, ih]
        constructor
        · rintro ⟨x, hx, rfl, rfl⟩
          exact ⟨rfl, hx⟩
        · rintro ⟨rfl, hx⟩
          exact ⟨ds, hx, rfl, rfl⟩
    | slot i => cases cs <;> simp [plainChars?]

theorem exists_slot_of_plainChars?_eq_none {a : List Sym} (h : plainChars? a = none) :
    ∃ i, Sym.slot i ∈ a := by
  induction a with
  | nil => simp [plainChars?] at h
  | cons s a ih =>
    cases s with
    | char c =>
      obtain ⟨i, hi⟩ := ih (by simpa [plainChars?] using h)
      exact ⟨i, List.mem_cons_of_mem _ hi⟩
    | slot i => exact ⟨i, List.mem_cons_self⟩

/-- A placeholder written into a text holds a digit. -/
theorem exists_digit_of_slot_mem {m : List Char} {a : List Sym} {i : Nat} (h : Sym.slot i ∈ a) :
    ∃ d ∈ expandSyms m a, d ∈ digitChars := by
  obtain ⟨d, ds, hds⟩ := List.exists_cons_of_ne_nil (Nat.toDigits_ne_nil (n := i) (b := 10))
  refine ⟨d, List.mem_flatMap.2 ⟨.slot i, h, ?_⟩, mem_digitChars_of_mem_toDigits (hds ▸ List.mem_cons_self)⟩
  simp [placeholder, hds]

/-- Whether symbols spell the given word, in any ASCII case; a placeholder never does. -/
def isWordSyms (a : List Sym) (w : String) : Bool :=
  match plainChars? a with
  | some cs => Text.isWord cs w
  | none => false

/-- Whether no character of a word is a digit in either case. -/
def digitFree (w : String) : Bool := w.toList.all fun c => !digitChars.contains (Text.asciiLower c)

/-- A text holding a placeholder is no word without digits. -/
theorem isWord_expandSyms {m : List Char} {w : String} (hw : digitFree w = true) (a : List Sym) :
    Text.isWord (expandSyms m a) w = isWordSyms a w := by
  unfold isWordSyms
  split
  · rename_i cs hcs
    rw [plainChars?_eq_some_iff.1 hcs, expandSyms_map_char]
  · rename_i hnone
    obtain ⟨i, hi⟩ := exists_slot_of_plainChars?_eq_none hnone
    obtain ⟨d, hd, hdigit⟩ := exists_digit_of_slot_mem (m := m) hi
    simp only [Text.isWord, Text.eqIgnoreCase, beq_eq_false_iff_ne, ne_eq]
    intro heq
    have : d ∈ w.toList.map Text.asciiLower :=
      heq ▸ List.mem_map.2 ⟨d, hd, asciiLower_of_mem_digitChars hdigit⟩
    obtain ⟨c, hc, hcd⟩ := List.mem_map.1 this
    have hfree : Text.asciiLower c ∉ digitChars := by
      simpa [digitFree] using List.all_eq_true.1 hw c hc
    exact hfree (hcd ▸ hdigit)

/-- The index of symbols that are one placeholder and nothing else. -/
def soleSlot? : List Sym → Option Nat
  | [.slot i] => some i
  | _ => none

/-- The original span of a placeholder index, as `Guarded.lookup?` finds it: only indices that
    fit in 64 bits are read. -/
def slotOriginal (originals : List (List Char)) (i : Nat) : Option (List Char) :=
  if i < Nat.pow 2 64 then originals[i]? else none

/-- Symbols are plain characters up to the first placeholder, if any. -/
theorem exists_plain_prefix : ∀ a : List Sym, ∃ (cs : List Char) (t : List Sym),
    a = cs.map Sym.char ++ t ∧ (t = [] ∨ ∃ i t', t = .slot i :: t')
  | [] => ⟨[], [], rfl, .inl rfl⟩
  | .slot i :: a => ⟨[], .slot i :: a, rfl, .inr ⟨i, a, rfl⟩⟩
  | .char c :: a => by
    obtain ⟨cs, t, rfl, ht⟩ := exists_plain_prefix a
    exact ⟨c :: cs, t, rfl, ht⟩

namespace Guarded

/-- A word that looks up a span is the marker, a run of digits, and the marker. -/
theorem lookup?_eq_some {g : Guarded} {w o : List Char} (h : g.lookup? w = some o) :
    ∃ ds, w = g.marker ++ (ds ++ g.marker) ∧ ds ≠ [] ∧ ∀ c ∈ ds, c.isDigit := by
  unfold lookup? at h
  split at h
  · cases h
  · rename_i hpre
    simp only [Bool.or_eq_true, Bool.not_eq_true', not_or, Bool.not_eq_false,
      List.isPrefixOf_iff_prefix] at hpre
    obtain ⟨body, rfl⟩ := hpre.2
    simp only [List.drop_left] at h
    split at h
    · cases h
    · split at h
      · cases h
      · rename_i hds
        simp only [Bool.or_eq_true, not_or, Bool.not_eq_true, Bool.not_eq_eq_eq_not, Bool.not_true,
          Bool.not_eq_false, List.isEmpty_eq_false_iff, List.all_eq_true,
          List.isSuffixOf_iff_suffix] at hds
        obtain ⟨⟨hne, hdig⟩, ds, rfl⟩ := hds
        simp only [List.length_append, Nat.add_sub_cancel, List.take_left] at hne hdig
        exact ⟨ds, rfl, hne, hdig⟩

end Guarded

/-- A text of symbols that reads as the marker, digits and the marker is a single
    placeholder: a run of plain characters cannot supply the marker, since the marker does not
    occur in it, and anything after a placeholder would be left over. -/
theorem eq_slot_of_expandSyms_eq {m : List Char} (hm : MarkerOk m) {a : List Sym}
    (hfree : MarkerFree m a) {ds : List Char} (hds : ds ≠ []) (hdig : ∀ c ∈ ds, c.isDigit)
    (h : expandSyms m a = m ++ (ds ++ m)) : ∃ i, a = [.slot i] := by
  obtain ⟨x, xs, hxs⟩ := List.exists_cons_of_ne_nil hm.ne_nil
  have hx : x.isDigit = false := isDigit_of_mem_markerAlphabet (hm.letters x (by simp [hxs]))
  obtain ⟨cs, t, rfl, ht⟩ := exists_plain_prefix a
  cases cs with
  | nil =>
    rcases ht with rfl | ⟨i, t', rfl⟩
    · simp only [List.map_nil, List.nil_append, expandSyms_nil] at h
      exact absurd (List.append_eq_nil_iff.1 h.symm).1 hm.ne_nil
    · -- the digits of the placeholder are the digits read, so nothing follows it
      simp only [List.map_nil, List.nil_append, expandSyms_cons, Sym.expand_slot, placeholder,
        List.append_assoc, List.append_cancel_left_eq] at h
      have htake := congrArg (List.takeWhile Char.isDigit) h
      rw [List.takeWhile_append_of_pos (all_isDigit_toDigits i),
        List.takeWhile_append_of_pos hdig, hxs] at htake
      simp only [List.cons_append, List.takeWhile_cons, hx, Bool.false_eq_true, ↓reduceIte,
        List.append_nil] at htake
      rw [htake] at h
      simp only [List.append_cancel_left_eq, List.append_right_eq_self,
        expandSyms_eq_nil_iff hm] at h
      exact ⟨i, by simp [h]⟩
  | cons c cs =>
    -- an occurrence of the marker that starts among plain characters runs into a
    -- placeholder's marker, and is followed by a letter where a digit should be
    have hP : ¬ m <:+: c :: cs := hfree (c :: cs) (List.prefix_append _ _).isInfix
    have hT : expandSyms m t = [] ∨ m <+: expandSyms m t := by
      rcases ht with rfl | ⟨i, t', rfl⟩
      · exact .inl rfl
      · exact .inr ⟨Nat.toDigits 10 i ++ m ++ expandSyms m t', by simp [placeholder]⟩
    rw [expandSyms_append, expandSyms_map_char] at h
    obtain ⟨y, ys, hdrop, hy⟩ := drop_marker_of_prefix (h ▸ List.prefix_append _ _) hP
      (List.cons_ne_nil c cs) hT
    rw [h, List.drop_left] at hdrop
    obtain ⟨d, ds', rfl⟩ := List.exists_cons_of_ne_nil hds
    simp only [List.cons_append, List.cons.injEq] at hdrop
    have := hdig d (by simp)
    rw [hdrop.1, isDigit_of_mem_markerAlphabet (hm.letters y hy)] at this
    cases this

/-- What a word written with the marker looks up: the span of its placeholder when it is one
    placeholder and nothing else, and nothing otherwise. -/
theorem lookup?_expandSyms {g : Guarded} (hm : MarkerOk g.marker) {a : List Sym}
    (hfree : MarkerFree g.marker a) :
    g.lookup? (expandSyms g.marker a) = (soleSlot? a).bind (slotOriginal g.originals) := by
  by_cases hsole : ∃ i, a = [.slot i]
  · obtain ⟨i, rfl⟩ := hsole
    rw [show expandSyms g.marker [.slot i] = placeholder g.marker i by simp,
      Guarded.lookup?_placeholder hm.ne_nil]
    simp only [soleSlot?, Option.bind_some, slotOriginal]
  · have hnone : soleSlot? a = none := by
      match a, hsole with
      | [], _ => rfl
      | .char _ :: _, _ => rfl
      | [.slot i], h => exact absurd ⟨i, rfl⟩ h
      | .slot _ :: _ :: _, _ => rfl
    rw [hnone, Option.bind_none]
    cases hl : g.lookup? (expandSyms g.marker a) with
    | none => rfl
    | some o =>
      obtain ⟨ds, hw, hds, hdig⟩ := Guarded.lookup?_eq_some hl
      exact absurd (eq_slot_of_expandSyms_eq hm hfree hds hdig hw) hsole

/-- A word written with the marker touches it exactly when it holds a placeholder. -/
theorem touches_expandSyms {g : Guarded} (hm : MarkerOk g.marker) {a : List Sym}
    (hfree : MarkerFree g.marker a) :
    g.touches (expandSyms g.marker a) = (plainChars? a).isNone := by
  have hne : g.marker.isEmpty = false := by simpa using hm.ne_nil
  cases hp : plainChars? a with
  | some cs =>
    obtain rfl := plainChars?_eq_some_iff.1 hp
    have hno : Text.occursIn g.marker cs = false :=
      Bool.eq_false_iff.2 fun h => hfree cs (List.infix_refl _) ((Text.occursIn_iff_infix _ _).1 h)
    rw [expandSyms_map_char, Guarded.touches, hne, hno]
    rfl
  | none =>
    obtain ⟨i, hi⟩ := exists_slot_of_plainChars?_eq_none hp
    obtain ⟨s, t, rfl⟩ := List.append_of_mem hi
    have : g.marker <:+: expandSyms g.marker (s ++ Sym.slot i :: t) :=
      ⟨expandSyms g.marker s, Nat.toDigits 10 i ++ g.marker ++ expandSyms g.marker t,
        by simp [placeholder]⟩
    rw [Guarded.touches, hne, (Text.occursIn_iff_infix _ _).2 this]
    simp


/-! ## The guard's reading as symbols -/

/-- The symbols of a reading: each quoted span is a slot, numbered from `n` on. -/
def symsOf : Nat → List Chunk → List Sym
  | _, [] => []
  | n, .plain c :: rest => .char c :: symsOf n rest
  | n, .quoted _ :: rest => .slot n :: symsOf (n + 1) rest

/-- The guarded text is the reading's symbols written with the marker. -/
theorem guardedText_eq_expandSyms (m : List Char) :
    ∀ (n : Nat) (chunks : List Chunk), guardedText m n chunks = expandSyms m (symsOf n chunks)
  | _, [] => rfl
  | n, .plain c :: rest => by
    simp [guardedText, symsOf, guardedText_eq_expandSyms m n rest]
  | n, .quoted _ :: rest => by
    simp [guardedText, symsOf, guardedText_eq_expandSyms m (n + 1) rest]

theorem symsOf_append : ∀ (n : Nat) (xs ys : List Chunk),
    symsOf n (xs ++ ys) = symsOf n xs ++ symsOf (n + (spansOf xs).length) ys
  | _, [], _ => rfl
  | n, .plain c :: xs, ys => by simp [symsOf, symsOf_append n xs ys]
  | n, .quoted _ :: xs, ys => by
    simp [symsOf, symsOf_append (n + 1) xs ys, Nat.add_assoc, Nat.add_comm 1]

/-- A run of plain characters at the start of a reading's symbols starts its text. -/
theorem isPrefix_text_of_map_char : ∀ {n : Nat} {chunks : List Chunk} {cs : List Char},
    cs.map Sym.char <+: symsOf n chunks → cs <+: chunks.flatMap Chunk.text
  | _, _, [], _ => List.nil_prefix
  | _, [], _ :: _, h => by simp [symsOf] at h
  | n, .plain c :: rest, d :: ds, h => by
    simp only [List.map_cons, symsOf, List.cons_prefix_cons, Sym.char.injEq] at h
    obtain ⟨rfl, h⟩ := h
    simpa [Chunk.text] using isPrefix_text_of_map_char h
  | _, .quoted _ :: _, _ :: _, h => by simp [symsOf] at h

/-- A run of plain characters in a reading's symbols is a part of its text. -/
theorem isInfix_text_of_map_char {cs : List Char} : ∀ {n : Nat} {chunks : List Chunk},
    cs.map Sym.char <:+: symsOf n chunks → cs <:+: chunks.flatMap Chunk.text
  | _, [], h => by
    simp only [symsOf, List.infix_nil, List.map_eq_nil_iff] at h
    simp [h]
  | n, x :: rest, h => by
    have hsyms : ∃ s n', symsOf n (x :: rest) = s :: symsOf n' rest := by
      cases x with
      | plain c => exact ⟨_, _, rfl⟩
      | quoted q => exact ⟨_, _, rfl⟩
    obtain ⟨s, n', hs⟩ := hsyms
    rw [hs, List.infix_cons_iff] at h
    rcases h with h | h
    · exact (isPrefix_text_of_map_char (hs ▸ h)).isInfix
    · rw [List.flatMap_cons]
      exact (isInfix_text_of_map_char h).trans (List.suffix_append _ _).isInfix

/-- A marker that does not occur in the text occurs in no plain run of its reading. -/
theorem markerFree_symsOf {m : List Char} {n : Nat} {chunks : List Chunk}
    (h : ¬ m <:+: chunks.flatMap Chunk.text) : MarkerFree m (symsOf n chunks) :=
  fun _ hcs hm => h (hm.trans (isInfix_text_of_map_char hcs))


/-! ## The placeholders of a text -/

/-- The index of a placeholder symbol. -/
def Sym.slotIndex? : Sym → Option Nat
  | char _ => none
  | slot i => some i

/-- The indices of the placeholders of a text, in order. -/
def slotsOf (a : List Sym) : List Nat := a.filterMap Sym.slotIndex?

@[simp] theorem slotsOf_nil : slotsOf [] = [] := rfl

@[simp] theorem slotsOf_cons_char (c : Char) (a : List Sym) :
    slotsOf (.char c :: a) = slotsOf a := rfl

@[simp] theorem slotsOf_cons_slot (i : Nat) (a : List Sym) :
    slotsOf (.slot i :: a) = i :: slotsOf a := rfl

@[simp] theorem slotsOf_append (a b : List Sym) : slotsOf (a ++ b) = slotsOf a ++ slotsOf b :=
  List.filterMap_append

@[simp] theorem slotsOf_map_char (cs : List Char) : slotsOf (cs.map Sym.char) = [] := by
  induction cs with
  | nil => rfl
  | cons c cs ih => simpa using ih

/-- Dropping plain characters keeps every placeholder. -/
theorem slotsOf_dropWhile (p : Char → Bool) (a : List Sym) :
    slotsOf (a.dropWhile (Sym.lift p false)) = slotsOf a := by
  induction a with
  | nil => rfl
  | cons s a ih =>
    cases s with
    | char c => by_cases hc : p c <;> simp [hc, ih]
    | slot i => simp

theorem slotsOf_reverse (a : List Sym) : slotsOf a.reverse = (slotsOf a).reverse :=
  List.filterMap_reverse

@[simp] theorem slotsOf_trimSyms (a : List Sym) : slotsOf (trimSyms a) = slotsOf a := by
  simp only [trimSyms, slotsOf_reverse, slotsOf_dropWhile, List.reverse_reverse]

theorem trimSyms_isInfix (a : List Sym) : trimSyms a <:+: a := by
  have h₁ : (a.dropWhile (Sym.lift Text.isWhiteSpace false)) <:+ a := List.dropWhile_suffix _
  have h₂ := List.dropWhile_suffix (Sym.lift Text.isWhiteSpace false)
    (l := (a.dropWhile (Sym.lift Text.isWhiteSpace false)).reverse)
  have h₃ : trimSyms a <+: a.dropWhile (Sym.lift Text.isWhiteSpace false) := by
    rw [← List.reverse_suffix, trimSyms, List.reverse_reverse]
    exact h₂
  exact h₃.isInfix.trans h₁.isInfix

theorem slotsOf_eq_nil_of_plainChars? {a : List Sym} {cs : List Char}
    (h : plainChars? a = some cs) : slotsOf a = [] := by
  rw [plainChars?_eq_some_iff.1 h, slotsOf_map_char]

theorem slotsOf_eq_nil_of_isWordSyms {a : List Sym} {w : String} (h : isWordSyms a w = true) :
    slotsOf a = [] := by
  unfold isWordSyms at h
  split at h
  · rename_i cs hcs
    exact slotsOf_eq_nil_of_plainChars? hcs
  · cases h


end FilterQuery.Query

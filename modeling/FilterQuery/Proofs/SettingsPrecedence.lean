import FilterQuery.Settings.Merge

/-!
# Settings merged by precedence

Settings files come highest precedence first, and `Settings.merge` applies them to the
defaults from the last to the first. Applying a file replaces each setting the file gives and
keeps the others, so every setting is an overlay of its own: after the merge it holds the
value of the first file in the list that gives it, or its default when none does. The
invariant of the reversed fold is stated once, for any setting (`Overlays`), and used for
each of the seven.

A merge fails only on a quote entry that is not one character. As the files are applied from
the last, the file it names is the last one in the list with such an entry, and the entry is
that file's first.

## Key results
- `apply_eq_ok`, `apply_eq_error_iff`, `apply_ok_iff`: what applying one file does
- `Overlays.foldlM_reverse`: a setting, after the files are applied from the last, holds the
  value of the first file that gives it
- `foldlM_reverse_ok_iff`, `foldlM_reverse_error`: when the fold fails, and which file it names
- `merge_precedence`: the merge succeeds exactly when every quote entry is one character; it
  then gives each setting its first value, records the directory of the first file and the
  paths of all, and otherwise names the last file's first bad entry
-/

namespace FilterQuery

open Query

namespace SettingsFile

/-- The quote entries of a file's `[parser]` section, none when it gives no quotes. -/
def quoteEntries (f : SettingsFile) : List String := (f.layer.parser.bind (·.quotes)).getD []

/-- Every quote entry of the file is one character. -/
def QuotesOk (f : SettingsFile) : Prop := ∀ q ∈ f.quoteEntries, q.length = 1

theorem quotesOk_iff_find? {f : SettingsFile} :
    f.QuotesOk ↔ f.quoteEntries.find? (·.length != 1) = none := by
  simp [QuotesOk, List.find?_eq_none]

end SettingsFile

namespace Settings

/-- The value of a setting in the first file of the list that gives it. -/
def firstGiven {α : Type} (files : List SettingsFile) (given : Layer → Option α) : Option α :=
  files.findSome? (given ·.layer)

@[simp] theorem firstGiven_nil {α : Type} (given : Layer → Option α) :
    firstGiven [] given = none := rfl

theorem firstGiven_cons {α : Type} (f : SettingsFile) (files : List SettingsFile)
    (given : Layer → Option α) (d : α) :
    (firstGiven (f :: files) given).getD d = (given f.layer).getD ((firstGiven files given).getD d) := by
  unfold firstGiven
  rw [List.findSome?_cons]
  cases given f.layer <;> rfl

/-! ## One quote entry, one file -/

theorem quoteChar_eq_ok_iff {path v : String} {c : Char} :
    quoteChar path v = .ok c ↔ v = String.singleton c := by
  rw [← String.toList_inj, String.toList_singleton]
  unfold quoteChar
  split
  · rename_i c' hv
    rw [hv]
    simp only [Except.ok.injEq, List.cons.injEq, and_true]
  · rename_i hv
    simp only [reduceCtorEq, false_iff]
    exact hv c

theorem quoteChar_eq_error_iff {path v : String} {e : SettingsError} :
    quoteChar path v = .error e ↔ v.length ≠ 1 ∧ e = .invalidQuote path v := by
  rw [← String.length_toList]
  unfold quoteChar
  split
  · rename_i c hv
    simp [hv]
  · rename_i hv
    have hlen : v.toList.length ≠ 1 := by
      intro h1
      obtain ⟨c, hc⟩ := List.length_eq_one_iff.1 h1
      exact hv c hc
    simp only [Except.error.injEq, hlen, ne_eq, not_false_eq_true, true_and]
    exact eq_comm

/-- Converted quote entries, each written back as a string, are the entries. -/
theorem map_singleton_of_mapM_quoteChar {path : String} :
    ∀ {qs : List String} {cs : List Char}, qs.mapM (quoteChar path) = .ok cs →
      cs.map String.singleton = qs
  | [], cs, h => by
    simp only [List.mapM_nil, pure, Except.pure, Except.ok.injEq] at h
    rw [← h, List.map_nil]
  | q :: qs, cs, h => by
    rw [List.mapM_cons] at h
    cases hq : quoteChar path q with
    | error e => simp [hq, bind, Except.bind] at h
    | ok c =>
      cases hrest : qs.mapM (quoteChar path) with
      | error e => simp [hq, hrest, bind, Except.bind] at h
      | ok cs' =>
        simp only [hq, hrest, bind, Except.bind, pure, Except.pure, Except.ok.injEq] at h
        rw [← h, List.map_cons, map_singleton_of_mapM_quoteChar hrest, quoteChar_eq_ok_iff.1 hq]

/-- Converting quote entries fails on the first entry that is not one character. -/
theorem mapM_quoteChar_eq_error_iff {path : String} :
    ∀ {qs : List String} {e : SettingsError}, qs.mapM (quoteChar path) = .error e ↔
      ∃ q, qs.find? (·.length != 1) = some q ∧ e = .invalidQuote path q
  | [], e => by simp [pure, Except.pure]
  | q :: qs, e => by
    rw [List.mapM_cons]
    cases hq : quoteChar path q with
    | error e' =>
      obtain ⟨hbad, rfl⟩ := quoteChar_eq_error_iff.1 hq
      have hbad' : (q.length != 1) = true := by simpa using hbad
      simp only [List.find?_cons, hbad', bind, Except.bind, Except.error.injEq, Option.some.injEq]
      constructor
      · rintro rfl
        exact ⟨q, rfl, rfl⟩
      · rintro ⟨q', rfl, rfl⟩
        rfl
    | ok c =>
      have hgood : (q.length != 1) = false := by
        rw [quoteChar_eq_ok_iff.1 hq, String.length_singleton]
        rfl
      simp only [List.find?_cons, hgood]
      rw [← mapM_quoteChar_eq_error_iff]
      cases qs.mapM (quoteChar path) <;> simp [bind, Except.bind, pure, Except.pure]

theorem applyParser_eq_ok {path : String} {opts p : ParseOptions} {l : ParserLayer}
    (h : applyParser path opts l = .ok p) :
    p.quotes.map String.singleton = l.quotes.getD (opts.quotes.map String.singleton) ∧
      p.maxDepth = l.maxDepth.getD opts.maxDepth ∧
      p.placeholderMaxLen = l.placeholderMaxLen.getD opts.placeholderMaxLen ∧
      p.like = l.like.getD opts.like := by
  unfold applyParser at h
  cases hq : l.quotes with
  | none =>
    simp only [hq, pure, Except.pure, bind, Except.bind, Except.ok.injEq] at h
    subst h
    exact ⟨rfl, rfl, rfl, rfl⟩
  | some qs =>
    cases hm : qs.mapM (quoteChar path) with
    | error e => simp [hq, hm, bind, Except.bind] at h
    | ok cs =>
      simp only [hq, hm, pure, Except.pure, bind, Except.bind, Except.ok.injEq] at h
      subst h
      exact ⟨map_singleton_of_mapM_quoteChar hm, rfl, rfl, rfl⟩

theorem applyParser_eq_error_iff {path : String} {opts : ParseOptions} {l : ParserLayer}
    {e : SettingsError} :
    applyParser path opts l = .error e ↔
      ∃ q, (l.quotes.getD []).find? (·.length != 1) = some q ∧ e = .invalidQuote path q := by
  unfold applyParser
  cases hq : l.quotes with
  | none => simp [pure, Except.pure, bind, Except.bind]
  | some qs =>
    simp only [Option.getD_some, pure, Except.pure, bind, Except.bind]
    rw [← mapM_quoteChar_eq_error_iff]
    cases qs.mapM (quoteChar path) <;> simp

/-- The parser section of a file, when there is one and it applies, sets the options it gives
    and keeps the others; without one every option is kept. -/
theorem parserSection_eq_ok {path : String} {opts p : ParseOptions} {l : Option ParserLayer}
    (h : l.elim (pure opts) (applyParser path opts) = .ok p) :
    p.quotes.map String.singleton = (l.bind (·.quotes)).getD (opts.quotes.map String.singleton) ∧
      p.maxDepth = (l.bind (·.maxDepth)).getD opts.maxDepth ∧
      p.placeholderMaxLen = (l.bind (·.placeholderMaxLen)).getD opts.placeholderMaxLen ∧
      p.like = (l.bind (·.like)).getD opts.like := by
  cases l with
  | none =>
    cases h
    exact ⟨rfl, rfl, rfl, rfl⟩
  | some l => exact applyParser_eq_ok h

/-- What applying a file does to each setting: the file's value replaces it when the file gives
    one, and it is kept otherwise. The quotes are compared as the strings they are written as. -/
structure Replaces (s : Settings) (f : SettingsFile) (s' : Settings) : Prop where
  quotes : s'.parser.quotes.map String.singleton =
    (f.layer.parser.bind (·.quotes)).getD (s.parser.quotes.map String.singleton)
  maxDepth : s'.parser.maxDepth = (f.layer.parser.bind (·.maxDepth)).getD s.parser.maxDepth
  placeholderMaxLen : s'.parser.placeholderMaxLen =
    (f.layer.parser.bind (·.placeholderMaxLen)).getD s.parser.placeholderMaxLen
  like : s'.parser.like = (f.layer.parser.bind (·.like)).getD s.parser.like
  enabled : s'.cache.enabled = (f.layer.cache.bind (·.enabled)).getD s.cache.enabled
  capacity : s'.cache.capacity = (f.layer.cache.bind (·.capacity)).getD s.cache.capacity
  negation : s'.document.negation =
    (f.layer.document.bind (·.negation)).getD s.document.negation

theorem apply_eq_ok {s s' : Settings} {f : SettingsFile} (h : apply s f = .ok s') :
    Replaces s f s' := by
  unfold apply at h
  -- only the parser section can fail; `p` is the options it leaves
  cases hp : f.layer.parser.elim (pure s.parser) (applyParser f.path s.parser) with
  | error e =>
    rw [hp] at h
    cases h
  | ok p =>
    rw [hp] at h
    cases h
    obtain ⟨hq, hd, hm, hk⟩ := parserSection_eq_ok hp
    refine ⟨hq, hd, hm, hk, ?_, ?_, ?_⟩
    · cases f.layer.cache <;> rfl
    · cases f.layer.cache <;> rfl
    · cases f.layer.document <;> rfl

theorem apply_eq_error_iff {s : Settings} {f : SettingsFile} {e : SettingsError} :
    apply s f = .error e ↔
      ∃ q, f.quoteEntries.find? (·.length != 1) = some q ∧ e = .invalidQuote f.path q := by
  unfold apply SettingsFile.quoteEntries
  cases hl : f.layer.parser with
  | none => simp [pure, Except.pure, bind, Except.bind]
  | some l =>
    simp only [Option.elim_some, Option.bind_some, bind, Except.bind]
    rw [← applyParser_eq_error_iff]
    cases applyParser f.path s.parser l <;> simp [pure, Except.pure]

/-- A file applies to any settings exactly when its quote entries are each one character. -/
theorem apply_ok_iff {s : Settings} {f : SettingsFile} :
    (∃ s', apply s f = .ok s') ↔ f.QuotesOk := by
  rw [SettingsFile.quotesOk_iff_find?]
  cases h : apply s f with
  | ok s' =>
    have hfind : f.quoteEntries.find? (·.length != 1) = none := by
      cases hq : f.quoteEntries.find? (·.length != 1) with
      | none => rfl
      | some q =>
        have := apply_eq_error_iff (s := s).2 ⟨q, hq, rfl⟩
        rw [h] at this
        cases this
    exact ⟨fun _ => hfind, fun _ => ⟨s', rfl⟩⟩
  | error e =>
    obtain ⟨q, hq, -⟩ := apply_eq_error_iff.1 h
    simp [hq]

/-! ## The files applied from the last -/

theorem foldlM_reverse_cons (f : SettingsFile) (files : List SettingsFile) (s₀ : Settings) :
    (f :: files).reverse.foldlM apply s₀ = files.reverse.foldlM apply s₀ >>= (apply · f) := by
  rw [List.reverse_cons, List.foldlM_append]
  simp

/-- A setting that `value` reads off the settings and `given` off a file, such that applying a
    file sets it to the file's value when the file gives one and keeps it otherwise. -/
def Overlays {α : Type} (given : Layer → Option α) (value : Settings → α) : Prop :=
  ∀ {s s' : Settings} {f : SettingsFile}, apply s f = .ok s' → value s' = (given f.layer).getD (value s)

/-- After files are applied from the last, a setting holds the value of the first file that
    gives it, or the value it started with. -/
theorem Overlays.foldlM_reverse {α : Type} {given : Layer → Option α} {value : Settings → α}
    (h : Overlays given value) {s₀ : Settings} :
    ∀ {files : List SettingsFile} {s : Settings}, files.reverse.foldlM apply s₀ = .ok s →
      value s = (firstGiven files given).getD (value s₀)
  | [], s, hs => by
    simp only [List.reverse_nil, List.foldlM_nil, pure, Except.pure, Except.ok.injEq] at hs
    rw [← hs]
    rfl
  | f :: files, s, hs => by
    rw [foldlM_reverse_cons] at hs
    cases ht : files.reverse.foldlM apply s₀ with
    | error e =>
      rw [ht] at hs
      cases hs
    | ok t =>
      rw [ht] at hs
      rw [h hs, Overlays.foldlM_reverse h ht, firstGiven_cons]

/-! Each of the seven settings is such an overlay, by the step lemma of `apply`. -/

theorem overlays_quotes :
    Overlays (·.parser.bind (·.quotes)) (·.parser.quotes.map String.singleton) :=
  fun h => (apply_eq_ok h).quotes

theorem overlays_maxDepth : Overlays (·.parser.bind (·.maxDepth)) (·.parser.maxDepth) :=
  fun h => (apply_eq_ok h).maxDepth

theorem overlays_placeholderMaxLen :
    Overlays (·.parser.bind (·.placeholderMaxLen)) (·.parser.placeholderMaxLen) :=
  fun h => (apply_eq_ok h).placeholderMaxLen

theorem overlays_like : Overlays (·.parser.bind (·.like)) (·.parser.like) :=
  fun h => (apply_eq_ok h).like

theorem overlays_enabled : Overlays (·.cache.bind (·.enabled)) (·.cache.enabled) :=
  fun h => (apply_eq_ok h).enabled

theorem overlays_capacity : Overlays (·.cache.bind (·.capacity)) (·.cache.capacity) :=
  fun h => (apply_eq_ok h).capacity

theorem overlays_negation : Overlays (·.document.bind (·.negation)) (·.document.negation) :=
  fun h => (apply_eq_ok h).negation

/-- Files apply one after another exactly when all their quote entries are one character. -/
theorem foldlM_reverse_ok_iff {s₀ : Settings} :
    ∀ {files : List SettingsFile},
      (∃ s, files.reverse.foldlM apply s₀ = .ok s) ↔ ∀ f ∈ files, f.QuotesOk
  | [] => by simp [pure, Except.pure]
  | f :: files => by
    rw [List.forall_mem_cons, ← foldlM_reverse_ok_iff, foldlM_reverse_cons]
    cases ht : files.reverse.foldlM apply s₀ with
    | error e => simp [bind, Except.bind]
    | ok t =>
      rw [← apply_ok_iff (s := t)]
      simp [bind, Except.bind]

/-- When files fail to apply, the error names the last file in the list with a bad quote
    entry, and that file's first such entry. -/
theorem foldlM_reverse_error {s₀ : Settings} :
    ∀ {files : List SettingsFile} {e : SettingsError},
      files.reverse.foldlM apply s₀ = .error e →
        ∃ pre f post q, files = pre ++ f :: post ∧ (∀ g ∈ post, g.QuotesOk) ∧
          f.quoteEntries.find? (·.length != 1) = some q ∧ e = .invalidQuote f.path q
  | [], e, h => by simp [pure, Except.pure] at h
  | f :: files, e, h => by
    rw [foldlM_reverse_cons] at h
    cases ht : files.reverse.foldlM apply s₀ with
    | error e' =>
      rw [ht] at h
      cases h
      obtain ⟨pre, g, post, q, rfl, hpost, hq, he⟩ := foldlM_reverse_error ht
      exact ⟨f :: pre, g, post, q, rfl, hpost, hq, he⟩
    | ok t =>
      rw [ht] at h
      obtain ⟨q, hq, he⟩ := apply_eq_error_iff.1 h
      exact ⟨[], f, files, q, rfl, foldlM_reverse_ok_iff.1 ⟨t, ht⟩, hq, he⟩

/-! ## The merge -/

theorem merge_eq_ok_iff {files : List SettingsFile} {s : Settings} :
    merge files = .ok s ↔ ∃ t, files.reverse.foldlM apply {} = .ok t ∧
      s = { t with configRoot := files.head?.bind (parentPath ·.path),
                   sources := files.map (·.path) } := by
  unfold merge
  cases files.reverse.foldlM apply {} with
  | error e => simp [bind, Except.bind]
  | ok t => simp [bind, Except.bind, pure, Except.pure, eq_comm]

theorem merge_eq_error_iff {files : List SettingsFile} {e : SettingsError} :
    merge files = .error e ↔ files.reverse.foldlM apply {} = .error e := by
  unfold merge
  cases files.reverse.foldlM apply {} <;> simp [bind, Except.bind, pure, Except.pure]

/-- Merging settings files, given highest precedence first, succeeds exactly when every quote
    entry of every file is one character. Then each setting holds the value of the first file
    that gives it, or its default (the quotes as a whole list, each entry its one character),
    the directory of the first file is recorded, and the paths of all files in order. A merge
    that fails names the last file in the list with an entry that is not one character, and
    that file's first such entry. -/
theorem merge_precedence (files : List SettingsFile) :
    ((∃ s, merge files = .ok s) ↔ ∀ f ∈ files, f.QuotesOk) ∧
    (∀ s, merge files = .ok s →
      s.parser.quotes.map String.singleton = (firstGiven files (·.parser.bind (·.quotes))).getD
        (({} : Settings).parser.quotes.map String.singleton) ∧
      s.parser.maxDepth = (firstGiven files (·.parser.bind (·.maxDepth))).getD
        ({} : Settings).parser.maxDepth ∧
      s.parser.placeholderMaxLen = (firstGiven files (·.parser.bind (·.placeholderMaxLen))).getD
        ({} : Settings).parser.placeholderMaxLen ∧
      s.parser.like = (firstGiven files (·.parser.bind (·.like))).getD
        ({} : Settings).parser.like ∧
      s.cache.enabled = (firstGiven files (·.cache.bind (·.enabled))).getD
        ({} : Settings).cache.enabled ∧
      s.cache.capacity = (firstGiven files (·.cache.bind (·.capacity))).getD
        ({} : Settings).cache.capacity ∧
      s.document.negation = (firstGiven files (·.document.bind (·.negation))).getD
        ({} : Settings).document.negation ∧
      s.configRoot = files.head?.bind (parentPath ·.path) ∧
      s.sources = files.map (·.path)) ∧
    (∀ e, merge files = .error e →
      ∃ pre f post q, files = pre ++ f :: post ∧ (∀ g ∈ post, g.QuotesOk) ∧
        f.quoteEntries.find? (·.length != 1) = some q ∧ e = .invalidQuote f.path q) := by
  refine ⟨?_, ?_, fun e he => foldlM_reverse_error (merge_eq_error_iff.1 he)⟩
  · rw [← foldlM_reverse_ok_iff]
    constructor
    · rintro ⟨s, hs⟩
      obtain ⟨t, ht, -⟩ := merge_eq_ok_iff.1 hs
      exact ⟨t, ht⟩
    · rintro ⟨t, ht⟩
      exact ⟨_, merge_eq_ok_iff.2 ⟨t, ht, rfl⟩⟩
  · intro s hs
    obtain ⟨t, ht, rfl⟩ := merge_eq_ok_iff.1 hs
    -- recording the files changes none of the seven settings of the fold's result `t`
    have hq := overlays_quotes.foldlM_reverse ht
    have hd := overlays_maxDepth.foldlM_reverse ht
    have hm := overlays_placeholderMaxLen.foldlM_reverse ht
    have hk := overlays_like.foldlM_reverse ht
    have he := overlays_enabled.foldlM_reverse ht
    have hc := overlays_capacity.foldlM_reverse ht
    have hn := overlays_negation.foldlM_reverse ht
    exact ⟨hq, hd, hm, hk, he, hc, hn, rfl, rfl⟩

end Settings

end FilterQuery

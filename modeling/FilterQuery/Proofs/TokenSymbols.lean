import FilterQuery.Proofs.SplitSymbols

/-!
# The lexer over symbols

`lexSyms` reads the tokens of a clause text of symbols the way `lexTokens` reads a clause
text, with a placeholder taken as part of a word. A placeholder holds no white space,
parenthesis, comma or operator character, so the word that reaches one runs through it, and an
operator that looks at the next character never sees an `=` or a `>` there. Written with any
marker the guard may choose, the tokens of a clause text are the tokens of its symbols
(`tokenize_expands`), and they keep every placeholder of the text once, inside words that are
parts of the text (`lexSyms_keepsWords`).

## Key results

- `lexTokens_word`, `lexTokens_equals`, …: one step of the lexer on a character
- `lexTokens_expands`, `tokenize_expands`: the lexer on a guarded clause text is the lexer over
  its symbols
- `lexSyms_keepsWords`: the words keep the text's placeholders, in order, and lie in the text
-/

namespace FilterQuery.Query

/-- A token of a clause text of symbols. -/
inductive SymToken where
  | word (w : List Sym)
  | op (o : CompareOp)
  | lparen
  | rparen
  | comma
  deriving DecidableEq

namespace SymToken

/-- The token written with the marker `m`. -/
def expand (m : List Char) : SymToken → Token
  | word w => .word (expandSyms m w)
  | op o => .op o
  | lparen => .lparen
  | rparen => .rparen
  | comma => .comma

/-- The symbols of the token, if it is a word. -/
def words : SymToken → List (List Sym)
  | word w => [w]
  | _ => []

end SymToken

/-- The placeholders of the words of tokens, in order. -/
def slotsOfTokens (ts : List SymToken) : List Nat := (ts.flatMap SymToken.words).flatMap slotsOf

@[simp] theorem slotsOfTokens_nil : slotsOfTokens [] = [] := rfl

theorem slotsOfTokens_append (ts us : List SymToken) :
    slotsOfTokens (ts ++ us) = slotsOfTokens ts ++ slotsOfTokens us := by
  simp [slotsOfTokens]

/-- Whether a symbol may go on in a word: a placeholder always may. -/
def wordSym : Sym → Bool := Sym.lift (fun d => !isWordDelimiter d) true

/-- `lexTokens` over symbols. -/
def lexSyms (a : List Sym) (acc : List SymToken) : Option (List SymToken) :=
  match a with
  | [] => some acc.reverse
  | .slot i :: rest =>
    have := (List.dropWhile_sublist wordSym (l := rest)).length_le
    lexSyms (rest.dropWhile wordSym) (.word (.slot i :: rest.takeWhile wordSym) :: acc)
  | .char c :: rest =>
    if Text.isWhiteSpace c then lexSyms rest acc
    else if c = '(' then lexSyms rest (.lparen :: acc)
    else if c = ')' then lexSyms rest (.rparen :: acc)
    else if c = ',' then lexSyms rest (.comma :: acc)
    else if c = '=' then
      if rest.head? = some (.char '=') then lexSyms rest.tail (.op .eq :: acc)
      else lexSyms rest (.op .eq :: acc)
    else if c = '!' then
      if rest.head? = some (.char '=') then lexSyms rest.tail (.op .ne :: acc) else none
    else if c = '<' then
      if rest.head? = some (.char '=') then lexSyms rest.tail (.op .le :: acc)
      else if rest.head? = some (.char '>') then lexSyms rest.tail (.op .ne :: acc)
      else lexSyms rest (.op .lt :: acc)
    else if c = '>' then
      if rest.head? = some (.char '=') then lexSyms rest.tail (.op .ge :: acc)
      else lexSyms rest (.op .gt :: acc)
    else
      have := (List.dropWhile_sublist wordSym (l := rest)).length_le
      lexSyms (rest.dropWhile wordSym) (.word (.char c :: rest.takeWhile wordSym) :: acc)
termination_by a.length
decreasing_by
  all_goals simp only [List.length_cons, List.length_tail]
  all_goals omega

/-! ## One step of the lexer -/

section Step

variable {rest : List Char} {acc : List Token}

theorem lexTokens_nil : lexTokens [] acc = .ok acc.reverse := by
  rw [lexTokens.eq_def]

theorem lexTokens_whiteSpace {c : Char} (hc : Text.isWhiteSpace c = true) :
    lexTokens (c :: rest) acc = lexTokens rest acc := by
  rw [lexTokens.eq_def]
  simp [hc]

/-- A character that ends no word starts one, which runs to the next character that does. -/
theorem lexTokens_word {c : Char} (hc : isWordDelimiter c = false) :
    lexTokens (c :: rest) acc =
      lexTokens (rest.dropWhile fun d => !isWordDelimiter d)
        (.word (c :: rest.takeWhile fun d => !isWordDelimiter d) :: acc) := by
  simp only [isWordDelimiter, Bool.or_eq_false_iff, decide_eq_false_iff_not] at hc
  obtain ⟨⟨⟨⟨⟨⟨⟨hws, h₁⟩, h₂⟩, h₃⟩, h₄⟩, h₅⟩, h₆⟩, h₇⟩ := hc
  rw [lexTokens.eq_def]
  simp [hws, h₁, h₂, h₃, h₄, h₅, h₆, h₇]

theorem lexTokens_lparen : lexTokens ('(' :: rest) acc = lexTokens rest (.lparen :: acc) := by
  rw [lexTokens.eq_def]
  simp [show Text.isWhiteSpace '(' = false by decide]

theorem lexTokens_rparen : lexTokens (')' :: rest) acc = lexTokens rest (.rparen :: acc) := by
  rw [lexTokens.eq_def]
  simp [show Text.isWhiteSpace ')' = false by decide]

theorem lexTokens_comma : lexTokens (',' :: rest) acc = lexTokens rest (.comma :: acc) := by
  rw [lexTokens.eq_def]
  simp [show Text.isWhiteSpace ',' = false by decide]

theorem lexTokens_equals :
    lexTokens ('=' :: rest) acc =
      if rest.head? = some '=' then lexTokens rest.tail (.op .eq :: acc)
      else lexTokens rest (.op .eq :: acc) := by
  rw [lexTokens.eq_def]
  simp only [show Text.isWhiteSpace '=' = false by decide, Bool.false_eq_true,
    Char.reduceEq, ↓reduceIte]
  by_cases h : rest.head? = some '='
  · obtain ⟨r, rfl⟩ := List.head?_eq_some_iff.1 h
    simp
  · rw [if_neg h]
    split
    · simp_all
    · rfl

theorem lexTokens_bang :
    lexTokens ('!' :: rest) acc =
      if rest.head? = some '=' then lexTokens rest.tail (.op .ne :: acc)
      else .error (.bare .bangWithoutEquals) := by
  rw [lexTokens.eq_def]
  simp only [show Text.isWhiteSpace '!' = false by decide, Bool.false_eq_true,
    Char.reduceEq, ↓reduceIte]
  by_cases h : rest.head? = some '='
  · obtain ⟨r, rfl⟩ := List.head?_eq_some_iff.1 h
    simp
  · rw [if_neg h]
    split
    · simp_all
    · rfl

theorem lexTokens_less :
    lexTokens ('<' :: rest) acc =
      if rest.head? = some '=' then lexTokens rest.tail (.op .le :: acc)
      else if rest.head? = some '>' then lexTokens rest.tail (.op .ne :: acc)
      else lexTokens rest (.op .lt :: acc) := by
  rw [lexTokens.eq_def]
  simp only [show Text.isWhiteSpace '<' = false by decide, Bool.false_eq_true,
    Char.reduceEq, ↓reduceIte]
  by_cases h₁ : rest.head? = some '='
  · obtain ⟨r, rfl⟩ := List.head?_eq_some_iff.1 h₁
    simp
  · by_cases h₂ : rest.head? = some '>'
    · obtain ⟨r, rfl⟩ := List.head?_eq_some_iff.1 h₂
      simp
    · rw [if_neg h₁, if_neg h₂]
      split
      · simp_all
      · simp_all
      · rfl

theorem lexTokens_greater :
    lexTokens ('>' :: rest) acc =
      if rest.head? = some '=' then lexTokens rest.tail (.op .ge :: acc)
      else lexTokens rest (.op .gt :: acc) := by
  rw [lexTokens.eq_def]
  simp only [show Text.isWhiteSpace '>' = false by decide, Bool.false_eq_true,
    Char.reduceEq, ↓reduceIte]
  by_cases h : rest.head? = some '='
  · obtain ⟨r, rfl⟩ := List.head?_eq_some_iff.1 h
    simp
  · rw [if_neg h]
    split
    · simp_all
    · rfl

end Step

/-! ## The lexer over symbols -/

section Expand

variable {m : List Char}

theorem expandSyms_char_cons (c : Char) (a : List Sym) :
    expandSyms m (.char c :: a) = c :: expandSyms m a := rfl

/-- A word runs through placeholders: every placeholder character may go on in a word. -/
theorem takeWhile_wordChar (hm : MarkerOk m) (a : List Sym) :
    (expandSyms m a).takeWhile (fun d => !isWordDelimiter d) = expandSyms m (a.takeWhile wordSym) :=
  takeWhile_expandSyms_of_all hm (fun _ hc => by simp [isWordDelimiter_of_mem hc]) a

theorem dropWhile_wordChar (hm : MarkerOk m) (a : List Sym) :
    (expandSyms m a).dropWhile (fun d => !isWordDelimiter d) = expandSyms m (a.dropWhile wordSym) :=
  dropWhile_expandSyms_of_all hm (fun _ hc => by simp [isWordDelimiter_of_mem hc]) a

/-- A word that starts at a symbol which may go on in a word, written with the marker, is the
    word of the symbols written with it. -/
theorem lexTokens_expandSyms_word (hm : MarkerOk m) {s : Sym} (hs : wordSym s = true)
    (rest : List Sym) (acc : List Token) :
    lexTokens (expandSyms m (s :: rest)) acc =
      lexTokens (expandSyms m (rest.dropWhile wordSym))
        (.word (expandSyms m (s :: rest.takeWhile wordSym)) :: acc) := by
  -- the text starts with the symbol's own character or with the marker's first letter
  obtain ⟨c, cs, hcs, hc⟩ :
      ∃ c cs, expandSyms m (s :: rest) = c :: cs ∧ isWordDelimiter c = false := by
    cases s with
    | char c => exact ⟨c, expandSyms m rest, rfl, by simpa [wordSym] using hs⟩
    | slot i =>
      obtain ⟨x, xs, hx, hxm⟩ := placeholder_eq_cons hm i
      exact ⟨x, xs ++ expandSyms m rest, by simp [hx], isWordDelimiter_of_mem (.inl hxm)⟩
  have htake : c :: cs.takeWhile (fun d => !isWordDelimiter d) =
      expandSyms m (s :: rest.takeWhile wordSym) := by
    rw [← List.takeWhile_cons_of_pos (by simp [hc]), ← hcs, takeWhile_wordChar hm,
      List.takeWhile_cons_of_pos hs]
  have hdrop : cs.dropWhile (fun d => !isWordDelimiter d) =
      expandSyms m (rest.dropWhile wordSym) := by
    have h := dropWhile_wordChar hm (s :: rest)
    rwa [hcs, List.dropWhile_cons_of_pos (by simp [hc]), List.dropWhile_cons_of_pos hs] at h
  rw [hcs, lexTokens_word hc, htake, hdrop]

/-- An operator character follows in the text exactly when it follows in the symbols: a
    placeholder starts with a marker letter. -/
theorem head?_expandSyms_eq_some (hm : MarkerOk m) {c : Char} (hc : isWordDelimiter c = true)
    (a : List Sym) : (expandSyms m a).head? = some c ↔ a.head? = some (.char c) := by
  cases a with
  | nil => simp
  | cons s rest =>
    cases s with
    | char d => simp
    | slot i =>
      obtain ⟨x, xs, hx, hxm⟩ := placeholder_eq_cons hm i
      have hxc : x ≠ c := by
        rintro rfl
        rw [isWordDelimiter_of_mem (.inl hxm)] at hc
        cases hc
      simp [hx, hxc]

theorem tail_expandSyms_of_head? {c : Char} {a : List Sym} (h : a.head? = some (.char c)) :
    (expandSyms m a).tail = expandSyms m a.tail := by
  obtain ⟨r, rfl⟩ := List.head?_eq_some_iff.1 h
  rfl

/-- The lexer on a text of symbols written with a marker the guard may choose is the lexer over
    the symbols. -/
theorem lexTokens_expands (hm : MarkerOk m) (a : List Sym) (acc : List SymToken) :
    Expands (List.map (SymToken.expand m))
      (lexTokens (expandSyms m a) (acc.map (SymToken.expand m))) (lexSyms a acc) := by
  have heq : isWordDelimiter '=' = true := by decide
  have hgt : isWordDelimiter '>' = true := by decide
  fun_induction lexSyms a acc with
  | case1 acc => simp [lexTokens_nil, List.map_reverse]
  | case2 acc i rest _ ih => rw [lexTokens_expandSyms_word hm rfl]; exact ih
  | case3 acc c rest hc ih => rw [expandSyms_char_cons, lexTokens_whiteSpace hc]; exact ih
  | case4 acc rest _ ih => rw [expandSyms_char_cons, lexTokens_lparen]; exact ih
  | case5 acc rest _ _ ih => rw [expandSyms_char_cons, lexTokens_rparen]; exact ih
  | case6 acc rest _ _ _ ih => rw [expandSyms_char_cons, lexTokens_comma]; exact ih
  | case7 acc rest h _ _ _ _ ih =>
    rw [expandSyms_char_cons, lexTokens_equals,
      if_pos ((head?_expandSyms_eq_some hm heq rest).2 h), tail_expandSyms_of_head? h]
    exact ih
  | case8 acc rest h _ _ _ _ ih =>
    rw [expandSyms_char_cons, lexTokens_equals,
      if_neg (mt (head?_expandSyms_eq_some hm heq rest).1 h)]
    exact ih
  | case9 acc rest h _ _ _ _ _ ih =>
    rw [expandSyms_char_cons, lexTokens_bang,
      if_pos ((head?_expandSyms_eq_some hm heq rest).2 h), tail_expandSyms_of_head? h]
    exact ih
  | case10 acc rest h _ _ _ _ _ =>
    rw [expandSyms_char_cons, lexTokens_bang,
      if_neg (mt (head?_expandSyms_eq_some hm heq rest).1 h)]
    exact expands_error_none
  | case11 acc rest h _ _ _ _ _ _ ih =>
    rw [expandSyms_char_cons, lexTokens_less,
      if_pos ((head?_expandSyms_eq_some hm heq rest).2 h), tail_expandSyms_of_head? h]
    exact ih
  | case12 acc rest h₁ h₂ _ _ _ _ _ _ ih =>
    rw [expandSyms_char_cons, lexTokens_less,
      if_neg (mt (head?_expandSyms_eq_some hm heq rest).1 h₁),
      if_pos ((head?_expandSyms_eq_some hm hgt rest).2 h₂), tail_expandSyms_of_head? h₂]
    exact ih
  | case13 acc rest h₁ h₂ _ _ _ _ _ _ ih =>
    rw [expandSyms_char_cons, lexTokens_less,
      if_neg (mt (head?_expandSyms_eq_some hm heq rest).1 h₁),
      if_neg (mt (head?_expandSyms_eq_some hm hgt rest).1 h₂)]
    exact ih
  | case14 acc rest h _ _ _ _ _ _ _ ih =>
    rw [expandSyms_char_cons, lexTokens_greater,
      if_pos ((head?_expandSyms_eq_some hm heq rest).2 h), tail_expandSyms_of_head? h]
    exact ih
  | case15 acc rest h _ _ _ _ _ _ _ ih =>
    rw [expandSyms_char_cons, lexTokens_greater,
      if_neg (mt (head?_expandSyms_eq_some hm heq rest).1 h)]
    exact ih
  | case16 acc c rest h₁ h₂ h₃ h₄ h₅ h₆ h₇ h₈ _ ih =>
    -- a character that is none of the above starts a word
    have hw : wordSym (.char c) = true := by
      simp [wordSym, isWordDelimiter, h₁, h₂, h₃, h₄, h₅, h₆, h₇, h₈]
    rw [lexTokens_expandSyms_word hm hw]
    exact ih

/-- The tokens of a guarded clause text are the tokens of its symbols. -/
theorem tokenize_expands (hm : MarkerOk m) (a : List Sym) :
    Expands (List.map (SymToken.expand m)) (tokenize (expandSyms m a)) (lexSyms a []) :=
  lexTokens_expands hm a []

end Expand

/-! ## What the lexer keeps -/

/-- What the lexer keeps of a text `a` read after the tokens `acc` when it ends with the tokens
    `ts`: the placeholders, in order, and only words that were read before or are parts of `a`. -/
def KeepsWords (acc : List SymToken) (a : List Sym) (ts : List SymToken) : Prop :=
  slotsOfTokens ts = slotsOfTokens acc.reverse ++ slotsOf a ∧
    ∀ w ∈ ts.flatMap SymToken.words, w ∈ acc.flatMap SymToken.words ∨ w <:+: a

namespace KeepsWords

variable {acc ts : List SymToken}

/-- Characters read into tokens without words keep what the rest of the text keeps. -/
theorem chars {t : List SymToken} {a b : List Sym} (h : KeepsWords (t ++ acc) b ts)
    (ht : t.flatMap SymToken.words = []) (hab : ∃ cs : List Char, a = cs.map .char ++ b) :
    KeepsWords acc a ts := by
  obtain ⟨cs, rfl⟩ := hab
  have hrev : slotsOfTokens t.reverse = [] := by
    have hnil := List.flatMap_eq_nil_iff.1 ht
    simp only [slotsOfTokens, List.flatMap_eq_nil_iff.2 fun x hx => hnil x (List.mem_reverse.1 hx),
      List.flatMap_nil]
  refine ⟨?_, fun w hw => ?_⟩
  · rw [h.1, List.reverse_append, slotsOfTokens_append, hrev, List.append_nil, slotsOf_append,
      slotsOf_map_char, List.nil_append]
  · rcases h.2 w hw with hw | hw
    · rw [List.flatMap_append, ht, List.nil_append] at hw
      exact .inl hw
    · exact .inr (hw.trans (List.suffix_append _ _).isInfix)

/-- A word read from the text keeps its placeholders and is a part of the text. -/
theorem word {s : Sym} {rest : List Sym}
    (h : KeepsWords (.word (s :: rest.takeWhile wordSym) :: acc) (rest.dropWhile wordSym) ts) :
    KeepsWords acc (s :: rest) ts := by
  have hsplit : s :: rest = (s :: rest.takeWhile wordSym) ++ rest.dropWhile wordSym := by
    rw [List.cons_append, List.takeWhile_append_dropWhile]
  refine ⟨?_, fun w hw => ?_⟩
  · rw [h.1, hsplit, slotsOf_append, List.reverse_cons, slotsOfTokens_append]
    simp [slotsOfTokens, SymToken.words]
  · rw [hsplit]
    rcases h.2 w hw with hw | hw
    · simp only [List.flatMap_cons, SymToken.words, List.singleton_append, List.mem_cons] at hw
      rcases hw with rfl | hw
      · exact .inr (List.prefix_append _ _).isInfix
      · exact .inl hw
    · exact .inr (hw.trans (List.suffix_append _ _).isInfix)

end KeepsWords

/-- An operator of two characters is read from plain characters. -/
theorem chars_of_head? {c d : Char} {rest : List Sym} (h : rest.head? = some (.char d)) :
    ∃ cs : List Char, Sym.char c :: rest = cs.map .char ++ rest.tail := by
  obtain ⟨r, rfl⟩ := List.head?_eq_some_iff.1 h
  exact ⟨[c, d], rfl⟩

/-- The tokens of a text of symbols keep its placeholders, in order, and each word is a part of
    the text. -/
theorem lexSyms_keepsWords {a : List Sym} {acc ts : List SymToken} (h : lexSyms a acc = some ts) :
    KeepsWords acc a ts := by
  fun_induction lexSyms a acc generalizing ts with
  | case1 acc =>
    cases h
    refine ⟨by simp, fun w hw => .inl ?_⟩
    simpa using hw
  | case2 acc i rest _ ih => exact (ih h).word
  | case3 acc c rest _ ih => exact (ih h).chars (t := []) rfl ⟨[c], rfl⟩
  | case4 acc rest _ ih => exact (ih h).chars (t := [.lparen]) rfl ⟨['('], rfl⟩
  | case5 acc rest _ _ ih => exact (ih h).chars (t := [.rparen]) rfl ⟨[')'], rfl⟩
  | case6 acc rest _ _ _ ih => exact (ih h).chars (t := [.comma]) rfl ⟨[','], rfl⟩
  | case7 acc rest hd _ _ _ _ ih => exact (ih h).chars (t := [.op .eq]) rfl (chars_of_head? hd)
  | case8 acc rest _ _ _ _ _ ih => exact (ih h).chars (t := [.op .eq]) rfl ⟨['='], rfl⟩
  | case9 acc rest hd _ _ _ _ _ ih => exact (ih h).chars (t := [.op .ne]) rfl (chars_of_head? hd)
  | case10 => cases h
  | case11 acc rest hd _ _ _ _ _ _ ih =>
    exact (ih h).chars (t := [.op .le]) rfl (chars_of_head? hd)
  | case12 acc rest _ hd _ _ _ _ _ _ ih =>
    exact (ih h).chars (t := [.op .ne]) rfl (chars_of_head? hd)
  | case13 acc rest _ _ _ _ _ _ _ _ ih => exact (ih h).chars (t := [.op .lt]) rfl ⟨['<'], rfl⟩
  | case14 acc rest hd _ _ _ _ _ _ _ ih =>
    exact (ih h).chars (t := [.op .ge]) rfl (chars_of_head? hd)
  | case15 acc rest _ _ _ _ _ _ _ _ ih => exact (ih h).chars (t := [.op .gt]) rfl ⟨['>'], rfl⟩
  | case16 acc c rest _ _ _ _ _ _ _ _ _ ih => exact (ih h).word

end FilterQuery.Query

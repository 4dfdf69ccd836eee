import FilterQuery.Proofs.WrittenLiterals
import FilterQuery.Query.Render
import FilterQuery.Proofs.NormalForm

/-!
# The written form as the guard reads it

`Predicate.render` writes a tree as filter text. The guard reads that text as *chunks* (see
`Segments`): each character outside quotes, and each quoted span whole. The chunks of the
written form are known in advance (`Predicate.chunks`): a text literal is one span between
single quotes, a field name that cannot be written plain is one span between backticks, and
every other character is its own chunk, none of them a quote. So the guard replaces exactly
those spans, numbering them left to right, and the guarded text of each leaf is its words with
placeholders in place of the spans (`guardedText_compare` and the others).

The guard needs a marker, a word of at most `maxLen` letters that does not occur in the text.
Every word that occurs starts at its own character, so a text with fewer characters than there
are words of `maxLen` letters leaves one free (`freeMarker?_ne_none`).

## Key results
- `Predicate.flatMap_text_chunks`: the chunks spell the written form
- `Predicate.valid_chunks`: the guard reads them as they are, when the leaves read back
- `guard_render`: the written form is guarded as its chunks read, with a marker that does not
  touch it
- `Guarded.Holds.placed`: a literal sits in the guarded text as `Literal.read` needs it
-/

namespace FilterQuery.Query

/-! ## The written form in chunks -/

/-- Characters written outside every span. -/
def plainChunks (s : String) : List Chunk := s.toList.map .plain

/-- Chunk lists joined by a separator, the way `joinWith` joins texts. -/
def joinChunks (sep : List Chunk) : List (List Chunk) → List Chunk
  | [] => []
  | [x] => x
  | x :: rest => x ++ sep ++ joinChunks sep rest

/-- A field name as written: its characters, or one span between backticks. -/
def fieldChunks (f : String) : List Chunk :=
  if isPlainField f.toList then f.toList.map .plain
  else [.quoted (quotedSpan backtick f.toList)]

/-- A literal as written: a text is one span between single quotes. -/
def Literal.chunks : Literal → List Chunk
  | .text s => [.quoted (quotedSpan '\'' s.toList)]
  | v => plainChunks v.render

namespace Predicate

/-- A leaf as written, in chunks. -/
def leafChunks : Predicate → List Chunk
  | .compare f op v => fieldChunks f ++ plainChunks (" " ++ op.symbol ++ " ") ++ v.chunks
  | .between f lo hi n =>
    fieldChunks f ++ plainChunks (" " ++ notWord n ++ "BETWEEN ") ++ lo.chunks ++
      plainChunks " AND " ++ hi.chunks
  | .member f vs n =>
    fieldChunks f ++ plainChunks (" " ++ notWord n ++ "IN (") ++
      joinChunks (plainChunks ", ") (vs.map Literal.chunks) ++ plainChunks ")"
  | .like f pat n => fieldChunks f ++ plainChunks (" " ++ notWord n ++ "LIKE ") ++ (Literal.text pat).chunks
  | .isNull f n => fieldChunks f ++ plainChunks (" IS " ++ notWord n ++ "NULL")
  | _ => []

mutual

/-- A predicate as written, in chunks: the reading of its text by the guard. -/
def chunks : Predicate → List Chunk
  | .const true => plainChunks "1"
  | .const false => plainChunks "0"
  | .junction conn children =>
    joinChunks (plainChunks (" " ++ conn.keyword ++ " ")) (childChunks children)
  | .negation child => plainChunks "NOT (" ++ chunks child ++ plainChunks ")"
  | p => p.leafChunks

/-- The chunks of a junction's children, a child junction in parentheses. -/
def childChunks : List Predicate → List (List Chunk)
  | [] => []
  | p :: rest =>
    (match p with
      | .junction _ _ => plainChunks "(" ++ chunks p ++ plainChunks ")"
      | _ => chunks p) :: childChunks rest

end

end Predicate

/-! ## The chunks spell the written form -/

@[simp] theorem flatMap_text_plainChunks (s : String) :
    (plainChunks s).flatMap Chunk.text = s.toList :=
  flatMap_text_map_plain s.toList

theorem joinWith_cons_cons (sep s t : String) (ss : List String) :
    joinWith sep (s :: t :: ss) = s ++ sep ++ joinWith sep (t :: ss) := rfl

theorem joinChunks_cons_cons (sep x y : List Chunk) (xs : List (List Chunk)) :
    joinChunks sep (x :: y :: xs) = x ++ sep ++ joinChunks sep (y :: xs) := rfl

theorem flatMap_text_joinChunks (sep : List Chunk) (sep' : String)
    (hsep : sep.flatMap Chunk.text = sep'.toList) :
    ∀ (xs : List (List Chunk)) (ss : List String), xs.map (List.flatMap Chunk.text) = ss.map String.toList →
      (joinChunks sep xs).flatMap Chunk.text = (joinWith sep' ss).toList
  | [], [], _ => rfl
  | [x], [s], h => by simpa [joinChunks, joinWith] using h
  | x :: y :: xs, s :: t :: ss, h => by
    simp only [List.map_cons, List.cons.injEq] at h
    rw [joinChunks_cons_cons, joinWith_cons_cons, List.flatMap_append, List.flatMap_append, hsep,
      h.1, flatMap_text_joinChunks sep sep' hsep (y :: xs) (t :: ss) (by simp [h.2.1, h.2.2])]
    simp
  | [], _ :: _, h => by simp at h
  | _ :: _, [], h => by simp at h
  | [_], _ :: _ :: _, h => by simp at h
  | _ :: _ :: _, [_], h => by simp at h

theorem flatMap_text_fieldChunks (f : String) :
    (fieldChunks f).flatMap Chunk.text = (renderField f).toList := by
  unfold fieldChunks renderField
  split
  · exact flatMap_text_map_plain _
  · simp [Chunk.text, quotedSpan]

theorem Literal.flatMap_text_chunks (v : Literal) : v.chunks.flatMap Chunk.text = v.render.toList := by
  cases v with
  | text s => simp [Literal.chunks, Literal.render, Chunk.text, quotedSpan]
  | _ => exact flatMap_text_plainChunks _

namespace Predicate

theorem flatMap_text_leafChunks (p : Predicate) :
    p.leafChunks.flatMap Chunk.text = p.renderLeaf.toList := by
  cases p with
  | compare f op v =>
    simp [leafChunks, renderLeaf, flatMap_text_fieldChunks, Literal.flatMap_text_chunks]
  | between f lo hi n =>
    simp [leafChunks, renderLeaf, flatMap_text_fieldChunks, Literal.flatMap_text_chunks]
  | member f vs n =>
    have hjoin := flatMap_text_joinChunks (plainChunks ", ") ", " (flatMap_text_plainChunks _)
      (vs.map Literal.chunks) (vs.map Literal.render) (by simp [Literal.flatMap_text_chunks])
    simp [leafChunks, renderLeaf, flatMap_text_fieldChunks, hjoin]
  | like f pat n =>
    simp [leafChunks, renderLeaf, flatMap_text_fieldChunks, Literal.flatMap_text_chunks]
  | isNull f n => simp [leafChunks, renderLeaf, flatMap_text_fieldChunks]
  | const b => rfl
  | junction conn cs => rfl
  | negation c => rfl

mutual

/-- The chunks of a predicate spell its written form. -/
theorem flatMap_text_chunks : ∀ p : Predicate, p.chunks.flatMap Chunk.text = (render p).toList
  | .const true => rfl
  | .const false => rfl
  | .junction conn cs => by
    rw [chunks, render]
    exact flatMap_text_joinChunks _ _ (flatMap_text_plainChunks _) _ _ (flatMap_text_childChunks cs)
  | .negation c => by
    simp [chunks, render, flatMap_text_chunks c]
  | .compare f op v => flatMap_text_leafChunks (.compare f op v)
  | .between f lo hi n => flatMap_text_leafChunks (.between f lo hi n)
  | .member f vs n => flatMap_text_leafChunks (.member f vs n)
  | .like f pat n => flatMap_text_leafChunks (.like f pat n)
  | .isNull f n => flatMap_text_leafChunks (.isNull f n)

theorem flatMap_text_childChunks : ∀ cs : List Predicate,
    (childChunks cs).map (List.flatMap Chunk.text) = (renderChildren cs).map String.toList
  | [] => rfl
  | p :: rest => by
    cases p with
    | junction conn cs =>
      simp [childChunks, renderChildren, flatMap_text_chunks (.junction conn cs),
        flatMap_text_childChunks rest]
    | _ =>
      simp only [childChunks, renderChildren, List.map_cons, flatMap_text_childChunks rest]
      rw [flatMap_text_chunks]

end

end Predicate

/-! ## The guarded text of the written form -/

@[simp] theorem spansOf_append (xs ys : List Chunk) :
    spansOf (xs ++ ys) = spansOf xs ++ spansOf ys :=
  List.filterMap_append

@[simp] theorem guardedText_plainChunks (m : List Char) (n : Nat) (s : String) :
    guardedText m n (plainChunks s) = s.toList :=
  guardedText_map_plain m n s.toList

@[simp] theorem spansOf_plainChunks (s : String) : spansOf (plainChunks s) = [] :=
  spansOf_map_plain s.toList

/-- The word a field name is written as in a guarded text: its characters, or the placeholder
    of its span. -/
def fieldWord (marker : List Char) (index : Nat) (f : String) : List Char :=
  if isPlainField f.toList then f.toList else placeholder marker index

/-- The spans a field name is written with: one when it is quoted. -/
def fieldSpans (f : String) : Nat := if isPlainField f.toList then 0 else 1

@[simp] theorem guardedText_fieldChunks (m : List Char) (n : Nat) (f : String) :
    guardedText m n (fieldChunks f) = fieldWord m n f := by
  unfold fieldChunks fieldWord
  split <;> simp [guardedText]

@[simp] theorem length_spansOf_fieldChunks (f : String) :
    (spansOf (fieldChunks f)).length = fieldSpans f := by
  unfold fieldChunks fieldSpans
  split <;> simp

/-- The spans a literal is written with: one for a text. -/
def Literal.spanCount : Literal → Nat
  | .text _ => 1
  | _ => 0

@[simp] theorem Literal.guardedText_chunks (m : List Char) (n : Nat) (v : Literal) :
    guardedText m n v.chunks = joinWords (v.words m n) := by
  cases v with
  | text s => simp [Literal.chunks, Literal.words, guardedText, joinWords]
  | _ => simp [Literal.chunks, Literal.joinWords_words]

@[simp] theorem Literal.length_spansOf_chunks (v : Literal) :
    (spansOf v.chunks).length = v.spanCount := by
  cases v <;> simp [Literal.chunks, Literal.spanCount]

/-- The values of an `IN` list as written in a guarded text, the span of the first numbered
    `n`: their words, each value after the first behind a comma and a blank. -/
def Literal.listText (m : List Char) : Nat → List Literal → List Char
  | _, [] => []
  | n, [v] => joinWords (v.words m n)
  | n, v :: vs => joinWords (v.words m n) ++ ',' :: ' ' :: Literal.listText m (n + v.spanCount) vs

theorem guardedText_joinChunks_values (m : List Char) :
    ∀ (n : Nat) (vs : List Literal),
      guardedText m n (joinChunks (plainChunks ", ") (vs.map Literal.chunks)) = Literal.listText m n vs
  | _, [] => rfl
  | n, [v] => by simp [joinChunks, Literal.listText]
  | n, v :: w :: vs => by
    rw [List.map_cons, List.map_cons, joinChunks_cons_cons, ← List.map_cons,
      guardedText_append, guardedText_append, guardedText_joinChunks_values]
    simp [Literal.listText]

theorem joinWords_cons_cons (w v : List Char) (ws : List (List Char)) :
    joinWords (w :: v :: ws) = w ++ ' ' :: joinWords (v :: ws) := rfl

theorem joinWords_append {ws vs : List (List Char)} (hws : ws ≠ []) (hvs : vs ≠ []) :
    joinWords (ws ++ vs) = joinWords ws ++ ' ' :: joinWords vs := by
  induction ws with
  | nil => exact absurd rfl hws
  | cons w ws ih =>
    cases ws with
    | nil =>
      obtain ⟨v, vs', rfl⟩ := List.exists_cons_of_ne_nil hvs
      rfl
    | cons w' ws =>
      rw [List.cons_append, List.cons_append, joinWords_cons_cons, ← List.cons_append,
        ih (List.cons_ne_nil _ _), joinWords_cons_cons]
      simp

/-- The word `NOT` when negated. -/
def notWords (negated : Bool) : List (List Char) := if negated then ["NOT".toList] else []

/-! ## The written leaves -/

section Leaves

variable (m : List Char) (n : Nat)

theorem guardedText_compare (f : String) (op : CompareOp) (v : Literal) :
    guardedText m n (Predicate.compare f op v).chunks =
      fieldWord m n f ++ ' ' :: (op.symbol.toList ++ ' ' :: joinWords (v.words m (n + fieldSpans f))) := by
  simp [Predicate.chunks, Predicate.leafChunks, guardedText_append]

theorem guardedText_between (f : String) (lo hi : Literal) (neg : Bool) :
    guardedText m n (Predicate.between f lo hi neg).chunks =
      joinWords (fieldWord m n f :: notWords neg) ++ ' ' :: ("BETWEEN".toList ++ ' ' ::
        (joinWords (lo.words m (n + fieldSpans f)) ++ ' ' :: ("AND".toList ++ ' ' ::
          joinWords (hi.words m (n + fieldSpans f + lo.spanCount))))) := by
  cases neg <;> simp [Predicate.chunks, Predicate.leafChunks, guardedText_append, notWords, notWord, joinWords]

theorem guardedText_member (f : String) (vs : List Literal) (neg : Bool) :
    guardedText m n (Predicate.member f vs neg).chunks =
      joinWords (fieldWord m n f :: notWords neg ++ ["IN".toList]) ++ ' ' :: '(' ::
        (Literal.listText m (n + fieldSpans f) vs ++ [')']) := by
  cases neg <;> simp [Predicate.chunks, Predicate.leafChunks, guardedText_append, notWords, notWord,
    joinWords, guardedText_joinChunks_values]

theorem guardedText_like (f : String) (pat : String) (neg : Bool) :
    guardedText m n (Predicate.like f pat neg).chunks =
      joinWords (fieldWord m n f :: notWords neg ++ ["LIKE".toList, placeholder m (n + fieldSpans f)]) := by
  cases neg <;> simp [Predicate.chunks, Predicate.leafChunks, guardedText_append, notWords, notWord,
    joinWords, Literal.words]

theorem guardedText_isNull (f : String) (neg : Bool) :
    guardedText m n (Predicate.isNull f neg).chunks =
      joinWords (fieldWord m n f :: "IS".toList :: notWords neg ++ ["NULL".toList]) := by
  cases neg <;> simp [Predicate.chunks, Predicate.leafChunks, guardedText_append, notWords, notWord,
    joinWords]

end Leaves

/-! ## Field names -/

/-- No white space character is a letter or a digit. -/
theorem isWhiteSpace_eq_false_of_isAlphanumeric {c : Char} (h : Text.isAlphanumeric c = true) :
    Text.isWhiteSpace c = false := by
  -- the white space beyond ASCII is in neither table
  have htables : ∀ n ∈ [0x85, 0xA0, 0x1680, 0x2000, 0x2001, 0x2002, 0x2003, 0x2004, 0x2005,
      0x2006, 0x2007, 0x2008, 0x2009, 0x200A, 0x2028, 0x2029, 0x202F, 0x205F, 0x3000],
      Text.alphabetic17Table.contains n = false ∧ Text.numeric17Table.contains n = false := by
    decide +kernel
  rw [Bool.eq_false_iff]
  intro hws
  unfold Text.isAlphanumeric Text.isAlphabetic Text.isNumeric at h
  by_cases ha : c.toNat < 0x80
  · rw [if_pos ha, if_pos ha] at h
    simp only [Text.isWhiteSpace, Bool.or_eq_true, Bool.and_eq_true, decide_eq_true_eq,
      beq_iff_eq] at hws
    simp only [Char.isAlpha, Char.isUpper, Char.isLower, Char.isDigit, Bool.or_eq_true,
      Bool.and_eq_true, decide_eq_true_eq, UInt32.le_iff_toNat_le] at h
    simp at h
    have hval : c.toNat = c.val.toNat := rfl
    omega
  · rw [if_neg ha, if_neg ha] at h
    have hmem : c.toNat ∈ [0x85, 0xA0, 0x1680, 0x2000, 0x2001, 0x2002, 0x2003, 0x2004, 0x2005,
        0x2006, 0x2007, 0x2008, 0x2009, 0x200A, 0x2028, 0x2029, 0x202F, 0x205F, 0x3000] := by
      simp only [Text.isWhiteSpace, Bool.or_eq_true, Bool.and_eq_true, decide_eq_true_eq,
        beq_iff_eq] at hws
      simp only [List.mem_cons, List.not_mem_nil, or_false]
      omega
    obtain ⟨h1, h2⟩ := htables _ hmem
    rw [h1, h2] at h
    cases h

theorem isWordDelimiter_eq_false_of_isAlphanumeric {c : Char} (h : Text.isAlphanumeric c = true) :
    isWordDelimiter c = false := by
  have hne : c ≠ '(' ∧ c ≠ ')' ∧ c ≠ ',' ∧ c ≠ '=' ∧ c ≠ '!' ∧ c ≠ '<' ∧ c ≠ '>' := by
    refine ⟨?_, ?_, ?_, ?_, ?_, ?_, ?_⟩ <;> rintro rfl <;> exact absurd h (by decide)
  simp [isWordDelimiter, isWhiteSpace_eq_false_of_isAlphanumeric h, hne]

/-- A field name that reads back from its written form: it is not empty, and written plain it is
    none of the keywords the splitter looks for. -/
def FieldRereads (f : String) : Prop :=
  f ≠ "" ∧ (isPlainField f.toList = true → ∀ k ∈ ["and", "or", "between"], Text.isWord f.toList k = false)

/-- The word a field name that reads back is written as is a clause word. -/
theorem clauseWord_fieldWord {m : List Char} (hm : ∀ c ∈ m, c ∈ markerAlphabet) (n : Nat)
    {f : String} (hf : FieldRereads f) : ClauseWord (fieldWord m n f) := by
  unfold fieldWord
  split
  · rename_i hplain
    refine ⟨by simpa using hf.1, fun c hc => ?_, hf.2 hplain⟩
    obtain ⟨d, ds, hds⟩ := List.exists_cons_of_ne_nil (by simpa using hf.1 : f.toList ≠ [])
    rw [hds] at hplain hc
    simp only [isPlainField, Bool.and_eq_true, List.all_eq_true, Bool.or_eq_true,
      decide_eq_true_eq] at hplain
    rcases hplain.2 c hc with ((h | rfl) | rfl) | rfl
    · exact isWordDelimiter_eq_false_of_isAlphanumeric h
    all_goals decide
  · exact clauseWord_placeholder hm n

/-! ## Leaves that read back -/

/-- A leaf that reads back from its written form: its field and its literals read back, and a
    comparison with `NULL` is an ordering (an equality with `NULL` reads as a test for null). -/
def Predicate.Rereads : Predicate → Prop
  | .compare f op v => FieldRereads f ∧ v.Rereadable ∧ (v.isNull = true → op.isOrdering = true)
  | .between f lo hi _ => FieldRereads f ∧ lo.Rereadable ∧ hi.Rereadable
  | .member f vs _ => FieldRereads f ∧ ∀ v ∈ vs, v.Rereadable
  | .like f _ _ => FieldRereads f
  | .isNull f _ => FieldRereads f
  | _ => True

/-! ## The chunks are read by the guard -/

section Valid

/-- The quote characters a filter text is read with by default. -/
theorem default_quotes : ({} : ParseOptions).quotes = ['\'', '"', backtick] := rfl

theorem not_quote_of_isDigit {c : Char} (h : c.isDigit = true) : c ∉ ({} : ParseOptions).quotes := by
  rw [default_quotes]
  intro hq
  simp only [List.mem_cons, List.not_mem_nil, or_false] at hq
  rcases hq with rfl | rfl | rfl <;> exact absurd h (by decide)

theorem valid_plainChunks {s : String} (h : ∀ c ∈ s.toList, c ∉ ({} : ParseOptions).quotes) :
    ∀ x ∈ plainChunks s, x.Valid ({} : ParseOptions).quotes := by
  intro x hx
  obtain ⟨c, hc, rfl⟩ := List.mem_map.1 hx
  exact h c hc

theorem valid_quotedSpan {q : Char} (hq : q ∈ ({} : ParseOptions).quotes) (s : List Char) :
    Chunk.Valid ({} : ParseOptions).quotes (.quoted (quotedSpan q s)) :=
  ⟨q, hq, by rw [default_quotes] at hq; simp at hq; rcases hq with rfl | rfl | rfl <;> decide,
    escapeWith q s, spanBody_escapeWith q s, by simp [quotedSpan]⟩

theorem not_quote_of_isNumberChar {c : Char} (h : isNumberChar c = true) :
    c ∉ ({} : ParseOptions).quotes := by
  simp only [isNumberChar, Bool.or_eq_true, decide_eq_true_eq] at h
  rcases h with ((((h | rfl) | rfl) | rfl) | rfl) | rfl
  · exact not_quote_of_isDigit h
  all_goals decide

theorem Literal.valid_chunks {v : Literal} (hv : v.Rereadable) :
    ∀ x ∈ v.chunks, x.Valid ({} : ParseOptions).quotes := by
  cases v with
  | text s =>
    simp only [Literal.chunks, List.mem_singleton, forall_eq]
    exact valid_quotedSpan (by decide) _
  | null => exact valid_plainChunks (by simp [Literal.render])
  | bool b => cases b <;> exact valid_plainChunks (by simp [Literal.render])
  | int i =>
    refine valid_plainChunks fun c hc => ?_
    simp only [Literal.render, Binary64.toList_toString_int, List.mem_append] at hc
    rcases hc with hc | hc
    · split at hc
      · rw [List.mem_singleton.1 hc]
        decide
      · cases hc
    · exact not_quote_of_isDigit (Nat.isDigit_of_mem_toDigits (by decide) (by decide) hc)
  | float x =>
    exact valid_plainChunks fun c hc => not_quote_of_isNumberChar ((Binary64.toText_chars hv).1 c hc)
  | date t =>
    refine valid_plainChunks fun c hc => ?_
    simp only [Literal.render, DateTime.toText, String.toList_append, List.mem_append] at hc
    rcases hc with ((hc | hc) | hc) | hc
    · rcases DateTime.mem_dateText hc with h | rfl | rfl
      · exact not_quote_of_isDigit h
      all_goals decide
    · simp at hc
      rw [hc]
      decide
    · rcases DateTime.mem_clockText hc with h | rfl
      · exact not_quote_of_isDigit h
      · decide
    · rcases DateTime.mem_fractionText hc with h | rfl
      · exact not_quote_of_isDigit h
      · decide

theorem valid_fieldChunks (f : String) : ∀ x ∈ fieldChunks f, x.Valid ({} : ParseOptions).quotes := by
  unfold fieldChunks
  split
  · rename_i hplain
    intro x hx
    obtain ⟨c, hc, rfl⟩ := List.mem_map.1 hx
    show c ∉ _
    obtain ⟨d, ds, hds⟩ := List.exists_cons_of_ne_nil (List.ne_nil_of_mem hc)
    rw [hds] at hplain hc
    simp only [isPlainField, Bool.and_eq_true, List.all_eq_true, Bool.or_eq_true,
      decide_eq_true_eq] at hplain
    rcases hplain.2 c hc with ((h | rfl) | rfl) | rfl
    · rw [default_quotes]
      intro hq
      simp only [List.mem_cons, List.not_mem_nil, or_false] at hq
      rcases hq with rfl | rfl | rfl <;> exact absurd h (by decide)
    all_goals decide
  · simp only [List.mem_singleton, forall_eq]
    exact valid_quotedSpan (by decide) _

theorem mem_joinChunks {sep : List Chunk} {y : Chunk} :
    ∀ {xs : List (List Chunk)}, y ∈ joinChunks sep xs → y ∈ sep ∨ ∃ x ∈ xs, y ∈ x
  | [], h => by simp [joinChunks] at h
  | [x], h => .inr ⟨x, List.mem_singleton_self x, h⟩
  | x :: x' :: xs, h => by
    rw [joinChunks_cons_cons, List.mem_append, List.mem_append] at h
    rcases h with (h | h) | h
    · exact .inr ⟨x, List.mem_cons_self, h⟩
    · exact .inl h
    · rcases mem_joinChunks h with h | ⟨z, hz, hy⟩
      · exact .inl h
      · exact .inr ⟨z, List.mem_cons_of_mem x hz, hy⟩

theorem Predicate.valid_leafChunks {p : Predicate} (hp : p.Rereads) :
    ∀ x ∈ p.leafChunks, x.Valid ({} : ParseOptions).quotes := by
  intro x hx
  cases p with
  | compare f op v =>
    simp only [leafChunks, List.mem_append] at hx
    rcases hx with (hx | hx) | hx
    · exact valid_fieldChunks f x hx
    · exact valid_plainChunks (by cases op <;> simp [CompareOp.symbol]) x hx
    · exact Literal.valid_chunks hp.2.1 x hx
  | between f lo hi neg =>
    simp only [leafChunks, List.mem_append] at hx
    rcases hx with ((((hx | hx) | hx) | hx) | hx)
    · exact valid_fieldChunks f x hx
    · exact valid_plainChunks (by cases neg <;> simp [notWord]) x hx
    · exact Literal.valid_chunks hp.2.1 x hx
    · exact valid_plainChunks (by simp) x hx
    · exact Literal.valid_chunks hp.2.2 x hx
  | member f vs neg =>
    simp only [leafChunks, List.mem_append] at hx
    rcases hx with (((hx | hx) | hx) | hx)
    · exact valid_fieldChunks f x hx
    · exact valid_plainChunks (by cases neg <;> simp [notWord]) x hx
    · rcases mem_joinChunks hx with hx | ⟨y, hy, hx⟩
      · exact valid_plainChunks (by simp) x hx
      · obtain ⟨v, hv, rfl⟩ := List.mem_map.1 hy
        exact Literal.valid_chunks (hp.2 v hv) x hx
    · exact valid_plainChunks (by simp) x hx
  | like f pat neg =>
    simp only [leafChunks, List.mem_append] at hx
    rcases hx with ((hx | hx) | hx)
    · exact valid_fieldChunks f x hx
    · exact valid_plainChunks (by cases neg <;> simp [notWord]) x hx
    · exact Literal.valid_chunks (v := .text pat) trivial x hx
  | isNull f neg =>
    simp only [leafChunks, List.mem_append] at hx
    rcases hx with hx | hx
    · exact valid_fieldChunks f x hx
    · exact valid_plainChunks (by cases neg <;> simp [notWord]) x hx
  | const b => simp [leafChunks] at hx
  | junction conn cs => simp [leafChunks] at hx
  | negation c => simp [leafChunks] at hx

mutual

/-- The chunks of a predicate whose leaves read back are read by the guard as they are. -/
theorem Predicate.valid_chunks :
    ∀ t : Predicate, (∀ q ∈ t.leaves, q.Rereads) → ∀ x ∈ t.chunks, x.Valid ({} : ParseOptions).quotes
  | .junction conn cs, h, x, hx => by
    rw [Predicate.chunks] at hx
    rcases mem_joinChunks hx with hx | ⟨y, hy, hx⟩
    · exact valid_plainChunks (by cases conn <;> simp [Connective.keyword]) x hx
    · exact Predicate.valid_childChunks cs (by simpa using h) y hy x hx
  | .negation c, h, x, hx => by
    simp only [Predicate.chunks, List.mem_append] at hx
    rcases hx with (hx | hx) | hx
    · exact valid_plainChunks (by simp) x hx
    · exact Predicate.valid_chunks c (by simpa using h) x hx
    · exact valid_plainChunks (by simp) x hx
  | .const true, _, x, hx => valid_plainChunks (by simp) x hx
  | .const false, _, x, hx => valid_plainChunks (by simp) x hx
  | .compare f op v, h, x, hx => Predicate.valid_leafChunks (h _ (by simp [Predicate.leaves])) x hx
  | .between f lo hi n, h, x, hx => Predicate.valid_leafChunks (h _ (by simp [Predicate.leaves])) x hx
  | .member f vs n, h, x, hx => Predicate.valid_leafChunks (h _ (by simp [Predicate.leaves])) x hx
  | .like f pat n, h, x, hx => Predicate.valid_leafChunks (h _ (by simp [Predicate.leaves])) x hx
  | .isNull f n, h, x, hx => Predicate.valid_leafChunks (h _ (by simp [Predicate.leaves])) x hx

theorem Predicate.valid_childChunks :
    ∀ cs : List Predicate, (∀ q ∈ Predicate.leavesAll cs, q.Rereads) →
      ∀ xs ∈ Predicate.childChunks cs, ∀ x ∈ xs, x.Valid ({} : ParseOptions).quotes
  | [], _, xs, hxs, _, _ => by simp [Predicate.childChunks] at hxs
  | p :: rest, h, xs, hxs, x, hx => by
    simp only [Predicate.leavesAll_cons, List.mem_append] at h
    have hrest := Predicate.valid_childChunks rest (fun q hq => h q (.inr hq))
    cases p with
    | junction conn cs =>
      simp only [Predicate.childChunks, List.mem_cons] at hxs
      rcases hxs with rfl | hxs
      · simp only [List.mem_append] at hx
        rcases hx with (hx | hx) | hx
        · exact valid_plainChunks (by simp) x hx
        · exact Predicate.valid_chunks (.junction conn cs) (fun q hq => h q (.inl hq)) x hx
        · exact valid_plainChunks (by simp) x hx
      · exact hrest xs hxs x hx
    | _ =>
      simp only [Predicate.childChunks, List.mem_cons] at hxs
      rcases hxs with rfl | hxs
      · exact Predicate.valid_chunks _ (fun q hq => h q (.inl hq)) x hx
      · exact hrest xs hxs x hx

end

end Valid

/-! ## The marker of a short text -/

theorem length_markerWords (n : Nat) : (markerWords n).length = 26 ^ n := by
  rw [← map_odometerWord_odometerStates, List.length_map, length_odometerStates, Nat.pow_eq]

/-- A word of a text is one of the text's windows of its length. -/
theorem mem_windows_of_infix {w text : List Char} (hw : w ≠ []) (h : w <:+: text) :
    w ∈ (List.range text.length).map fun i => (text.drop i).take w.length := by
  obtain ⟨s, t, rfl⟩ := h
  refine List.mem_map.2 ⟨s.length, List.mem_range.2 ?_, ?_⟩
  · have := List.length_pos_iff.2 hw
    simp only [List.length_append]
    omega
  · simp [List.drop_left']

/-- A text with fewer characters than there are words of `maxLen` letters leaves one of them
    free: each word that occurs starts at its own character. -/
theorem freeMarker?_ne_none {text : List Char} {maxLen : Nat} (hpos : 0 < maxLen)
    (h : text.length < 26 ^ maxLen) : freeMarker? text maxLen ≠ none := by
  intro hnone
  have hall := freeMarker?_eq_none_iff.1 hnone
  have hsub : markerWords maxLen ⊆
      (List.range text.length).map fun i => (text.drop i).take maxLen := by
    intro w hw
    obtain ⟨hlen, hletters⟩ := mem_markerWords hw
    have hne : w ≠ [] := by
      rintro rfl
      simp at hlen
      omega
    have := mem_windows_of_infix hne (hall w hletters (by omega) (by omega))
    rwa [hlen] at this
  have hnodup : (markerWords maxLen).Nodup := (markerWords_pairwise maxLen).imp ne_of_lt
  have hle := (List.subperm_of_subset hnodup hsub).length_le
  rw [length_markerWords, List.length_map, List.length_range] at hle
  omega

/-! ## Guarding the written form -/

/-- What the guard leaves of a text: a marker of letters, no originals without a marker, and
    span indices that fit in 64 bits. -/
structure Guarded.Fits (g : Guarded) : Prop where
  letters : ∀ c ∈ g.marker, c ∈ markerAlphabet
  originals_nil : g.marker = [] → g.originals = []
  length_originals : g.originals.length ≤ 2 ^ 64

/-- A text with a reading, of fewer characters than there are words of `maxLen` letters and than
    there are 64-bit indices, is guarded as it reads: the guarded text of the reading, its
    spans as originals, and a marker that does not touch the text. -/
theorem guard_of_segments {text quotes : List Char} {chunks : List Chunk} {maxLen : Nat}
    (hseg : Segments quotes text chunks) (hlen : text.length < 26 ^ maxLen)
    (h64 : text.length ≤ 2 ^ 64) :
    ∃ g, guard text quotes maxLen = .ok g ∧ g.text = guardedText g.marker 0 chunks ∧
      g.originals = spansOf chunks ∧ g.Fits ∧ g.Untouched text := by
  unfold guard
  split
  · -- no quote: every chunk is a character, and nothing is replaced
    rename_i hnone
    have hspans : spansOf chunks = [] := by
      rw [List.eq_nil_iff_forall_not_mem]
      intro s hs
      obtain ⟨x, hx, hxs⟩ := List.mem_filterMap.1 hs
      cases x with
      | plain c => cases hxs
      | quoted s' =>
        cases hxs
        obtain ⟨q, hq, -, body, -, rfl⟩ := hseg.1 _ hx
        have hmem : q ∈ text := by
          rw [hseg.2]
          exact List.mem_flatMap.2 ⟨_, hx, by simp [Chunk.text]⟩
        simp only [Bool.not_eq_true', List.any_eq_false] at hnone
        exact hnone q hmem (by simpa using hq)
    refine ⟨_, rfl, ?_, hspans.symm, ⟨by simp, fun _ => rfl, by simp⟩, .inl rfl⟩
    rw [guardedText_of_spansOf_eq_nil hspans, ← hseg.2]
  · rename_i hquote
    have hne : text ≠ [] := by
      rintro rfl
      simp at hquote
    -- a text with a character needs a marker of one letter at least
    have hpos : 0 < maxLen := by
      rcases Nat.eq_zero_or_pos maxLen with h0 | h0
      · subst h0
        have := List.length_pos_iff.2 hne
        rw [Nat.pow_zero] at hlen
        omega
      · exact h0
    obtain ⟨m, hm⟩ := Option.ne_none_iff_exists'.1 (freeMarker?_ne_none hpos hlen)
    obtain ⟨hmne, hletters, hfree⟩ := freeMarker?_spec hm
    have hscan : scanSpans quotes m text .outside [] [] = .ok (guardedText m 0 chunks, spansOf chunks) := by
      have := @scanSpans_segments _ m _ _ hseg [] [] []
      rw [List.append_nil] at this
      rw [this]
      simp [scanSpans]
    refine ⟨⟨guardedText m 0 chunks, m, spansOf chunks⟩, ?_, rfl, rfl,
      ⟨hletters, fun h => absurd h hmne, ?_⟩, .inr hfree⟩
    · simp [hm, hscan]
    · exact (length_spansOf_le hseg.1).trans (hseg.2 ▸ h64)

/-- The written form of a tree whose leaves read back, short enough, is guarded as its chunks
    read. -/
theorem guard_render {t : Predicate} (ht : ∀ q ∈ t.leaves, q.Rereads) {maxLen : Nat}
    (hlen : t.render.length < 26 ^ maxLen) (h64 : t.render.length ≤ 2 ^ 64) :
    ∃ g, guard t.render.toList ({} : ParseOptions).quotes maxLen = .ok g ∧
      g.text = guardedText g.marker 0 t.chunks ∧ g.originals = spansOf t.chunks ∧ g.Fits ∧
      g.Untouched t.render.toList :=
  guard_of_segments ⟨Predicate.valid_chunks t ht, (Predicate.flatMap_text_chunks t).symm⟩
    (by rw [String.length_toList]; exact hlen) (by rw [String.length_toList]; exact h64)

/-! ## Chunks in a guarded text -/

/-- Chunks whose spans are numbered from `n` in a guarded text: their spans are its originals
    from `n` on, and the marker does not touch their characters. -/
structure Guarded.Holds (g : Guarded) (n : Nat) (xs : List Chunk) : Prop where
  spans : spansOf xs <+: g.originals.drop n
  untouched : g.Untouched (xs.flatMap Chunk.text)

namespace Guarded.Holds

variable {g : Guarded} {n : Nat} {xs ys : List Chunk}

theorem left (h : g.Holds n (xs ++ ys)) : g.Holds n xs where
  spans := by
    have := h.spans
    rw [spansOf_append] at this
    exact (List.prefix_append _ _).trans this
  untouched := h.untouched.of_infix (by rw [List.flatMap_append]; exact List.infix_append_left)

theorem right (h : g.Holds n (xs ++ ys)) : g.Holds (n + (spansOf xs).length) ys where
  spans := by
    obtain ⟨r, hr⟩ := h.spans
    rw [spansOf_append, List.append_assoc] at hr
    refine ⟨r, ?_⟩
    rw [← List.drop_drop, ← hr, List.drop_left]
  untouched := h.untouched.of_infix (by rw [List.flatMap_append]; exact List.infix_append_right)

/-- A span in a guarded text of a guard that fits: a marker, an index of 64 bits, and the span
    as the original of that index. -/
theorem quoted (hfit : g.Fits) {s : List Char} (h : g.Holds n [.quoted s]) :
    g.marker ≠ [] ∧ n < 2 ^ 64 ∧ g.originals[n]? = some s := by
  obtain ⟨r, hr⟩ := h.spans
  have hget : g.originals[n]? = some s := by
    rw [← List.head?_drop, ← hr]
    rfl
  have hlt : n < g.originals.length := (List.getElem?_eq_some_iff.1 hget).1
  refine ⟨fun hm => ?_, lt_of_lt_of_le hlt hfit.length_originals, hget⟩
  rw [hfit.originals_nil hm] at hlt
  exact absurd hlt (Nat.not_lt_zero n)

/-- A literal in a guarded text of a guard that fits sits there as `Literal.read` needs. -/
theorem placed (hfit : g.Fits) {v : Literal} (h : g.Holds n v.chunks) : v.Placed g n := by
  cases v with
  | text s => exact quoted hfit h
  | _ =>
    have hu := h.untouched
    rw [Literal.flatMap_text_chunks] at hu
    exact hu

end Guarded.Holds

end FilterQuery.Query

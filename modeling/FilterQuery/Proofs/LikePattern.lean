import FilterQuery.Proofs.RegexMatch
import FilterQuery.Query.Clause
import FilterQuery.Regex.Parse

/-!
# SQL `LIKE` patterns as regular expressions

`sqlLikeToRegex` turns a `LIKE` pattern into a regular expression anchored at both ends, with
`.*` for `%`, `.` for `_` and every other character escaped. This module shows that the
expression always compiles, one node per character of the pattern (`likeNode`) between the
two anchors, and what it matches: the texts of the pattern's `LIKE` language (`Like`) with
wildcards that stand for any character but the line feed, since `.` does not match a line
feed without the `s` flag.

`Like wild` is the language in which the wildcards stand for the characters `wild` accepts.
With every character (`Like fun _ => True`) it is the `LIKE` of SQL, and a line feed tells
the two apart: the text of one line feed is in the `LIKE` language of `%`, but the expression
of `%` does not match it.

## Key results
- `Query.compile_sqlLikeToRegex`: the expression compiles to the anchored `likeNode`s
- `Query.compile_sqlLikeToRegex_isMatch`: the compiled expression matches exactly the
  `LIKE` language with wildcards for the characters other than the line feed
- `Query.sqlLike_percent_newline`: the line feed is in the `LIKE` language of `%`, and the
  expression of `%` does not match it
-/

namespace FilterQuery

namespace Query

open Regex

/-- The texts a SQL `LIKE` pattern describes, where the wildcards stand for the characters
    that `wild` accepts: `%` for any run of them, `_` for one of them, and every other
    character for itself. -/
inductive Like (wild : Char → Prop) : List Char → List Char → Prop
  | nil : Like wild [] []
  | percent {p u w : List Char} : (∀ c ∈ u, wild c) → Like wild p w → Like wild ('%' :: p) (u ++ w)
  | underscore {p w : List Char} {c : Char} : wild c → Like wild p w → Like wild ('_' :: p) (c :: w)
  | literal {p w : List Char} {c : Char} :
      c ≠ '%' → c ≠ '_' → Like wild p w → Like wild (c :: p) (c :: w)

/-- What `sqlLikeToRegex` writes for one character of a pattern. -/
def likeChars (c : Char) : List Char :=
  if c = '%' then ['.', '*'] else if c = '_' then ['.'] else Regex.escape [c]

/-- The characters `.` matches without the `s` flag: all but the line feed. -/
def dotSet : CharSet := .compl (.single '\n')

/-- The node each character of a `LIKE` pattern compiles to. -/
def likeNode (c : Char) : Node :=
  if c = '%' then .repeat (.chars dotSet) 0 none
  else if c = '_' then .chars dotSet
  else .chars (.single c)

/-- The steps of the pattern reader a pattern's expression takes between its anchors: two
    for `%`, the dot and its star, and one for every other character. -/
def likeSteps (p : List Char) : Nat := p.length + p.count '%'

theorem sqlLikeToRegex_eq (p : List Char) :
    sqlLikeToRegex p = ['^'] ++ p.flatMap likeChars ++ ['$'] := rfl

namespace Like

variable {wild : Char → Prop} {p w : List Char}

theorem nil_iff : Like wild [] w ↔ w = [] := by
  constructor
  · intro h
    cases h
    rfl
  · rintro rfl
    exact .nil

theorem percent_iff :
    Like wild ('%' :: p) w ↔ ∃ u v, w = u ++ v ∧ (∀ c ∈ u, wild c) ∧ Like wild p v := by
  constructor
  · intro h
    cases h with
    | percent hu hp => exact ⟨_, _, rfl, hu, hp⟩
    | literal hc => exact absurd rfl hc
  · rintro ⟨u, v, rfl, hu, hp⟩
    exact .percent hu hp

theorem underscore_iff :
    Like wild ('_' :: p) w ↔ ∃ c v, w = c :: v ∧ wild c ∧ Like wild p v := by
  constructor
  · intro h
    cases h with
    | underscore hc hp => exact ⟨_, _, rfl, hc, hp⟩
    | literal _ hc => exact absurd rfl hc
  · rintro ⟨c, v, rfl, hc, hp⟩
    exact .underscore hc hp

theorem literal_iff {c : Char} (hp : c ≠ '%') (hu : c ≠ '_') :
    Like wild (c :: p) w ↔ ∃ v, w = c :: v ∧ Like wild p v := by
  constructor
  · intro h
    cases h with
    | percent => exact absurd rfl hp
    | underscore => exact absurd rfl hu
    | literal _ _ hrest => exact ⟨_, rfl, hrest⟩
  · rintro ⟨v, rfl, hrest⟩
    exact .literal hp hu hrest

end Like

/-! ### Reading the expression -/

theorem skip_default (cs : List Char) : ({} : Flags).skip cs = cs := by
  cases cs <;> rfl

theorem dropLazy_of_head {cs : List Char} (h : cs.head? ≠ some '?') : dropLazy cs = cs := by
  match cs, h with
  | [], _ => rfl
  | c :: rest, h =>
    have hc : c ≠ '?' := fun hc => h (by rw [hc]; rfl)
    simp [dropLazy, hc]

theorem readEscape_meta {c : Char} (h : isMetaChar c = true) (fuel : Nat) (rest : List Char) :
    readEscape {} fuel (c :: rest) = .ok (.literal c false, rest) := by
  have hc : c = '\\' ∨ c = '.' ∨ c = '+' ∨ c = '*' ∨ c = '?' ∨ c = '(' ∨ c = ')' ∨ c = '|' ∨
      c = '[' ∨ c = ']' ∨ c = '{' ∨ c = '}' ∨ c = '^' ∨ c = '$' ∨ c = '#' ∨ c = '&' ∨
      c = '-' ∨ c = '~' := by
    simpa [isMetaChar, or_assoc] using h
  rcases hc with rfl | rfl | rfl | rfl | rfl | rfl | rfl | rfl | rfl | rfl | rfl | rfl | rfl |
    rfl | rfl | rfl | rfl | rfl <;> rfl

/-- The dot and its star, for `%`. The star is greedy: nothing the expression writes after it
    starts with the `?` that would make it lazy. -/
theorem readBranches_percent (fuel : Nat) (items : List Item) (rest : List Char) :
    readBranches (fuel + 2) false {} [] [] items ('.' :: '*' :: rest) =
      readBranches fuel false {} [] [] (.node (likeNode '%') :: items) (dropLazy rest) := by
  simp [readBranches, skip_default, dotNode, repeatLast, likeNode, dotSet, bind, Except.bind]

theorem readBranches_underscore (fuel : Nat) (items : List Item) (rest : List Char) :
    readBranches (fuel + 1) false {} [] [] items ('.' :: rest) =
      readBranches fuel false {} [] [] (.node (likeNode '_') :: items) rest := by
  simp [readBranches, skip_default, dotNode, likeNode, dotSet, bind, Except.bind]

theorem readBranches_escaped {c : Char} (h : isMetaChar c = true) (fuel : Nat)
    (items : List Item) (rest : List Char) :
    readBranches (fuel + 1) false {} [] [] items ('\\' :: c :: rest) =
      readBranches fuel false {} [] [] (.node (.chars (.single c)) :: items) rest := by
  simp [readBranches, skip_default, readEscape_meta h, escapeNode, literalNode, bind,
    Except.bind]

theorem readBranches_plain {c : Char} (h : isMetaChar c = false) (fuel : Nat)
    (items : List Item) (rest : List Char) :
    readBranches (fuel + 1) false {} [] [] items (c :: rest) =
      readBranches fuel false {} [] [] (.node (.chars (.single c)) :: items) rest := by
  simp only [isMetaChar, Bool.or_eq_false_iff, decide_eq_false_iff_not] at h
  -- the inequalities discharge the alternatives of the reader's `match`, which come first
  simp [readBranches, skip_default, literalNode, bind, Except.bind, h]

theorem readBranches_caret (fuel : Nat) (items : List Item) (rest : List Char) :
    readBranches (fuel + 1) false {} [] [] items ('^' :: rest) =
      readBranches fuel false {} [] [] (.node (.look .startText) :: items) rest := by
  simp [readBranches, skip_default]

theorem readBranches_dollar (fuel : Nat) (items : List Item) (rest : List Char) :
    readBranches (fuel + 1) false {} [] [] items ('$' :: rest) =
      readBranches fuel false {} [] [] (.node (.look .endText) :: items) rest := by
  simp [readBranches, skip_default]

theorem readBranches_end (fuel : Nat) (items : List Item) :
    readBranches (fuel + 1) false {} [] [] items [] = .ok (concatOf items, [], []) := by
  simp [readBranches, skip_default, altOf, Node.altAll]

/-- What the expression writes for a character never starts with `?`. -/
theorem likeChars_head (c : Char) : ∃ d rest, likeChars c = d :: rest ∧ d ≠ '?' := by
  unfold likeChars
  split
  · exact ⟨'.', ['*'], rfl, by decide⟩
  · split
    · exact ⟨'.', [], rfl, by decide⟩
    · cases hm : isMetaChar c
      · refine ⟨c, [], by simp [Regex.escape, hm], ?_⟩
        rintro rfl
        exact absurd hm (by decide)
      · exact ⟨'\\', [c], by simp [Regex.escape, hm], by decide⟩

theorem head_flatMap_likeChars (p : List Char) {rest : List Char} (h : rest.head? ≠ some '?') :
    (p.flatMap likeChars ++ rest).head? ≠ some '?' := by
  cases p with
  | nil => simpa using h
  | cons c p =>
    obtain ⟨d, r, hc, hd⟩ := likeChars_head c
    simp [List.flatMap_cons, hc, hd]

/-- The reader takes what the expression writes for one character as that character's node. -/
theorem readBranches_likeChars (c : Char) (fuel : Nat) (items : List Item) {rest : List Char}
    (hrest : rest.head? ≠ some '?') :
    readBranches (likeSteps [c] + fuel) false {} [] [] items (likeChars c ++ rest) =
      readBranches fuel false {} [] [] (.node (likeNode c) :: items) rest := by
  by_cases hp : c = '%'
  · subst hp
    rw [show likeSteps ['%'] + fuel = fuel + 2 by simp [likeSteps]; omega, likeChars, if_pos rfl,
      List.cons_append, List.cons_append, List.nil_append, readBranches_percent,
      dropLazy_of_head hrest]
  · have hsteps : likeSteps [c] + fuel = fuel + 1 := by
      simp [likeSteps, hp]
      omega
    rw [hsteps, likeChars, if_neg hp]
    by_cases hu : c = '_'
    · subst hu
      rw [if_pos rfl, List.cons_append, List.nil_append, readBranches_underscore]
    · have hnode : likeNode c = .chars (.single c) := by simp [likeNode, hp, hu]
      rw [if_neg hu, hnode]
      cases hm : isMetaChar c
      · simpa [Regex.escape, hm] using readBranches_plain hm fuel items rest
      · simpa [Regex.escape, hm] using readBranches_escaped hm fuel items rest

/-- The reader takes the expression's middle as the nodes of the pattern's characters, in
    order; the induction runs over the pattern, each character through
    `readBranches_likeChars`. -/
theorem readBranches_like (p : List Char) (fuel : Nat) (items : List Item) {rest : List Char}
    (hrest : rest.head? ≠ some '?') :
    readBranches (likeSteps p + fuel) false {} [] [] items (p.flatMap likeChars ++ rest) =
      readBranches fuel false {} [] [] ((p.map fun c => Item.node (likeNode c)).reverse ++ items)
        rest := by
  induction p generalizing items with
  | nil => simp [likeSteps]
  | cons c p ih =>
    have hsteps : likeSteps (c :: p) + fuel = likeSteps [c] + (likeSteps p + fuel) := by
      simp only [likeSteps, List.length_cons, List.count_cons, List.length_nil, List.count_nil]
      omega
    rw [hsteps, List.flatMap_cons, List.append_assoc,
      readBranches_likeChars c _ items (head_flatMap_likeChars p hrest), ih]
    simp

theorem likeSteps_le (p : List Char) : likeSteps p ≤ (p.flatMap likeChars).length := by
  induction p with
  | nil => simp [likeSteps]
  | cons c p ih =>
    simp only [likeSteps, List.length_cons, List.count_cons, List.flatMap_cons,
      List.length_append] at ih ⊢
    have hc : (if c = '%' then 2 else 1) ≤ (likeChars c).length := by
      unfold likeChars
      split
      · simp
      · split
        · simp
        · simp only [Regex.escape, List.flatMap_cons, List.flatMap_nil, List.append_nil]
          split <;> simp
    split at hc <;> simp_all <;> omega

/-- The expression of every pattern compiles: to the start of the text, the node of each
    character of the pattern, and the end of the text. -/
theorem compile_sqlLikeToRegex (p : List Char) :
    compile (String.ofList (sqlLikeToRegex p)) =
      .ok (Node.catAll (.look .startText :: p.map likeNode ++ [.look .endText])) := by
  have hle := likeSteps_le p
  have hlen : (sqlLikeToRegex p).length = (p.flatMap likeChars).length + 2 := by
    simp only [sqlLikeToRegex_eq, List.length_append, List.length_singleton]
    omega
  -- fuel enough for every step: the anchors, the characters and the end of the text
  obtain ⟨k, hk⟩ : ∃ k, 2 * (sqlLikeToRegex p).length + 2 = likeSteps p + (k + 1 + 1) + 1 :=
    ⟨2 * (p.flatMap likeChars).length + 3 - likeSteps p, by omega⟩
  simp only [compile, String.toList_ofList]
  rw [hk, sqlLikeToRegex_eq, List.append_assoc, List.singleton_append, readBranches_caret,
    readBranches_like p _ _ (by simp), readBranches_dollar, readBranches_end]
  simp [concatOf, Function.comp_def]

/-! ### What the compiled expression matches -/

theorem single_contains (c d : Char) : (CharSet.single c).contains d = decide (d = c) := by
  simp only [CharSet.contains, CharSet.single, CharSet.has, ← Char.toNat_inj]
  rw [Bool.eq_iff_iff, Bool.and_eq_true, decide_eq_true_iff, decide_eq_true_iff,
    decide_eq_true_iff]
  omega

theorem dotSet_contains (c : Char) : dotSet.contains c = decide (c ≠ '\n') := by
  rw [dotSet, CharSet.contains, CharSet.has, ← CharSet.contains, single_contains]
  simp

/-- A starred class matches the runs of its characters. -/
theorem matches_star_iff {s : CharSet} {pre u post : List Char} :
    Matches pre u post (.repeat (.chars s) 0 none) ↔ ∀ c ∈ u, s.contains c = true := by
  induction u generalizing pre with
  | nil => exact ⟨fun _ _ h => absurd h List.not_mem_nil, fun _ => .repeatZero⟩
  | cons c u ih =>
    rw [Matches.repeat_iff]
    constructor
    · rintro (⟨h, -⟩ | ⟨-, u₁, u₂, huv, h₁, h₂⟩)
      · cases h
      · obtain ⟨c', rfl, hc'⟩ := Matches.chars_iff.1 h₁
        obtain ⟨rfl, rfl⟩ := List.cons.inj huv
        intro x hx
        rcases List.mem_cons.1 hx with rfl | hx
        · exact hc'
        · exact ih.1 (by simpa using h₂) x hx
    · intro h
      refine .inr ⟨by simp, [c], u, rfl, .chars (h c List.mem_cons_self), ?_⟩
      simpa using ih.2 fun x hx => h x (List.mem_cons_of_mem c hx)

/-- The nodes of a pattern's characters, one after the other, match exactly the texts of its
    `LIKE` language with wildcards for the characters other than the line feed. The induction
    runs over the pattern, one kind of character at a time. -/
theorem seqMatches_likeNodes_iff (p : List Char) {pre w post : List Char} :
    SeqMatches pre w post (p.map likeNode) ↔ Like (· ≠ '\n') p w := by
  induction p generalizing pre w with
  | nil => rw [List.map_nil, SeqMatches.nil_iff, Like.nil_iff]
  | cons c p ih =>
    rw [List.map_cons, SeqMatches.cons_iff]
    by_cases hp : c = '%'
    · subst hp
      simp only [Like.percent_iff, likeNode, if_pos, matches_star_iff, dotSet_contains,
        decide_eq_true_iff, ih]
    · by_cases hu : c = '_'
      · subst hu
        simp only [Like.underscore_iff, likeNode, if_neg (by decide : '_' ≠ '%'), if_pos,
          Matches.chars_iff, dotSet_contains, decide_eq_true_iff, ih]
        constructor
        · rintro ⟨u, v, rfl, ⟨x, rfl, hx⟩, hv⟩
          exact ⟨x, v, rfl, hx, hv⟩
        · rintro ⟨x, v, rfl, hx, hv⟩
          exact ⟨[x], v, rfl, ⟨x, rfl, hx⟩, hv⟩
      · simp only [Like.literal_iff hp hu, likeNode, if_neg hp, if_neg hu, Matches.chars_iff,
          single_contains, decide_eq_true_iff, ih]
        constructor
        · rintro ⟨u, v, rfl, ⟨x, rfl, rfl⟩, hv⟩
          exact ⟨v, rfl, hv⟩
        · rintro ⟨v, rfl, hv⟩
          exact ⟨[c], v, rfl, ⟨c, rfl, rfl⟩, hv⟩

/-- The anchors hold only at the two ends of the text, so an anchored expression matches the
    whole text or nothing. -/
theorem matches_anchored_iff {nodes : List Node} {pre w post : List Char} :
    Matches pre w post (Node.catAll (.look .startText :: nodes ++ [.look .endText])) ↔
      pre = [] ∧ post = [] ∧ SeqMatches [] w [] nodes := by
  rw [Matches.catAll_iff, List.cons_append, SeqMatches.look_cons, SeqMatches.append_iff]
  simp only [Look.holds, Option.isNone_iff_eq_none, List.getLast?_eq_none_iff]
  constructor
  · rintro ⟨rfl, u, v, rfl, hnodes, hend⟩
    obtain ⟨rfl, hpost⟩ := Matches.look_iff.1 (SeqMatches.singleton_iff.1 hend)
    simp only [Look.holds, Option.isNone_iff_eq_none, List.head?_eq_none_iff] at hpost
    subst hpost
    exact ⟨rfl, rfl, by simpa using hnodes⟩
  · rintro ⟨rfl, rfl, h⟩
    exact ⟨rfl, w, [], by simp, by simpa using h, SeqMatches.singleton_iff.2 (.look rfl)⟩

/-- The anchored nodes of a pattern match a text exactly when the text is in the pattern's
    `LIKE` language with wildcards for the characters other than the line feed. -/
theorem isMatch_likeNodes_iff (p : List Char) (s : String) :
    (Node.catAll (.look .startText :: p.map likeNode ++ [.look .endText])).isMatch s = true ↔
      Like (· ≠ '\n') p s.toList := by
  rw [Node.isMatch_iff]
  constructor
  · rintro ⟨pre, w, post, hs, hm⟩
    obtain ⟨rfl, rfl, hw⟩ := matches_anchored_iff.1 hm
    rw [hs, List.nil_append, List.append_nil]
    exact (seqMatches_likeNodes_iff p).1 hw
  · intro h
    exact ⟨[], s.toList, [], by simp,
      matches_anchored_iff.2 ⟨rfl, rfl, (seqMatches_likeNodes_iff p).2 h⟩⟩

/-- The expression of every `LIKE` pattern compiles, and it matches a text exactly when the
    text is in the pattern's `LIKE` language with wildcards that stand for every character but
    the line feed: `%` for a run of such characters, `_` for one, and any other character,
    the backslash and the characters with a meaning in patterns included, for itself. -/
theorem compile_sqlLikeToRegex_isMatch (p : List Char) :
    ∃ n, compile (String.ofList (sqlLikeToRegex p)) = .ok n ∧
      ∀ s : String, n.isMatch s = true ↔ Like (· ≠ '\n') p s.toList :=
  ⟨_, compile_sqlLikeToRegex p, isMatch_likeNodes_iff p⟩

/-- A line feed tells the two languages apart: the text of one line feed is in the SQL
    `LIKE` language of `%`, where `%` stands for every run of characters, but the expression
    of `%` does not match it. -/
theorem sqlLike_percent_newline :
    Like (fun _ => True) ['%'] ['\n'] ∧
      ∃ n, compile (String.ofList (sqlLikeToRegex ['%'])) = .ok n ∧ n.isMatch "\n" = false := by
  refine ⟨?_, _, compile_sqlLikeToRegex ['%'], ?_⟩
  · show Like _ ['%'] (['\n'] ++ [])
    exact .percent (fun _ _ => trivial) .nil
  · -- the one run `%` could stand for is the line feed, which the dot does not match
    rw [Bool.eq_false_iff, Ne, isMatch_likeNodes_iff, show "\n".toList = ['\n'] by rfl]
    intro h
    obtain ⟨u, v, huv, hu, hv⟩ := Like.percent_iff.1 h
    obtain rfl := Like.nil_iff.1 hv
    rw [List.append_nil] at huv
    subst huv
    exact hu '\n' List.mem_cons_self rfl

end Query

end FilterQuery

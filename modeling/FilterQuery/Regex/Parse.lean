import FilterQuery.Regex.Node
import FilterQuery.Regex.Property
import FilterQuery.Regex.Escape
import FilterQuery.Text.Property

/-! # Reading patterns

`Regex.compile` reads a pattern into a `Node`, or says why it is not one. The syntax:

* literals; `.`; `^` and `$`; escapes `\n \t \r \f \v \a`, `\xNN`, `\x{…}`, `\uNNNN`,
  `\u{…}`, `\UNNNNNNNN`, `\U{…}` and a backslash before any ASCII character that is neither
  a letter, a digit, `<` nor `>`;
* classes `\d \s \w` (and `\D \S \W`), `\pL`, `\p{…}`, `\P{…}`, and bracketed classes
  `[…]` with ranges, negation `[^…]`, nested brackets, `[:name:]` ASCII classes, and the set
  operations `&&`, `--` and `~~` (left to right);
* assertions `\A \z \b \B \< \>` and `\b{start}`, `\b{end}`, `\b{start-half}`,
  `\b{end-half}`;
* groups `(…)`, `(?P<name>…)`, `(?<name>…)`, `(?flags:…)`, and `(?flags)` which sets flags
  to the end of the enclosing group; flags `i m s U u R x`, `-` before those to clear;
* alternation `|` and repetition `* + ?` and `{n}`, `{n,}`, `{n,m}`, each optionally lazy
  (`?` after it, which does not change what matches).

Refused: look-around, back-references, unknown escapes and flags, an operator with nothing
to repeat, `{n,m}` with `n > m`, unbalanced brackets, duplicate group names, and, with
Unicode off (`(?-u)`), anything that could match part of a multi-byte character: `.`,
negated classes that reach beyond ASCII, `\B`, bytes `\x80`–`\xFF`, Unicode classes, and
non-ASCII characters in brackets. Outside brackets a non-ASCII character still matches
itself with Unicode off; case-insensitivity then folds only ASCII letters.

With `x`, white space and `#` comments between items are skipped. Inside `{…}` counts,
white space is always allowed. -/

namespace FilterQuery

namespace Regex

open Text

/-- The flags of a pattern, where they apply. -/
structure Flags where
  caseInsensitive : Bool := false
  multiLine : Bool := false
  dotAll : Bool := false
  swapGreed : Bool := false
  unicode : Bool := true
  crlf : Bool := false
  ignoreSpace : Bool := false
  deriving DecidableEq, Inhabited, Repr

/-- Skips white space and `#` comments when `on`; `inComment` is set inside a comment. -/
def skipSpaceFrom (on inComment : Bool) : List Char → List Char
  | [] => []
  | c :: rest =>
    if inComment then skipSpaceFrom on (c != '\n') rest
    else if !on then c :: rest
    else if isWhiteSpace c then skipSpaceFrom on false rest
    else if c = '#' then skipSpaceFrom on true rest
    else c :: rest

/-- Skips white space and comments when the `x` flag is on. -/
def Flags.skip (f : Flags) (cs : List Char) : List Char := skipSpaceFrom f.ignoreSpace false cs

/-- The value of a hexadecimal digit. -/
def hexDigit? (c : Char) : Option Nat :=
  if '0' ≤ c && c ≤ '9' then some (c.toNat - 0x30)
  else if 'a' ≤ c && c ≤ 'f' then some (c.toNat - 0x61 + 10)
  else if 'A' ≤ c && c ≤ 'F' then some (c.toNat - 0x41 + 10)
  else none

/-- The character of a code point written in hexadecimal, if it is a Unicode scalar value
    and the digits fit in 32 bits. -/
def hexChar? (digits : List Char) : Option Char :=
  let n := digits.foldl (fun acc d => acc * 16 + (hexDigit? d).getD 0) 0
  if n < Nat.pow 2 32 && (n < 0xD800 || (0xDFFF < n && n ≤ 0x10FFFF)) then some (Char.ofNat n)
  else none

/-- Reads exactly `count` hexadecimal digits (white space between them under `x`). -/
def readHexDigits (f : Flags) : Nat → List Char → List Char → Except String (List Char × List Char)
  | 0, acc, cs => .ok (acc.reverse, cs)
  | k + 1, acc, cs =>
    match cs with
    | c :: rest =>
      if (hexDigit? c).isSome then readHexDigits f k (c :: acc) (f.skip rest)
      else .error "invalid hexadecimal digit"
    | [] => .error "unexpected end of pattern"

/-- Reads hexadecimal digits up to `}` (white space between them under `x`). -/
def readHexBrace (f : Flags) : Nat → List Char → List Char → Except String (List Char × List Char)
  | 0, _, _ => .error "pattern too long"
  | fuel + 1, acc, cs =>
    match cs with
    | [] => .error "unclosed hexadecimal escape"
    | '}' :: rest => .ok (acc.reverse, f.skip rest)
    | c :: rest =>
      if (hexDigit? c).isSome then readHexBrace f fuel (c :: acc) (f.skip rest)
      else .error "invalid hexadecimal digit"

/-- What an escape stands for. -/
inductive Escape where
  /-- A character; `isByte` when written `\xNN`, which names a byte with Unicode off. -/
  | literal (c : Char) (isByte : Bool)
  /-- An assertion. -/
  | look (l : Look)
  /-- A class. -/
  | set (s : CharSet)
  deriving Inhabited, Repr

/-- Folds a class for case-insensitive matching when the flag is on. -/
def Flags.foldSet (f : Flags) (s : CharSet) : CharSet :=
  if f.caseInsensitive then (if f.unicode then .fold s else .foldAscii s) else s

/-- Reads characters up to `}` (white space skipped under `x`), the `}` excluded. -/
def readUntilBrace (f : Flags) : Nat → List Char → List Char → Except String (List Char × List Char)
  | 0, _, _ => .error "pattern too long"
  | fuel + 1, acc, cs =>
    match cs with
    | [] => .error "unclosed class name"
    | '}' :: rest => .ok (acc.reverse, rest)
    | c :: rest => readUntilBrace f fuel (c :: acc) (f.skip rest)

/-- Splits a text at the first occurrence of a separator. -/
def splitFirst (sep : List Char) : List Char → List Char → Option (List Char × List Char)
  | _, [] => if sep.isEmpty then some ([], []) else none
  | acc, c :: rest =>
    if sep.isPrefixOf (c :: rest) then some (acc.reverse, (c :: rest).drop sep.length)
    else splitFirst sep (c :: acc) rest

/-- Reads a Unicode class after `\p` (or `\P` when `negated`). -/
def readUnicodeClass (f : Flags) (fuel : Nat) (negated : Bool) (cs : List Char) :
    Except String (CharSet × List Char) := do
  let (class?, neg, rest) ← match f.skip cs with
    | [] => throw "unexpected end of pattern"
    | '{' :: r => do
      let (name, rest) ← readUntilBrace f fuel [] (f.skip r)
      match splitFirst ['!', '='] [] name with
      | some (n, v) => pure (valueClass? (String.ofList n) (String.ofList v), !negated, rest)
      | none =>
        match splitFirst [':'] [] name with
        | some (n, v) => pure (valueClass? (String.ofList n) (String.ofList v), negated, rest)
        | none =>
          match splitFirst ['='] [] name with
          | some (n, v) => pure (valueClass? (String.ofList n) (String.ofList v), negated, rest)
          | none => pure (namedClass? (String.ofList name), negated, rest)
    | '\\' :: _ => throw "invalid Unicode class"
    | c :: r => pure (namedClass? (String.singleton c), negated, f.skip r)
  if !f.unicode then throw "Unicode classes need Unicode mode"
  match class? with
  | none => throw "unknown Unicode class"
  | some s =>
    let s := f.foldSet s
    return (if neg then .compl s else s, rest)

/-- The class of `\d`, `\s` or `\w` (upper case for the complement). -/
def perlClass (f : Flags) (kind : Char) : Except String CharSet :=
  let negated := kind.isUpper
  let base := match kind.toLower with
    | 'd' => if f.unicode then CharSet.digit else CharSet.asciiDigit
    | 's' => if f.unicode then CharSet.space else CharSet.asciiSpace
    | _ => if f.unicode then CharSet.word else CharSet.asciiWord
  if negated && !f.unicode then .error "negated class could match invalid text"
  else .ok (if negated then .compl base else base)

/-- Whether a character may follow a backslash to stand for itself. -/
def isEscapable (c : Char) : Bool :=
  isMetaChar c || (c.toNat < 0x80 && !c.isAlphanum && c != '<' && c != '>')

/-- The characters of a special word boundary name. -/
def isBoundaryNameChar (c : Char) : Bool := c.isAlpha || c = '-'

/-- Reads the letters of a special word boundary name. -/
def readBoundaryName (f : Flags) : Nat → List Char → List Char → List Char × List Char
  | 0, acc, cs => (acc.reverse, cs)
  | fuel + 1, acc, cs =>
    match cs with
    | c :: rest => if isBoundaryNameChar c then readBoundaryName f fuel (c :: acc) (f.skip rest)
      else (acc.reverse, c :: rest)
    | [] => (acc.reverse, [])

/-- Reads what follows `\b`: `{start}`, `{end}`, `{start-half}` or `{end-half}`, or else a
    plain word boundary (a `{` that does not start a name is left for a count). -/
def readWordBoundary (f : Flags) (fuel : Nat) (cs : List Char) : Except String (Look × List Char) :=
  let u := f.unicode
  match cs with
  | '{' :: rest =>
    match f.skip rest with
    | [] => .error "unexpected end of pattern"
    | c :: more =>
      if !isBoundaryNameChar c then .ok (.wordBoundary u, cs)
      else
        match readBoundaryName f fuel [] (c :: more) with
        | (name, '}' :: after) =>
          match String.ofList name with
          | "start" => .ok (.wordStart u, after)
          | "end" => .ok (.wordEnd u, after)
          | "start-half" => .ok (.wordStartHalf u, after)
          | "end-half" => .ok (.wordEndHalf u, after)
          | _ => .error "unknown word boundary"
        | _ => .error "unclosed word boundary"
  | _ => .ok (.wordBoundary u, cs)

/-- Reads an escape after its backslash. -/
def readEscape (f : Flags) (fuel : Nat) (cs : List Char) : Except String (Escape × List Char) :=
  match cs with
  | [] => .error "escape at end of pattern"
  | c :: rest =>
    if c.isDigit then .error "back-references are not supported"
    else if c = 'x' || c = 'u' || c = 'U' then
      let width := if c = 'x' then 2 else if c = 'u' then 4 else 8
      match f.skip rest with
      | [] => .error "unexpected end of pattern"
      | '{' :: r => do
        let (ds, after) ← readHexBrace f fuel [] (f.skip r)
        if ds.isEmpty then throw "empty hexadecimal escape"
        match hexChar? ds with
        | some ch => return (.literal ch false, after)
        | none => throw "invalid hexadecimal escape"
      | r => do
        let (ds, after) ← readHexDigits f width [] r
        match hexChar? ds with
        | some ch => return (.literal ch (c = 'x'), after)
        | none => throw "invalid hexadecimal escape"
    else if c = 'p' || c = 'P' then do
      let (s, after) ← readUnicodeClass f fuel (c = 'P') rest
      return (.set s, after)
    else if c.toLower = 'd' || c.toLower = 's' || c.toLower = 'w' then do
      return (.set (← perlClass f c), rest)
    else if isEscapable c then .ok (.literal c false, rest)
    else match c with
      | 'a' => .ok (.literal (Char.ofNat 7) false, rest)
      | 'f' => .ok (.literal (Char.ofNat 12) false, rest)
      | 't' => .ok (.literal '\t' false, rest)
      | 'n' => .ok (.literal '\n' false, rest)
      | 'r' => .ok (.literal '\r' false, rest)
      | 'v' => .ok (.literal (Char.ofNat 11) false, rest)
      | 'A' => .ok (.look .startText, rest)
      | 'z' => .ok (.look .endText, rest)
      | 'b' => do
        let (l, after) ← readWordBoundary f fuel rest
        return (.look l, after)
      | 'B' =>
        if f.unicode then .ok (.look (.notWordBoundary true), rest)
        else .error "ASCII non-boundary could match inside a character"
      | '<' => .ok (.look (.wordStart f.unicode), rest)
      | '>' => .ok (.look (.wordEnd f.unicode), rest)
      | _ => .error "unrecognized escape"

/-- The node of a literal character. -/
def literalNode (f : Flags) (c : Char) (isByte : Bool) : Except String Node :=
  if !f.unicode && isByte && 0x80 ≤ c.toNat then .error "byte escape could match invalid text"
  else if f.caseInsensitive then
    if f.unicode then .ok (.chars (.fold (.single c)))
    else if 0x80 ≤ c.toNat then .ok (.chars (.single c))
    else .ok (.chars (.foldAscii (.single c)))
  else .ok (.chars (.single c))

/-- The node of an escape outside brackets. -/
def escapeNode (f : Flags) : Escape → Except String Node
  | .literal c b => literalNode f c b
  | .look l => .ok (.look l)
  | .set s => .ok (.chars s)

/-- The node of `.`. -/
def dotNode (f : Flags) : Except String Node :=
  if !f.unicode then .error "dot could match inside a character"
  else if f.dotAll then .ok (.chars (.property .any))
  else if f.crlf then .ok (.chars (.compl (.union (.single '\n') (.single '\r'))))
  else .ok (.chars (.compl (.single '\n')))

/-- A class as written inside brackets: with Unicode off it keeps to bytes, and it must not
    reach beyond ASCII. -/
def Flags.checkClass (f : Flags) (s : CharSet) : Except String CharSet :=
  if f.unicode then .ok s
  else if s.bytesAreAscii then .ok (.inter s (.range 0 0x7F))
  else .error "class could match invalid text"

/-- The code point of a literal used inside brackets. -/
def classLiteral (f : Flags) : Escape → Except String Nat
  | .literal c isByte =>
    if f.unicode || isByte || c.toNat < 0x80 then .ok c.toNat
    else .error "non-ASCII class literal needs Unicode mode"
  | _ => .error "range bound is not a literal"

/-- The set of one item inside brackets. -/
def classItemSet (f : Flags) : Escape → Except String CharSet
  | .literal c b => do let n ← classLiteral f (.literal c b); return .range n n
  | .set s => .ok s
  | .look _ => .error "assertion inside a class"

/-- Reads one primitive inside brackets: an escape or a character. -/
def readClassItem (f : Flags) (fuel : Nat) : List Char → Except String (Escape × List Char)
  | '\\' :: rest => readEscape f fuel rest
  | c :: rest => .ok (.literal c false, rest)
  | [] => .error "unclosed class"

/-- Reads an item or a range `a-b` inside brackets. A `-` before `]` or another `-` is not
    a range. -/
def readRange (f : Flags) (fuel : Nat) (cs : List Char) : Except String (CharSet × List Char) := do
  let (p1, r) ← readClassItem f fuel cs
  let r := f.skip r
  match r with
  | [] => throw "unclosed class"
  | '-' :: after =>
    match f.skip after with
    | [] => throw "unclosed class"
    | ']' :: _ | '-' :: _ => return (← classItemSet f p1, r)
    | r2 => do
      let (p2, r3) ← readClassItem f fuel r2
      let lo ← classLiteral f p1
      let hi ← classLiteral f p2
      if hi < lo then throw "invalid class range"
      return (.range lo hi, r3)
  | _ => return (← classItemSet f p1, r)

/-- A set operation of bracketed classes. -/
inductive SetOp where
  | inter
  | diff
  | symmDiff
  deriving DecidableEq, Inhabited, Repr

/-- Applies a set operation. -/
def SetOp.apply : SetOp → CharSet → CharSet → CharSet
  | .inter, a, b => .inter a b
  | .diff, a, b => .diff a b
  | .symmDiff, a, b => .symmDiff a b

/-- The set read so far at one bracket level: the pending left operand and operator, if any,
    applied to the union of the items since. Operands are folded under case-insensitivity. -/
def combinePending (f : Flags) (pending : Option (CharSet × SetOp)) (items : List CharSet) :
    CharSet :=
  let u := CharSet.unionAll items.reverse
  match pending with
  | some (lhs, op) => op.apply (f.foldSet lhs) (f.foldSet u)
  | none => u

/-- An ASCII class `[:name:]` or `[:^name:]` at the front, with whether it is negated. -/
def asciiClassAt : List Char → Option (CharSet × Bool × List Char)
  | '[' :: ':' :: rest =>
    let (negated, body) := match rest with
      | '^' :: r => (true, r)
      | r => (false, r)
    let name := body.takeWhile (· != ':')
    match body.dropWhile (· != ':') with
    | ':' :: ']' :: after =>
      if name.isEmpty && body.isEmpty then none
      else (CharSet.asciiClass? (String.ofList name)).map fun s => (s, negated, after)
    | _ => none
  | _ => none

mutual

/-- Reads a bracketed class after its `[`. -/
def readBracket (f : Flags) (fuel : Nat) (cs : List Char) : Except String (CharSet × List Char) :=
  match fuel with
  | 0 => .error "pattern too long"
  | fuel + 1 => do
    let cs := f.skip cs
    if cs.isEmpty then throw "unclosed class"
    let (negated, cs) := match cs with
      | '^' :: r => (true, f.skip r)
      | r => (false, r)
    if cs.isEmpty then throw "unclosed class"
    let dashes := cs.takeWhile (· = '-')
    let cs := cs.dropWhile (· = '-')
    let cs := f.skip cs
    if cs.isEmpty then throw "unclosed class"
    let (items, cs) := match dashes, cs with
      | [], ']' :: r => ([CharSet.single ']'], f.skip r)
      | _, r => (dashes.map fun _ => CharSet.single '-', r)
    if cs.isEmpty then throw "unclosed class"
    readBracketBody f fuel negated none items.reverse cs

/-- Reads the items and set operations of a bracketed class up to its `]`. -/
def readBracketBody (f : Flags) (fuel : Nat) (negated : Bool) (pending : Option (CharSet × SetOp))
    (items : List CharSet) (cs : List Char) : Except String (CharSet × List Char) :=
  match fuel with
  | 0 => .error "pattern too long"
  | fuel + 1 =>
    match f.skip cs with
    | [] => .error "unclosed class"
    | '[' :: rest =>
      match asciiClassAt ('[' :: rest) with
      | some (s, neg, after) => do
        let s := f.foldSet s
        let s ← f.checkClass (if neg then .compl s else s)
        readBracketBody f fuel negated pending (s :: items) after
      | none => do
        let (inner, after) ← readBracket f fuel rest
        readBracketBody f fuel negated pending (inner :: items) after
    | ']' :: rest => do
      let s := f.foldSet (combinePending f pending items)
      let s ← f.checkClass (if negated then .compl s else s)
      return (s, rest)
    | '&' :: '&' :: rest =>
      readBracketBody f fuel negated (some (combinePending f pending items, .inter)) [] rest
    | '-' :: '-' :: rest =>
      readBracketBody f fuel negated (some (combinePending f pending items, .diff)) [] rest
    | '~' :: '~' :: rest =>
      readBracketBody f fuel negated (some (combinePending f pending items, .symmDiff)) [] rest
    | r => do
      let (s, after) ← readRange f fuel r
      readBracketBody f fuel negated pending (s :: items) after

end

/-- Reads the digits of a count (white space between them under `x`). -/
def readDigits (f : Flags) : Nat → List Char → List Char → List Char × List Char
  | 0, acc, cs => (acc.reverse, cs)
  | fuel + 1, acc, cs =>
    match cs with
    | c :: rest => if c.isDigit then readDigits f fuel (c :: acc) (f.skip rest) else (acc.reverse, cs)
    | [] => (acc.reverse, [])

/-- Skips white space after the digits of a count. -/
def skipWhite (f : Flags) : Nat → List Char → List Char
  | 0, cs => cs
  | fuel + 1, cs =>
    match cs with
    | c :: rest => if isWhiteSpace c then skipWhite f fuel (f.skip rest) else cs
    | [] => []

/-- Reads a decimal number of a count, with white space around it. -/
def readDecimal (f : Flags) (fuel : Nat) (cs : List Char) : List Char × List Char :=
  let (ds, rest) := readDigits f fuel [] (cs.dropWhile isWhiteSpace)
  (ds, skipWhite f fuel rest)

/-- The value of the digits of a count, which must fit in 32 bits. -/
def countValue (ds : List Char) : Except String Nat :=
  if ds.isEmpty then .error "missing repetition count"
  else
    let n := ds.foldl (fun acc d => acc * 10 + (d.toNat - 0x30)) 0
    if n < Nat.pow 2 32 then .ok n else .error "repetition count too large"

/-- Drops the `?` that makes a repetition lazy. -/
def dropLazy : List Char → List Char
  | '?' :: rest => rest
  | cs => cs

/-- Reads a count `{n}`, `{n,}` or `{n,m}` after its `{`. -/
def readCount (f : Flags) (fuel : Nat) (cs : List Char) :
    Except String (Nat × Option Nat × List Char) := do
  let cs := f.skip cs
  if cs.isEmpty then throw "unclosed repetition count"
  let (d1, cs) := readDecimal f fuel cs
  let (lo, hi, cs) ← match cs with
    | [] => throw "unclosed repetition count"
    | ',' :: r =>
      match f.skip r with
      | [] => throw "unclosed repetition count"
      | '}' :: more => do pure (← countValue d1, none, '}' :: more)
      | more => do
        let lo ← countValue d1
        let (d2, after) := readDecimal f fuel more
        pure (lo, some (← countValue d2), after)
    | r => do let n ← countValue d1; pure (n, some n, r)
  match cs with
  | '}' :: rest =>
    match hi with
    | some h => if h < lo then throw "invalid repetition count" else pure ()
    | none => pure ()
    return (lo, hi, dropLazy (f.skip rest))
  | _ => throw "unclosed repetition count"

/-- One element of a concatenation: a node, or a flag setting, which cannot be repeated. -/
inductive Item where
  | node (n : Node)
  | setFlags
  deriving Inhabited, Repr

/-- The concatenation of the items read (given last first). -/
def concatOf (items : List Item) : Node :=
  Node.catAll (items.reverse.map fun
    | .node n => n
    | .setFlags => .empty)

/-- The alternation of the branches read (given last first) and the last one. -/
def altOf (branches : List Node) (last : Node) : Node := Node.altAll (branches.reverse ++ [last])

/-- Repeats the last item. -/
def repeatLast (items : List Item) (lo : Nat) (hi : Option Nat) : Except String (List Item) :=
  match items with
  | .node n :: rest => .ok (.node (.repeat n lo hi) :: rest)
  | _ => .error "repetition operator missing expression"

/-- Reads flag letters up to `:` or `)`, with the value each sets; `negSeen` after `-`,
    `lastNeg` right after it. -/
def readFlagItems : List Char → Bool → Bool → List (Char × Bool) →
    Except String (List (Char × Bool) × List Char)
  | [], _, _, _ => .error "unexpected end of flags"
  | c :: rest, negSeen, lastNeg, acc =>
    if c = ':' || c = ')' then
      if lastNeg then .error "dangling flag negation" else .ok (acc.reverse, c :: rest)
    else if c = '-' then
      if negSeen then .error "repeated flag negation" else readFlagItems rest true true acc
    else if "imsUuRx".toList.contains c then
      if acc.any (·.1 = c) then .error "duplicate flag" else readFlagItems rest negSeen false ((c, !negSeen) :: acc)
    else .error "unrecognized flag"

/-- The flags after setting the given letters. -/
def Flags.set (f : Flags) : List (Char × Bool) → Flags
  | [] => f
  | (c, v) :: rest =>
    let f := match c with
      | 'i' => { f with caseInsensitive := v }
      | 'm' => { f with multiLine := v }
      | 's' => { f with dotAll := v }
      | 'U' => { f with swapGreed := v }
      | 'u' => { f with unicode := v }
      | 'R' => { f with crlf := v }
      | _ => { f with ignoreSpace := v }
    f.set rest

/-- Whether a character may stand in a group name, first or later. -/
def isNameChar (first : Bool) (c : Char) : Bool :=
  if first then c = '_' || isAlphabetic c
  else c = '_' || c = '.' || c = '[' || c = ']' || isAlphanumeric c

/-- Reads a group name up to `>`. -/
def readGroupName : List Char → List Char → Except String (String × List Char)
  | _, [] => .error "unexpected end of group name"
  | acc, '>' :: rest =>
    if acc.isEmpty then .error "empty group name" else .ok (String.ofList acc.reverse, rest)
  | acc, c :: rest =>
    if isNameChar acc.isEmpty c then readGroupName (c :: acc) rest else .error "invalid group name"

/-- What a `(` starts: a flag setting (the new flags) or a group (its node, the names seen,
    and the rest after its `)`). -/
inductive Opened where
  | setFlags (f : Flags) (rest : List Char)
  | group (n : Node) (names : List String) (rest : List Char)

mutual

/-- Reads the alternatives of a group (or of the whole pattern) up to its `)` or the end.
    `branches` are the alternatives read, `items` the current one, both last first. -/
def readBranches (fuel : Nat) (inGroup : Bool) (f : Flags) (names : List String)
    (branches : List Node) (items : List Item) (cs : List Char) :
    Except String (Node × List String × List Char) :=
  match fuel with
  | 0 => .error "pattern too long"
  | fuel + 1 =>
    let next (item : Item) (rest : List Char) :=
      readBranches fuel inGroup f names branches (item :: items) rest
    let repeatWith (lo : Nat) (hi : Option Nat) (rest : List Char) := do
      let items ← repeatLast items lo hi
      readBranches fuel inGroup f names branches items rest
    match f.skip cs with
    | [] =>
      if inGroup then .error "unclosed group" else .ok (altOf branches (concatOf items), names, [])
    | ')' :: rest =>
      if inGroup then .ok (altOf branches (concatOf items), names, rest)
      else .error "unopened group"
    | '|' :: rest => readBranches fuel inGroup f names (concatOf items :: branches) [] rest
    | '(' :: rest =>
      match readGroup fuel f names rest with
      | .error e => .error e
      | .ok (.setFlags f' after) =>
        readBranches fuel inGroup f' names branches (.setFlags :: items) after
      | .ok (.group n names' after) =>
        readBranches fuel inGroup f names' branches (.node n :: items) after
    | '[' :: rest => do
      let (s, after) ← readBracket f fuel rest
      next (.node (.chars s)) after
    | '?' :: rest => repeatWith 0 (some 1) (dropLazy rest)
    | '*' :: rest => repeatWith 0 none (dropLazy rest)
    | '+' :: rest => repeatWith 1 none (dropLazy rest)
    | '{' :: rest => do
      let (lo, hi, after) ← readCount f fuel rest
      repeatWith lo hi after
    | '\\' :: rest => do
      let (e, after) ← readEscape f fuel rest
      next (.node (← escapeNode f e)) after
    | '.' :: rest => do next (.node (← dotNode f)) rest
    | '^' :: rest =>
      next (.node (.look (if f.multiLine then (if f.crlf then .startLineCrlf else .startLine)
        else .startText))) rest
    | '$' :: rest =>
      next (.node (.look (if f.multiLine then (if f.crlf then .endLineCrlf else .endLine)
        else .endText))) rest
    | c :: rest => do next (.node (← literalNode f c false)) rest

/-- Reads what follows a `(`. -/
def readGroup (fuel : Nat) (f : Flags) (names : List String) (cs : List Char) :
    Except String Opened :=
  match fuel with
  | 0 => .error "pattern too long"
  | fuel + 1 =>
    let named (rest : List Char) : Except String Opened :=
      match readGroupName [] rest with
      | .error e => .error e
      | .ok (name, after) =>
        if names.contains name then .error "duplicate group name"
        else match readBranches fuel true f (name :: names) [] [] after with
          | .error e => .error e
          | .ok (n, names', r) => .ok (.group n names' r)
    match f.skip cs with
    | '?' :: '=' :: _ | '?' :: '!' :: _ | '?' :: '<' :: '=' :: _ | '?' :: '<' :: '!' :: _ =>
      .error "look-around is not supported"
    | '?' :: 'P' :: '<' :: rest => named rest
    | '?' :: '<' :: rest => named rest
    | '?' :: rest =>
      match readFlagItems rest false false [] with
      | .error e => .error e
      | .ok (items, ')' :: after) =>
        if items.isEmpty then .error "repetition operator missing expression"
        else .ok (.setFlags (f.set items) after)
      | .ok (items, _ :: after) =>
        match readBranches fuel true (f.set items) names [] [] after with
        | .error e => .error e
        | .ok (n, names', r) => .ok (.group n names' r)
      | .ok (_, []) => .error "unexpected end of flags"
    | body =>
      match readBranches fuel true f names [] [] body with
      | .error e => .error e
      | .ok (n, names', r) => .ok (.group n names' r)

end

/-- Reads a pattern, as described in the module header. -/
def compile (pattern : String) : Except String Node :=
  let cs := pattern.toList
  match readBranches (2 * cs.length + 2) false {} [] [] [] cs with
  | .ok (n, _, _) => .ok n
  | .error e => .error e

end Regex

end FilterQuery

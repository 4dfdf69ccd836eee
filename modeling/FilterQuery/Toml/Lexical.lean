import FilterQuery.Toml.Value

/-! # TOML lexical rules

The pieces of a TOML 1.0 document below the level of tables: white space (space and tab),
newlines (`LF` or `CR LF`), comments, keys, the four kinds of strings, and the scalar
values written without quotes.

* A comment runs from `#` to the end of the line and holds no control character but tab.
* A bare key is a non-empty run of ASCII letters, digits, `_` and `-`; a quoted key is a
  one-line basic or literal string; a dotted key joins keys with `.`, white space allowed
  around the dots.
* Basic strings take the escapes `\b \t \n \f \r \" \\ \uXXXX \UXXXXXXXX` (a Unicode scalar
  value); multi-line basic strings also take a backslash at the end of a line, which drops
  the white space and newlines after it. Literal strings take no escapes. The newline right
  after an opening triple quote is dropped; up to two quotes may stand right before the
  closing three. No string holds a control character other than tab (and newlines in the
  multi-line kinds).
* Unquoted scalars are read as one token (a date and a time may be joined by a space) and
  must be exactly a boolean, an integer (decimal without leading zeros, or `0x`, `0o`, `0b`;
  `_` only between digits; within 64 signed bits), a float (`inf`, `nan`, or a decimal
  integer part with a fraction, an exponent or both), an offset or local date-time, a local
  date or a local time. Dates must exist; times run to `23:59:60`; offsets are `Z` or
  `±hh:mm`. -/

namespace FilterQuery

namespace Toml

/-- White space: space or tab. -/
def isSpace (c : Char) : Bool := c = ' ' || c = '\t'

/-- Control characters other than tab, which no string or comment may hold. -/
def isControl (c : Char) : Bool := (c.toNat < 0x20 && c != '\t') || c.toNat = 0x7F

/-- Drops white space. -/
def skipSpace (cs : List Char) : List Char := cs.dropWhile isSpace

/-- The text after a newline at the front, if there is one. -/
def newline? : List Char → Option (List Char)
  | '\n' :: rest => some rest
  | '\r' :: '\n' :: rest => some rest
  | _ => none

/-- Reads the body of a comment after `#`, up to (not including) the end of the line. -/
def readComment : List Char → Except String (List Char)
  | [] => .ok []
  | '\n' :: rest => .ok ('\n' :: rest)
  | '\r' :: '\n' :: rest => .ok ('\r' :: '\n' :: rest)
  | c :: rest => if isControl c then .error "control character in comment" else readComment rest

/-- Drops white space and a comment, if any. -/
def skipSpaceAndComment (cs : List Char) : Except String (List Char) :=
  match skipSpace cs with
  | '#' :: rest => readComment rest
  | rest => .ok rest

/-- Whether a character may stand in a bare key. -/
def isBareKeyChar (c : Char) : Bool := c.isAlphanum || c = '_' || c = '-'

/-- The value of a hexadecimal digit. -/
def hexValue? (c : Char) : Option Nat :=
  if '0' ≤ c && c ≤ '9' then some (c.toNat - 0x30)
  else if 'a' ≤ c && c ≤ 'f' then some (c.toNat - 0x61 + 10)
  else if 'A' ≤ c && c ≤ 'F' then some (c.toNat - 0x41 + 10)
  else none

/-- The character named by hexadecimal digits, if it is a Unicode scalar value. -/
def unicodeOf? (digits : List Char) : Option Char :=
  if !digits.all (fun d => (hexValue? d).isSome) then none
  else
    let n := digits.foldl (fun acc d => acc * 16 + (hexValue? d).getD 0) 0
    if n < 0xD800 || (0xDFFF < n && n ≤ 0x10FFFF) then some (Char.ofNat n) else none

/-- The character of a one-letter escape. -/
def simpleEscape? : Char → Option Char
  | 'b' => some (Char.ofNat 8)
  | 't' => some '\t'
  | 'n' => some '\n'
  | 'f' => some (Char.ofNat 12)
  | 'r' => some '\r'
  | '"' => some '"'
  | '\\' => some '\\'
  | _ => none

/-- Reads the rest of a one-line basic string after its opening quote. -/
def readBasic (acc : List Char) : List Char → Except String (String × List Char)
  | [] => .error "unterminated string"
  | '"' :: rest => .ok (String.ofList acc.reverse, rest)
  | '\\' :: 'u' :: a :: b :: c :: d :: rest =>
    match unicodeOf? [a, b, c, d] with
    | some ch => readBasic (ch :: acc) rest
    | none => .error "invalid unicode escape"
  | '\\' :: 'U' :: a :: b :: c :: d :: e :: f :: g :: h :: rest =>
    match unicodeOf? [a, b, c, d, e, f, g, h] with
    | some ch => readBasic (ch :: acc) rest
    | none => .error "invalid unicode escape"
  | '\\' :: e :: rest =>
    match simpleEscape? e with
    | some ch => readBasic (ch :: acc) rest
    | none => .error "invalid escape"
  | c :: rest =>
    if c = '\n' || isControl c then .error "invalid character in string" else readBasic (c :: acc) rest

/-- Reads the rest of a one-line literal string after its opening quote. -/
def readLiteral (acc : List Char) : List Char → Except String (String × List Char)
  | [] => .error "unterminated string"
  | '\'' :: rest => .ok (String.ofList acc.reverse, rest)
  | c :: rest =>
    if c = '\n' || isControl c then .error "invalid character in string"
    else readLiteral (c :: acc) rest

/-- Drops the newline right after an opening triple quote. -/
def dropFirstNewline (cs : List Char) : List Char := (newline? cs).getD cs

/-- Drops white space and newlines after a line-ending backslash. -/
def skipSpaceAndNewlines : List Char → List Char
  | [] => []
  | c :: rest =>
    if isSpace c || c = '\n' then skipSpaceAndNewlines rest
    else if c = '\r' then
      match rest with
      | '\n' :: more => skipSpaceAndNewlines more
      | _ => c :: rest
    else c :: rest

/-- Whether the text after a backslash is white space up to a newline: a line-ending
    backslash. -/
def isLineEndingBackslash (cs : List Char) : Bool := (newline? (skipSpace cs)).isSome

/-- Reads the rest of a multi-line basic string; `fuel` bounds the steps (one per
    character read is enough). -/
def readMultiBasic : Nat → List Char → List Char → Except String (String × List Char)
  | 0, _, _ => .error "string too long"
  | fuel + 1, acc, cs =>
    match cs with
    | [] => .error "unterminated string"
    | '"' :: '"' :: '"' :: '"' :: '"' :: '"' :: _ => .error "too many quotes"
    | '"' :: '"' :: '"' :: '"' :: '"' :: rest => .ok (String.ofList ('"' :: '"' :: acc).reverse, rest)
    | '"' :: '"' :: '"' :: '"' :: rest => .ok (String.ofList ('"' :: acc).reverse, rest)
    | '"' :: '"' :: '"' :: rest => .ok (String.ofList acc.reverse, rest)
    | '\\' :: tail =>
      if isLineEndingBackslash tail then readMultiBasic fuel acc (skipSpaceAndNewlines tail)
      else match tail with
        | 'u' :: a :: b :: c :: d :: rest =>
          match unicodeOf? [a, b, c, d] with
          | some ch => readMultiBasic fuel (ch :: acc) rest
          | none => .error "invalid unicode escape"
        | 'U' :: a :: b :: c :: d :: e :: f :: g :: h :: rest =>
          match unicodeOf? [a, b, c, d, e, f, g, h] with
          | some ch => readMultiBasic fuel (ch :: acc) rest
          | none => .error "invalid unicode escape"
        | e :: rest =>
          match simpleEscape? e with
          | some ch => readMultiBasic fuel (ch :: acc) rest
          | none => .error "invalid escape"
        | [] => .error "unterminated string"
    | '\r' :: '\n' :: rest => readMultiBasic fuel ('\n' :: acc) rest
    | c :: rest =>
      if c = '\n' then readMultiBasic fuel ('\n' :: acc) rest
      else if isControl c then .error "invalid character in string"
      else readMultiBasic fuel (c :: acc) rest

/-- Reads the rest of a multi-line literal string. -/
def readMultiLiteral (acc : List Char) : List Char → Except String (String × List Char)
  | [] => .error "unterminated string"
  | '\'' :: '\'' :: '\'' :: '\'' :: '\'' :: '\'' :: _ => .error "too many quotes"
  | '\'' :: '\'' :: '\'' :: '\'' :: '\'' :: rest =>
    .ok (String.ofList ('\'' :: '\'' :: acc).reverse, rest)
  | '\'' :: '\'' :: '\'' :: '\'' :: rest => .ok (String.ofList ('\'' :: acc).reverse, rest)
  | '\'' :: '\'' :: '\'' :: rest => .ok (String.ofList acc.reverse, rest)
  | '\r' :: '\n' :: rest => readMultiLiteral ('\n' :: acc) rest
  | c :: rest =>
    if c = '\n' then readMultiLiteral ('\n' :: acc) rest
    else if isControl c then .error "invalid character in string"
    else readMultiLiteral (c :: acc) rest

/-- Reads a string of any kind, at its opening quote. -/
def readString? (cs : List Char) : Option (Except String (String × List Char)) :=
  match cs with
  | '"' :: '"' :: '"' :: rest =>
    let body := dropFirstNewline rest
    some (readMultiBasic (2 * body.length + 2) [] body)
  | '"' :: rest => some (readBasic [] rest)
  | '\'' :: '\'' :: '\'' :: rest => some (readMultiLiteral [] (dropFirstNewline rest))
  | '\'' :: rest => some (readLiteral [] rest)
  | _ => none

/-- Reads one key part: bare, or a one-line string. -/
def readSimpleKey (cs : List Char) : Except String (String × List Char) :=
  match cs with
  | '"' :: rest => readBasic [] rest
  | '\'' :: rest => readLiteral [] rest
  | _ =>
    let bare := cs.takeWhile isBareKeyChar
    if bare.isEmpty then .error "expected a key"
    else .ok (String.ofList bare, cs.dropWhile isBareKeyChar)

/-- Reads the parts of a dotted key after its first part. -/
def readKeyRest : Nat → List String → List Char → Except String (List String × List Char)
  | 0, _, _ => .error "key too long"
  | fuel + 1, acc, cs =>
    match skipSpace cs with
    | '.' :: rest => do
      let (k, after) ← readSimpleKey (skipSpace rest)
      readKeyRest fuel (k :: acc) after
    | _ => .ok (acc.reverse, cs)

/-- Reads a key, dotted or not, into its parts. -/
def readKey (cs : List Char) : Except String (List String × List Char) := do
  let (k, rest) ← readSimpleKey cs
  readKeyRest (rest.length + 1) [k] rest

end Toml

end FilterQuery

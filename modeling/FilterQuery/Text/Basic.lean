import FilterQuery.Text.Property

/-! # Character lists

Small operations on texts held as character lists: whether one text occurs inside another,
trimming white space (the Unicode `White_Space` property) from both ends, and comparing
without regard to ASCII case. -/

namespace FilterQuery

namespace Text

/-- Whether `w` occurs as a contiguous part of `s`. -/
def occursIn (w : List Char) : List Char → Bool
  | [] => w.isEmpty
  | c :: rest => w.isPrefixOf (c :: rest) || occursIn w rest

/-- The text without white space at either end. -/
def trim (s : List Char) : List Char :=
  ((s.dropWhile isWhiteSpace).reverse.dropWhile isWhiteSpace).reverse

/-- Whether a text is empty or white space only. -/
def isBlank (s : List Char) : Bool := s.all isWhiteSpace

/-- The ASCII lower-case letter of an upper-case one; other characters are kept. -/
def asciiLower (c : Char) : Char :=
  if 'A' ≤ c ∧ c ≤ 'Z' then Char.ofNat (c.toNat + 32) else c

/-- Equality up to ASCII case. -/
def eqIgnoreCase (a b : List Char) : Bool := a.map asciiLower == b.map asciiLower

/-- Whether the text, read without regard to ASCII case, is the given lower-case word. -/
def isWord (s : List Char) (word : String) : Bool := eqIgnoreCase s word.toList

/-- Whether the string `w` occurs in the string `s`. -/
def contains (s w : String) : Bool := occursIn w.toList s.toList

end Text

end FilterQuery

import FilterQuery.Text.CaseFold
import FilterQuery.Text.Script
import FilterQuery.Text.Binary
import FilterQuery.Text.Age
import FilterQuery.Text.Break

/-! # Sets of characters

A `CharSet` names a set of characters the way a pattern writes one: ranges of code points,
Unicode general categories and properties, and the set operations of bracketed classes.
`CharSet.contains` decides membership. Case-insensitive classes are closed under simple case
folding (`fold`): a character belongs when some character of its case class belongs to the
inner set; since case classes partition the characters, folding is a closure and commutes
with complement the way the pattern language needs (fold first, then negate).

The named sets of patterns:
* `digit`, `space`, `word` in the Unicode sense (`\d`, `\s`, `\w`): decimal numbers,
  `White_Space`, and word characters;
* the Unicode data is that of Unicode 16.0 (`Text.Category` and the tables beside it);
* the ASCII classes of `[[:name:]]` and of `\d`, `\s`, `\w` with Unicode off. -/

namespace FilterQuery

namespace Regex

open Text

/-- A Unicode property a pattern can name. -/
inductive Property where
  /-- Every character. -/
  | any
  /-- Every assigned character (not `Cn`). -/
  | assigned
  /-- The characters below 128. -/
  | ascii
  /-- The word characters of `\w`. -/
  | word
  /-- A binary property, by its long name (`Text.binaryPropertyTable?`). -/
  | binary (name : String)
  /-- The characters of a script, by its long name. -/
  | script (name : String)
  /-- The characters whose script extensions include a script, by its long name. -/
  | scriptExtension (name : String)
  /-- The characters assigned in the version at a place of `Text.ageVersions` or earlier. -/
  | age (version : Nat)
  /-- The characters with a `Grapheme_Cluster_Break` value. -/
  | graphemeBreak (value : String)
  /-- The characters with a `Word_Break` value. -/
  | wordBreak (value : String)
  /-- The characters with a `Sentence_Break` value. -/
  | sentenceBreak (value : String)
  deriving DecidableEq, Inhabited, Repr

/-- Whether a character has a property. -/
def Property.holds : Property → Char → Bool
  | .any, _ => true
  | .assigned, c => generalCategory c != .unassigned
  | .ascii, c => c.toNat < 0x80
  | .word, c => isWordChar c
  | .binary name, c => hasBinaryProperty name c
  | .script name, c => scriptOf? c == some name
  | .scriptExtension name, c => (scriptExtensionsOf c).contains name
  | .age version, c =>
    match ageOf? c with
    | some v => decide (v ≤ version)
    | none => false
  | .graphemeBreak value, c => graphemeBreakTable.find? c.toNat == some value
  | .wordBreak value, c => wordBreakTable.find? c.toNat == some value
  | .sentenceBreak value, c => sentenceBreakTable.find? c.toNat == some value

/-- A set of characters. -/
inductive CharSet where
  /-- The code points from `lo` to `hi`, both included. -/
  | range (lo hi : Nat)
  /-- The characters of any of the general categories. -/
  | category (cats : List GeneralCategory)
  /-- The characters with a property. -/
  | property (p : Property)
  | union (a b : CharSet)
  | inter (a b : CharSet)
  | diff (a b : CharSet)
  | symmDiff (a b : CharSet)
  | compl (a : CharSet)
  /-- Closure under simple case folding. -/
  | fold (a : CharSet)
  /-- Closure under ASCII case (`a`–`z` with `A`–`Z`). -/
  | foldAscii (a : CharSet)
  deriving DecidableEq, Inhabited, Repr

namespace CharSet

/-- The empty set. -/
def empty : CharSet := .range 1 0

/-- One character. -/
def single (c : Char) : CharSet := .range c.toNat c.toNat

/-- The union of a list of sets. -/
def unionAll : List CharSet → CharSet
  | [] => empty
  | [a] => a
  | a :: rest => .union a (unionAll rest)

/-- The ASCII case partner of a letter, or the character itself. -/
def asciiSwap (n : Nat) : Nat :=
  if 0x41 ≤ n ∧ n ≤ 0x5A then n + 32 else if 0x61 ≤ n ∧ n ≤ 0x7A then n - 32 else n

/-- Whether a code point belongs to the set. -/
def has : CharSet → Nat → Bool
  | .range lo hi, n => lo ≤ n && n ≤ hi
  | .category cats, n => cats.contains (generalCategory (Char.ofNat n))
  | .property p, n => p.holds (Char.ofNat n)
  | .union a b, n => a.has n || b.has n
  | .inter a b, n => a.has n && b.has n
  | .diff a b, n => a.has n && !b.has n
  | .symmDiff a b, n => a.has n != b.has n
  | .compl a, n => !a.has n
  | .fold a, n => (caseClass (Char.ofNat n)).any a.has
  | .foldAscii a, n => a.has n || a.has (asciiSwap n)

/-- Whether a character belongs to the set. -/
def contains (s : CharSet) (c : Char) : Bool := s.has c.toNat

/-- Whether every byte value of the set is below 128; sets of a pattern with Unicode off
    must pass this, since they may not match half of a multi-byte character. -/
def bytesAreAscii (s : CharSet) : Bool :=
  (List.range 128).all fun k => !s.has (128 + k)

/-- `\d`: decimal numbers. -/
def digit : CharSet := .category [.decimalNumber]

/-- `\s`: white space. -/
def space : CharSet := .property (.binary "White_Space")

/-- `\w`: word characters. -/
def word : CharSet := .property .word

/-- The ASCII classes `[[:name:]]`, by name. -/
def asciiClass? : String → Option CharSet
  | "alnum" => some (unionAll [.range 0x30 0x39, .range 0x41 0x5A, .range 0x61 0x7A])
  | "alpha" => some (unionAll [.range 0x41 0x5A, .range 0x61 0x7A])
  | "ascii" => some (.range 0 0x7F)
  | "blank" => some (unionAll [single '\t', single ' '])
  | "cntrl" => some (unionAll [.range 0 0x1F, single (Char.ofNat 0x7F)])
  | "digit" => some (.range 0x30 0x39)
  | "graph" => some (.range 0x21 0x7E)
  | "lower" => some (.range 0x61 0x7A)
  | "print" => some (.range 0x20 0x7E)
  | "punct" => some (unionAll [.range 0x21 0x2F, .range 0x3A 0x40, .range 0x5B 0x60, .range 0x7B 0x7E])
  | "space" => some (unionAll [.range 0x09 0x0D, single ' '])
  | "upper" => some (.range 0x41 0x5A)
  | "word" => some (unionAll [.range 0x30 0x39, .range 0x41 0x5A, single '_', .range 0x61 0x7A])
  | "xdigit" => some (unionAll [.range 0x30 0x39, .range 0x41 0x46, .range 0x61 0x66])
  | _ => none

/-- `\d` with Unicode off. -/
def asciiDigit : CharSet := .range 0x30 0x39

/-- `\s` with Unicode off. -/
def asciiSpace : CharSet := unionAll [.range 0x09 0x0D, single ' ']

/-- `\w` with Unicode off. -/
def asciiWord : CharSet :=
  unionAll [.range 0x30 0x39, .range 0x41 0x5A, single '_', .range 0x61 0x7A]

end CharSet

end Regex

end FilterQuery

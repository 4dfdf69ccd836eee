/-! # Tables of code point ranges

Unicode properties are given as sorted, disjoint, closed ranges of code points, each with a
tag. A table is written compactly as text, one entry per blank-separated word: the first
code point in hexadecimal, then optionally `-` and the last one, then optionally `:` and the
tag. `RangeTable.ofText` reads that text once; `RangeTable.find?` looks a code point up by
binary search. Names are listed the same way, as `name:LongName` words (`aliasPairs`).
A table whose entries must be looked up in proofs is written as a list of ranges instead
(`RangeTable.ofPairs`), which evaluates in the logic. -/

namespace FilterQuery

namespace Text

/-- A closed range of code points carrying a tag. -/
structure CodeRange (α : Type) where
  first : Nat
  last : Nat
  tag : α
  deriving Inhabited

/-- A sorted array of disjoint code point ranges. -/
structure RangeTable (α : Type) where
  entries : Array (CodeRange α)
  deriving Inhabited

/-- The value of a hexadecimal digit, for `0-9` and `A-F`. -/
def hexDigitValue (c : Char) : Nat :=
  if c.isDigit then c.toNat - '0'.toNat else c.toNat - 'A'.toNat + 10

/-- The value of a run of upper-case hexadecimal digits. -/
def hexValue (cs : List Char) : Nat := cs.foldl (fun acc c => acc * 16 + hexDigitValue c) 0

/-- One entry `first[-last][:tag]`, the tag read by `tag`. -/
def readEntry {α : Type} (tag : String → Option α) (word : String) : Option (CodeRange α) :=
  let (span, tagText) := match word.splitOn ":" with
    | [s, t] => (s, t)
    | _ => (word, "")
  let (first, last) := match span.splitOn "-" with
    | [a, b] => (hexValue a.toList, hexValue b.toList)
    | _ => (hexValue span.toList, hexValue span.toList)
  (tag tagText).map fun t => ⟨first, last, t⟩

/-- Reads a table written as in the module header; unreadable entries are skipped. -/
def RangeTable.ofText {α : Type} (tag : String → Option α) (text : String) : RangeTable α :=
  ⟨((text.splitOn " ").filterMap fun w => if w.isEmpty then none else readEntry tag w).toArray⟩

/-- A table of untagged ranges, each given by its first and last code point. -/
def RangeTable.ofPairs (ranges : List (Nat × Nat)) : RangeTable Unit :=
  ⟨(ranges.map fun r => ⟨r.1, r.2, ()⟩).toArray⟩

/-- Binary search for the range holding `c` among the entries `lo ≤ i < hi`. -/
def RangeTable.search {α : Type} (t : RangeTable α) (c : Nat) : Nat → Nat → Nat → Option α
  | 0, _, _ => none
  | fuel + 1, lo, hi =>
    if lo < hi then
      let mid := (lo + hi) / 2
      match t.entries[mid]? with
      | none => none
      | some r =>
        if c < r.first then t.search c fuel lo mid
        else if r.last < c then t.search c fuel (mid + 1) hi
        else some r.tag
    else none

/-- The tag of the range holding the code point `c`, if any. Forty halvings cover any
    table of fewer than `2^40` entries. -/
def RangeTable.find? {α : Type} (t : RangeTable α) (c : Nat) : Option α :=
  t.search c 40 0 t.entries.size

/-- Whether some range holds the code point `c`. -/
def RangeTable.contains {α : Type} (t : RangeTable α) (c : Nat) : Bool := (t.find? c).isSome

/-- A table whose entries carry no tag. -/
def RangeTable.ofRanges (text : String) : RangeTable Unit := RangeTable.ofText (fun _ => some ()) text

/-- A list of names, each with the long name it stands for, written as blank-separated
    words `name:LongName`; other words are skipped. -/
def aliasPairs (text : String) : List (String × String) :=
  (text.splitOn " ").filterMap fun w =>
    match w.splitOn ":" with
    | [name, long] => some (name, long)
    | _ => none

end Text

end FilterQuery

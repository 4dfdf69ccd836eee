import FilterQuery.Regex.CharSet

/-! # Unicode classes by name

`\p{…}` and `\P{…}` name a Unicode class. Names are matched loosely: an `is` prefix is
dropped, spaces, `_` and `-` are ignored, ASCII letters are compared without case, and
characters outside ASCII are dropped (`normalizeName`).

A bare name is looked up in this order, and the first kind that knows the name decides:
1. a property (`Text.propertyName?`), unless the name is `cf`, `sc` or `lc`, which are
   read as categories; only a binary property gives a class, so `\p{Age}` is refused;
2. a general category or category group, or `Any`, `Assigned`, `ASCII`; `Surrogate`
   gives no class, since no character is a surrogate;
3. a script; `Unknown` and `Katakana_Or_Hiragana` give no class.

A name with a value, `name=value`, `name:value` or `name!=value` (the last negated), names
a property and one of its values: a category for `General_Category`, a script for
`Script` and `Script_Extensions`, a version for `Age` (every character assigned in it or
earlier), or a value of `Grapheme_Cluster_Break`, `Word_Break` or `Sentence_Break` that
some character has. Any other name or value is refused. -/

namespace FilterQuery

namespace Regex

open Text

/-- The loose form of a property name (see the module header). -/
def normalizeName (name : String) : String :=
  let cs := name.toList
  let (startsWithIs, body) := match cs with
    | a :: b :: rest =>
      if (a = 'i' || a = 'I') && (b = 's' || b = 'S') then (true, rest) else (false, cs)
    | _ => (false, cs)
  let kept := body.filterMap fun c =>
    if c = ' ' || c = '_' || c = '-' || 0x80 ≤ c.toNat then none
    else if 'A' ≤ c && c ≤ 'Z' then some (Char.ofNat (c.toNat + 32))
    else some c
  if startsWithIs && kept = ['c'] then "isc" else String.ofList kept

/-- The general categories of a category or category group, by its long name. -/
def categoryMembers? : String → Option (List GeneralCategory)
  | "Other" => some [.control, .format, .unassigned, .privateUse, .surrogate]
  | "Control" => some [.control]
  | "Format" => some [.format]
  | "Unassigned" => some [.unassigned]
  | "Private_Use" => some [.privateUse]
  | "Letter" =>
    some [.uppercaseLetter, .lowercaseLetter, .titlecaseLetter, .modifierLetter, .otherLetter]
  | "Cased_Letter" => some [.uppercaseLetter, .lowercaseLetter, .titlecaseLetter]
  | "Lowercase_Letter" => some [.lowercaseLetter]
  | "Modifier_Letter" => some [.modifierLetter]
  | "Other_Letter" => some [.otherLetter]
  | "Titlecase_Letter" => some [.titlecaseLetter]
  | "Uppercase_Letter" => some [.uppercaseLetter]
  | "Mark" => some [.nonspacingMark, .spacingMark, .enclosingMark]
  | "Spacing_Mark" => some [.spacingMark]
  | "Enclosing_Mark" => some [.enclosingMark]
  | "Nonspacing_Mark" => some [.nonspacingMark]
  | "Number" => some [.decimalNumber, .letterNumber, .otherNumber]
  | "Decimal_Number" => some [.decimalNumber]
  | "Letter_Number" => some [.letterNumber]
  | "Other_Number" => some [.otherNumber]
  | "Punctuation" =>
    some [.connectorPunctuation, .dashPunctuation, .openPunctuation, .closePunctuation,
      .initialPunctuation, .finalPunctuation, .otherPunctuation]
  | "Connector_Punctuation" => some [.connectorPunctuation]
  | "Dash_Punctuation" => some [.dashPunctuation]
  | "Close_Punctuation" => some [.closePunctuation]
  | "Final_Punctuation" => some [.finalPunctuation]
  | "Initial_Punctuation" => some [.initialPunctuation]
  | "Other_Punctuation" => some [.otherPunctuation]
  | "Open_Punctuation" => some [.openPunctuation]
  | "Symbol" => some [.mathSymbol, .currencySymbol, .modifierSymbol, .otherSymbol]
  | "Currency_Symbol" => some [.currencySymbol]
  | "Modifier_Symbol" => some [.modifierSymbol]
  | "Math_Symbol" => some [.mathSymbol]
  | "Other_Symbol" => some [.otherSymbol]
  | "Separator" => some [.spaceSeparator, .lineSeparator, .paragraphSeparator]
  | "Line_Separator" => some [.lineSeparator]
  | "Paragraph_Separator" => some [.paragraphSeparator]
  | "Space_Separator" => some [.spaceSeparator]
  | _ => none

/-- The long name of a loose category name, `any`, `assigned` and `ascii` included. -/
def categoryLongName? (norm : String) : Option String :=
  match norm with
  | "any" => some "Any"
  | "assigned" => some "Assigned"
  | "ascii" => some "ASCII"
  | _ => categoryName? norm

/-- The class of a category or group by its long name, `Any`, `Assigned` and `ASCII`
    included. -/
def categoryClass? (long : String) : Option CharSet :=
  match long with
  | "Any" => some (.property .any)
  | "Assigned" => some (.property .assigned)
  | "ASCII" => some (.property .ascii)
  | _ => (categoryMembers? long).map CharSet.category

/-- The class of a binary property, by its long name. -/
def binaryClass? (long : String) : Option CharSet :=
  (binaryPropertyTable? long).map fun _ => .property (.binary long)

/-- The class of a script, by its long name. -/
def scriptClass? (long : String) : Option CharSet :=
  if isScript long then some (.property (.script long)) else none

/-- The class of a script's extensions, by the script's long name. -/
def scriptExtensionClass? (long : String) : Option CharSet :=
  if isScript long then some (.property (.scriptExtension long)) else none

/-- The class of the characters assigned in a version or earlier, by its long name. -/
def ageClass? (long : String) : Option CharSet :=
  (ageIndex? long).map fun i => .property (.age i)

/-- The class of a bare name, looked up as the module header says. -/
def namedClass? (name : String) : Option CharSet :=
  let norm := normalizeName name
  let property := if norm = "cf" || norm = "sc" || norm = "lc" then none else propertyName? norm
  match property with
  | some long => binaryClass? long
  | none =>
    match categoryLongName? norm with
    | some long => categoryClass? long
    | none => (scriptName? norm).bind scriptClass?

/-- The class of a segmentation value by a loose name: its long name among `names`, kept
    only when some character has it. -/
def breakClass? (names : List (String × String)) (values : List String)
    (make : String → Property) (norm : String) : Option CharSet :=
  match names.lookup norm with
  | some long => if values.contains long then some (.property (make long)) else none
  | none => none

/-- The class of `name=value`, as the module header says. -/
def valueClass? (name value : String) : Option CharSet :=
  let v := normalizeName value
  match propertyName? (normalizeName name) with
  | some "General_Category" => (categoryLongName? v).bind categoryClass?
  | some "Script" => (scriptName? v).bind scriptClass?
  | some "Script_Extensions" => (scriptName? v).bind scriptExtensionClass?
  | some "Age" => (ageName? v).bind ageClass?
  | some "Grapheme_Cluster_Break" =>
    breakClass? graphemeBreakNames graphemeBreakValues .graphemeBreak v
  | some "Word_Break" => breakClass? wordBreakNames wordBreakValues .wordBreak v
  | some "Sentence_Break" => breakClass? sentenceBreakNames sentenceBreakValues .sentenceBreak v
  | _ => none

end Regex

end FilterQuery

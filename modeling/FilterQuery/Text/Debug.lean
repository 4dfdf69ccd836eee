import FilterQuery.Text.Property

/-! # Quoted display of characters and texts

`Text.quoteChar` and `Text.quoteString` write a character between single quotes and a text
between double quotes, the way diagnostics show them: `\0 \t \r \n \\` by backslash, the
quote that delimits by backslash, and every character that is not printable, or that
extends a grapheme, as `\u{hex}` with lower-case digits. -/

namespace FilterQuery

namespace Text

/-- Lower-case hexadecimal digits of a number, without leading zeros. -/
def hexLower (n : Nat) : String :=
  String.ofList (Nat.toDigits 16 n)

/-- `\u{hex}` for a character. -/
def unicodeEscape (c : Char) : String := "\\u\x7b" ++ hexLower c.toNat ++ "\x7d"

/-- A character as shown between quotes; `inChar` when the quotes are single. -/
def escapeShown (inChar : Bool) (c : Char) : String :=
  if c = Char.ofNat 0 then "\\0"
  else if c = '\t' then "\\t"
  else if c = '\r' then "\\r"
  else if c = '\n' then "\\n"
  else if c = '\\' then "\\\\"
  else if c = '"' && !inChar then "\\\""
  else if c = '\'' && inChar then "\\'"
  else if isGraphemeExtend c || !isPrintable c then unicodeEscape c
  else String.singleton c

/-- A character between single quotes. -/
def quoteChar (c : Char) : String := "'" ++ escapeShown true c ++ "'"

/-- A text between double quotes. -/
def quoteString (s : String) : String :=
  "\"" ++ String.join (s.toList.map (escapeShown false)) ++ "\""

end Text

end FilterQuery

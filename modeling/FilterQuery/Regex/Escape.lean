/-! # Escaping text for regular expressions

`Regex.escape` writes a text as a pattern that matches exactly that text: each of the
characters that have a meaning in patterns, ``\ . + * ? ( ) | [ ] { } ^ $ # & - ~``, is
preceded by a backslash, and every other character stands for itself. -/

namespace FilterQuery

namespace Regex

/-- The characters with a meaning in patterns. -/
def isMetaChar (c : Char) : Bool :=
  c = '\\' || c = '.' || c = '+' || c = '*' || c = '?' || c = '(' || c = ')' || c = '|' ||
    c = '[' || c = ']' || c = '{' || c = '}' || c = '^' || c = '$' || c = '#' || c = '&' ||
    c = '-' || c = '~'

/-- A pattern that matches exactly the given text. -/
def escape (s : List Char) : List Char :=
  s.flatMap fun c => if isMetaChar c then ['\\', c] else [c]

end Regex

end FilterQuery

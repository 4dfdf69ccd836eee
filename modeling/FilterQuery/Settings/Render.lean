import FilterQuery.Settings.Basic

/-! # Writing settings as TOML

`Settings.toToml` writes the three sections of the settings as a settings file would hold
them, each section as a table, the sections apart by a blank line.

A text is written in the first of these forms that can hold it: a basic string `"…"` when it
has no `"`, no backslash, no newline and no control character but tab (a tab written `\t`);
a literal string `'…'` when it has no `'`, no newline and no control character but tab; a
multi-line basic string `"""…"""` when it has no backslash, no control character but tab
and newline, and no run of three `"`; a multi-line literal string `'''…'''` when it has no
control character but tab and newline and no run of three `'`; else an escaped basic string
(multi-line when it holds a newline).

An array of more than one item is written one item a line, indented by four spaces, each
followed by a comma; a shorter array stays on one line. -/

namespace FilterQuery

namespace Toml

/-- Whether a character must be written as an escape code: a control character other than
    tab and newline. -/
def needsCode (c : Char) : Bool := (c.toNat ≤ 0x1F && c != '\t' && c != '\n') || c.toNat = 0x7F

/-- The longest run of a character in a text. -/
def longestRun (q : Char) (cs : List Char) : Nat :=
  (cs.foldl (fun (best, cur) c => if c = q then (max best (cur + 1), cur + 1) else (best, 0))
    (0, 0)).1

/-- Four hexadecimal digits, upper case. -/
def hex4 (n : Nat) : String :=
  let ds := Nat.toDigits 16 n
  String.ofList ((List.replicate (4 - ds.length) '0' ++ ds).map Char.toUpper)

/-- A character inside an escaped basic string. -/
def escapeBasic (multiLine : Bool) (c : Char) : String :=
  if c.toNat = 8 then "\\b"
  else if c = '\t' then "\\t"
  else if c = '\n' then (if multiLine then "\n" else "\\n")
  else if c.toNat = 12 then "\\f"
  else if c = '\r' then "\\r"
  else if c = '"' then "\\\""
  else if c = '\\' then "\\\\"
  else if c.toNat ≤ 0x1F || c.toNat = 0x7F then "\\u" ++ hex4 c.toNat
  else String.singleton c

/-- A text as a TOML string, in the form described in the module header. -/
def writeString (s : String) : String :=
  let cs := s.toList
  let codes := cs.any needsCode
  let newline := cs.contains '\n'
  let backslash := cs.contains '\\'
  let escaped (ml : Bool) := String.join (cs.map (escapeBasic ml))
  if !codes && !backslash && !cs.contains '"' && !newline then "\"" ++ escaped false ++ "\""
  else if !codes && !cs.contains '\'' && !newline then "'" ++ s ++ "'"
  else if !codes && !backslash && longestRun '"' cs ≤ 2 then
    "\"\"\"\n" ++ escaped true ++ "\"\"\""
  else if !codes && longestRun '\'' cs ≤ 2 then "'''\n" ++ s ++ "'''"
  else if newline then "\"\"\"\n" ++ escaped true ++ "\"\"\""
  else "\"" ++ escaped false ++ "\""

/-- An array of written items. -/
def writeArray : List String → String
  | [] => "[]"
  | [x] => "[" ++ x ++ "]"
  | xs => "[\n" ++ String.join (xs.map fun x => "    " ++ x ++ ",\n") ++ "]"

end Toml

namespace Settings

/-- The settings as TOML text (see the module header). -/
def toToml (s : Settings) : String :=
  "[parser]\n" ++
  "quotes = " ++ Toml.writeArray (s.parser.quotes.map fun c => Toml.writeString (String.singleton c)) ++ "\n" ++
  "max_depth = " ++ toString s.parser.maxDepth ++ "\n" ++
  "placeholder_max_len = " ++ toString s.parser.placeholderMaxLen ++ "\n" ++
  "like = \"" ++ s.parser.like.name ++ "\"\n" ++
  "\n[cache]\n" ++
  "enabled = " ++ (if s.cache.enabled then "true" else "false") ++ "\n" ++
  "capacity = " ++ toString s.cache.capacity ++ "\n" ++
  "\n[document]\n" ++
  "negation = \"" ++ s.document.negation.name ++ "\"\n"

end Settings

end FilterQuery

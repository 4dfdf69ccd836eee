import FilterQuery.Json.Basic
import FilterQuery.Binary64.Text

/-! # Writing JSON text

`Json.render` writes a value compactly. Strings escape the quote, the backslash and the
control characters; other characters are written as they are. Floats use the number text
of `Binary64.toText`, which always has a fraction part or an exponent, so a float never reads
back as an integer. -/

namespace FilterQuery

namespace Json

/-- The hexadecimal digit for a value below sixteen. -/
def hexDigit (n : Nat) : Char :=
  if n < 10 then Char.ofNat ('0'.toNat + n) else Char.ofNat ('a'.toNat + n - 10)

/-- The escaped form of one character inside a JSON string. -/
def escapeChar (c : Char) : String :=
  match c with
  | '"' => "\\\""
  | '\\' => "\\\\"
  | '\n' => "\\n"
  | '\r' => "\\r"
  | '\t' => "\\t"
  | '\x08' => "\\b"
  | '\x0c' => "\\f"
  | _ =>
    if c.toNat < 0x20 then
      "\\u00" ++ String.singleton (hexDigit (c.toNat / 16)) ++ String.singleton (hexDigit (c.toNat % 16))
    else String.singleton c

/-- A string as a JSON string literal. -/
def quote (s : String) : String :=
  "\"" ++ String.join (s.toList.map escapeChar) ++ "\""

mutual

/-- The compact text of a value, written after `out`. -/
def renderTo (out : String) : Json → String
  | .null => out ++ "null"
  | .bool true => out ++ "true"
  | .bool false => out ++ "false"
  | .int i => out ++ toString i
  | .float x => out ++ x.toText
  | .str s => out ++ quote s
  | .arr items => renderItemsTo (out ++ "[") items ++ "]"
  | .obj fields => renderFieldsTo (out ++ "\x7b") fields ++ "\x7d"

/-- Array items separated by commas, written after `out`. -/
def renderItemsTo (out : String) : List Json → String
  | [] => out
  | [v] => renderTo out v
  | v :: rest => renderItemsTo (renderTo out v ++ ",") rest

/-- Object fields separated by commas, written after `out`. -/
def renderFieldsTo (out : String) : List (String × Json) → String
  | [] => out
  | [(k, v)] => renderTo (out ++ quote k ++ ":") v
  | (k, v) :: rest => renderFieldsTo (renderTo (out ++ quote k ++ ":") v ++ ",") rest

end

/-- The compact text of a value. Each piece is appended to the text written so far, so
    the cost grows with the length of the text. -/
def render (v : Json) : String := renderTo "" v

end Json

end FilterQuery

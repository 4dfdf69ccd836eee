import FilterQuery.Settings.Basic
import FilterQuery.Toml.Document

/-! # Reading a settings file

`Layer.ofToml` reads the settings of one file from its TOML text. The text must be a valid
TOML document; keys the settings do not know are ignored, and a known key must hold a value
of its type:

* `root`, `cache.enabled`: booleans;
* `parser.max_depth`, `parser.placeholder_max_len`, `cache.capacity`: integers, not negative;
* `parser.quotes`: a string or an array of strings;
* `parser.like`: `"regex"` or `"sql"`; `document.negation`: `"not"` or `"nor"` (a one-key
  table naming the choice, holding an empty table or array, is taken too);
* each section: a table, or an array giving the section's fields in order (missing ones
  unset, extra ones ignored). -/

namespace FilterQuery

open Query Toml

namespace Layer

/-- A boolean setting. -/
def decodeBool : Value → Except String Bool
  | .bool b => .ok b
  | _ => .error "expected a boolean"

/-- A count setting. -/
def decodeCount : Value → Except String Nat
  | .int i => if 0 ≤ i then .ok i.toNat else .error "expected a non-negative integer"
  | _ => .error "expected an integer"

/-- A list of texts, given as one text or an array of texts. -/
def decodeTexts : Value → Except String (List String)
  | .str s => .ok [s]
  | .arr items => items.mapM fun
    | .str s => .ok s
    | _ => .error "expected a string"
  | _ => .error "expected a string or an array of strings"

/-- One of a fixed set of named choices. -/
def decodeChoice {α : Type} (choices : List (String × α)) : Value → Except String α
  | .str s =>
    match choices.lookup s with
    | some a => .ok a
    | none => .error "unknown variant"
  | .table [(k, v)] =>
    match choices.lookup k, v with
    | some a, .table [] => .ok a
    | some a, .arr [] => .ok a
    | _, _ => .error "unknown variant"
  | _ => .error "expected a string"

/-- The values of a section's fields, by name from a table or in order from an array. -/
def sectionFields (names : List String) : Value → Except String (List (Option Value))
  | .table fields => .ok (names.map fun n => fields.lookup n)
  | .arr items => .ok ((List.range names.length).map fun i => items[i]?)
  | _ => .error "expected a table"

/-- Decodes an optional field. -/
def field {α : Type} (decode : Value → Except String α) : Option Value → Except String (Option α)
  | some v => some <$> decode v
  | none => .ok none

/-- The `[parser]` section. -/
def decodeParser (v : Value) : Except String ParserLayer := do
  match ← sectionFields ["quotes", "max_depth", "placeholder_max_len", "like"] v with
  | [q, d, p, l] =>
    return { quotes := ← field decodeTexts q, maxDepth := ← field decodeCount d,
             placeholderMaxLen := ← field decodeCount p,
             like := ← field (decodeChoice [("regex", .regex), ("sql", .sql)]) l }
  | _ => throw "malformed section"

/-- The `[cache]` section. -/
def decodeCache (v : Value) : Except String CacheLayer := do
  match ← sectionFields ["enabled", "capacity"] v with
  | [e, c] => return { enabled := ← field decodeBool e, capacity := ← field decodeCount c }
  | _ => throw "malformed section"

/-- The `[document]` section. -/
def decodeDocument (v : Value) : Except String DocumentLayer := do
  match ← sectionFields ["negation"] v with
  | [n] => return { negation := ← field (decodeChoice [("not", .not), ("nor", .nor)]) n }
  | _ => throw "malformed section"

/-- The settings of a TOML document. -/
def ofToml (text : String) : Except String Layer := do
  let doc ← Toml.read text
  return { root := ← field decodeBool (doc.lookup "root"),
           parser := ← field decodeParser (doc.lookup "parser"),
           cache := ← field decodeCache (doc.lookup "cache"),
           document := ← field decodeDocument (doc.lookup "document") }

end Layer

end FilterQuery

import FilterQuery.Query.Basic
import FilterQuery.Emit.Document

/-! # Settings

The settings of the tools, in three sections: how filters are read (`ParseOptions`), the
cache of parsed filters, and how filter documents are written. Settings come from files,
each a `Layer` whose every setting is optional; layers are merged over the defaults, the
file of highest precedence last (`Settings/Merge`). -/

namespace FilterQuery

open Query

/-- The cache of parsed filters. -/
structure CacheSettings where
  /-- Whether parsed filters are kept. -/
  enabled : Bool := true
  /-- How many parsed filters are kept at most. -/
  capacity : Nat := 1024
  deriving DecidableEq, Inhabited, Repr

/-- How filter documents are written. -/
structure DocumentSettings where
  /-- How `NOT (…)` is written. -/
  negation : NegationStyle := .not
  deriving DecidableEq, Inhabited, Repr

/-- The settings of the tools, and the files they were merged from. -/
structure Settings where
  parser : ParseOptions := {}
  cache : CacheSettings := {}
  document : DocumentSettings := {}
  /-- The directory of the file of highest precedence. -/
  configRoot : Option String := none
  /-- The paths of the files merged, highest precedence first. -/
  sources : List String := []
  deriving Inhabited

/-- The `[parser]` section of one file. -/
structure ParserLayer where
  quotes : Option (List String) := none
  maxDepth : Option Nat := none
  placeholderMaxLen : Option Nat := none
  like : Option LikeSyntax := none
  deriving Inhabited, Repr

/-- The `[cache]` section of one file. -/
structure CacheLayer where
  enabled : Option Bool := none
  capacity : Option Nat := none
  deriving Inhabited, Repr

/-- The `[document]` section of one file. -/
structure DocumentLayer where
  negation : Option NegationStyle := none
  deriving Inhabited, Repr

/-- The settings one file gives. -/
structure Layer where
  /-- Whether the search for files of lower precedence stops at this one. -/
  root : Option Bool := none
  parser : Option ParserLayer := none
  cache : Option CacheLayer := none
  document : Option DocumentLayer := none
  deriving Inhabited, Repr

/-- The name of a `LIKE` syntax in settings files. -/
def Query.LikeSyntax.name : LikeSyntax → String
  | .regex => "regex"
  | .sql => "sql"

/-- The name of a negation style in settings files. -/
def NegationStyle.name : NegationStyle → String
  | .not => "not"
  | .nor => "nor"

end FilterQuery

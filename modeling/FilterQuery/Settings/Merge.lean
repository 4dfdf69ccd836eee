import FilterQuery.Settings.Decode
import FilterQuery.Text.Debug

/-! # Merging settings files

Settings files are given highest precedence first. `Settings.load` reads each (a file that
is not valid is refused by its path, the first such file in the given order), then applies
them to the defaults from the last to the first, so that a setting in a file of higher
precedence wins. Quotes given by a file replace the quotes so far, and each must be one
character; the first offending file in the order of application is reported. The merged
settings record the directory of the first file and the paths of all of them.

`Settings.warnings` lists what makes settings unusable: no quote character; a quote that is
a letter or digit, white space, or one of `( ) , = ! < > \`; a zero nesting depth or
placeholder length; an enabled cache of capacity zero.

`parentPath` is the directory part of a path, by its components: `/p/f` gives `/p`, `f`
gives the empty path, and `/` or the empty path have none. -/

namespace FilterQuery

open Query

/-- Why settings files cannot be loaded. -/
inductive SettingsError where
  /-- The file at `path` is not a valid settings file. -/
  | unreadable (path : String)
  /-- A quote of the file at `path` is not one character. -/
  | invalidQuote (path : String) (value : String)
  deriving DecidableEq, Inhabited, Repr

/-- The sentence that describes a settings error. -/
def SettingsError.message : SettingsError → String
  | .unreadable path => "failed to parse config file " ++ path
  | .invalidQuote path value =>
    "invalid quote " ++ Text.quoteString value ++ " in " ++ path ++
      ": quotes must be single characters"

/-- A settings file: its path and what it sets. -/
structure SettingsFile where
  path : String
  layer : Layer
  deriving Inhabited, Repr

/-- Drops separators and `.` components from the end of the body of a path. -/
def trimPathEnd : Nat → List Char → List Char
  | 0, cs => cs
  | fuel + 1, cs =>
    match cs.reverse with
    | '/' :: rest => trimPathEnd fuel rest.reverse
    | '.' :: '/' :: rest => trimPathEnd fuel ('/' :: rest).reverse
    | ['.'] => []
    | _ => cs

/-- The directory part of a path (see the module header). -/
def parentPath (path : String) : Option String :=
  let cs := path.toList
  let root := cs.head? == some '/'
  let curDir := !root && (cs == ['.'] || cs.take 2 == ['.', '/'])
  let lead := if root || curDir then 1 else 0
  let body := trimPathEnd (cs.length + 1) (cs.drop lead)
  if body.isEmpty then
    if curDir then some "" else none
  else
    let dir := (body.reverse.dropWhile (· != '/')).reverse
    some (String.ofList (cs.take lead ++ trimPathEnd (dir.length + 1) dir))

namespace Settings

/-- The one character of a quote setting. -/
def quoteChar (path value : String) : Except SettingsError Char :=
  match value.toList with
  | [c] => .ok c
  | _ => .error (.invalidQuote path value)

/-- Applies the `[parser]` section of a file. -/
def applyParser (path : String) (opts : ParseOptions) (l : ParserLayer) :
    Except SettingsError ParseOptions := do
  let quotes ← match l.quotes with
    | some qs => qs.mapM (quoteChar path)
    | none => pure opts.quotes
  return { quotes, maxDepth := l.maxDepth.getD opts.maxDepth,
           placeholderMaxLen := l.placeholderMaxLen.getD opts.placeholderMaxLen,
           like := l.like.getD opts.like }

/-- Applies the `[cache]` section of a file. -/
def applyCache (c : CacheSettings) (l : CacheLayer) : CacheSettings :=
  { enabled := l.enabled.getD c.enabled, capacity := l.capacity.getD c.capacity }

/-- Applies the `[document]` section of a file. -/
def applyDocument (d : DocumentSettings) (l : DocumentLayer) : DocumentSettings :=
  { negation := l.negation.getD d.negation }

/-- Applies the sections a file has to the settings so far. -/
def apply (s : Settings) (file : SettingsFile) : Except SettingsError Settings := do
  let parser ← file.layer.parser.elim (pure s.parser) (applyParser file.path s.parser)
  return { s with parser,
                  cache := file.layer.cache.elim s.cache (applyCache s.cache),
                  document := file.layer.document.elim s.document (applyDocument s.document) }

/-- Merges settings files given highest precedence first, and records where they come from. -/
def merge (files : List SettingsFile) : Except SettingsError Settings := do
  let s ← files.reverse.foldlM apply {}
  return { s with configRoot := files.head?.bind (parentPath ·.path), sources := files.map (·.path) }

/-- Reads and merges settings files, given as path and text, highest precedence first. -/
def load (files : List (String × String)) : Except SettingsError (List SettingsFile × Settings) := do
  let parsed ← files.mapM fun (path, text) =>
    match Layer.ofToml text with
    | .ok layer => .ok { path, layer : SettingsFile }
    | .error _ => .error (SettingsError.unreadable path)
  return (parsed, ← merge parsed)

/-- Whether a quote character clashes with the filter syntax. -/
def clashes (c : Char) : Bool :=
  Text.isAlphanumeric c || Text.isWhiteSpace c || "(),=!<>\\".toList.contains c

/-- The warnings about settings, as sentences. -/
def warnings (s : Settings) : List String :=
  (if s.parser.quotes.isEmpty then ["no quote characters configured"] else []) ++
  (s.parser.quotes.filter clashes).map (fun c =>
    "quote character " ++ Text.quoteChar c ++ " conflicts with filter syntax") ++
  (if s.parser.maxDepth = 0 then ["parser.max_depth = 0 rejects all parenthesized groups"]
   else []) ++
  (if s.parser.placeholderMaxLen = 0 then
    ["parser.placeholder_max_len = 0 rejects all quoted literals"] else []) ++
  (if s.cache.enabled && s.cache.capacity = 0 then ["cache is enabled but cache.capacity is 0"]
   else [])

end Settings

end FilterQuery

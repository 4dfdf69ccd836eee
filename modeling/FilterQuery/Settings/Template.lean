/-! # Settings file templates

Two commented-out settings files to start from: one for a directory (`local`) and one for
the home directory (`global`). Each lists the settings with their defaults and what they do;
`Template.text` comments out every line that is neither empty nor a comment already, so the
file changes nothing until a line is uncommented. -/

namespace FilterQuery

namespace Template

/-- The lines of the template for a directory. -/
def localLines : List String := [
  "# sieve configuration",
  "#",
  "# Settings in this file apply to this directory and everything below it.",
  "# Closer files override settings from parent directories and ~/.sieve.toml.",
  "",
  "# Stop looking for configuration in parent directories and ~/.sieve.toml.",
  "root = false",
  "",
  "[parser]",
  "# Characters that open and close quoted literals (a string or a list).",
  "quotes = [\"'\", \"\\\"\", \"`\"]",
  "# Maximum parenthesis nesting depth.",
  "max_depth = 64",
  "# Longest placeholder marker tried when protecting quoted literals.",
  "placeholder_max_len = 4",
  "# LIKE patterns: \"regex\" (unanchored regular expression) or \"sql\" (% and _ wildcards).",
  "like = \"regex\"",
  "",
  "[cache]",
  "# Memoize parsed filters.",
  "enabled = true",
  "# Maximum number of memoized filters.",
  "capacity = 1024",
  "",
  "[document]",
  "# NOT (...) groups: \"not\" writes \x7b\"$not\": ...\x7d, \"nor\" writes \x7b\"$nor\": [...]\x7d.",
  "negation = \"not\""]

/-- The lines of the template for the home directory. -/
def globalLines : List String := [
  "# sieve global configuration (~/.sieve.toml)",
  "#",
  "# Lowest-precedence settings, overridden by any .sieve.toml in the working",
  "# directory or its parents.",
  "",
  "[parser]",
  "# Characters that open and close quoted literals (a string or a list).",
  "quotes = [\"'\", \"\\\"\", \"`\"]",
  "# LIKE patterns: \"regex\" (unanchored regular expression) or \"sql\" (% and _ wildcards).",
  "like = \"regex\"",
  "",
  "[cache]",
  "# Memoize parsed filters.",
  "enabled = true",
  "# Maximum number of memoized filters.",
  "capacity = 1024",
  "",
  "[document]",
  "# NOT (...) groups: \"not\" writes \x7b\"$not\": ...\x7d, \"nor\" writes \x7b\"$nor\": [...]\x7d.",
  "negation = \"not\""]

/-- A template line as written out: commented out unless empty or a comment. -/
def commentOut (line : String) : String :=
  if line.isEmpty || line.startsWith "#" then line ++ "\n" else "# " ++ line ++ "\n"

/-- The text of a template, the global one or the one for a directory. -/
def text (global : Bool) : String :=
  String.join ((if global then globalLines else localLines).map commentOut)

end Template

end FilterQuery

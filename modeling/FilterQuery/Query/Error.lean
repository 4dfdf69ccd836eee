import FilterQuery.Text.Basic

/-! # Errors of reading a filter

A filter text is refused for a malformed filter or because no placeholder marker is free.
A malformed filter carries its cause (`SyntaxIssue`) and, when it is tied to a piece of the
text, that piece (the *fragment*). `SyntaxIssue.text` gives each cause its sentence;
`QueryError.message` adds the fragment, cut to sixty characters; `QueryError.hint` picks
advice by the first of a fixed list of phrases that the sentence contains. -/

namespace FilterQuery

namespace Query

/-- The causes of a syntax error. -/
inductive SyntaxIssue where
  /-- An opening parenthesis has no partner. -/
  | unclosedParen
  /-- A closing parenthesis has no partner. -/
  | unexpectedParen
  /-- A quoted span runs to the end of the text. -/
  | unterminatedQuote
  /-- Two parenthesized groups follow each other without a connective. -/
  | groupsWithoutConnective
  /-- Text follows a parenthesized group without a connective. -/
  | textAfterGroup
  /-- Parentheses nest deeper than allowed. -/
  | tooDeep
  /-- A pair of parentheses holds nothing. -/
  | emptyGroup
  /-- `!` is not followed by `=`. -/
  | bangWithoutEquals
  /-- A clause does not start with a word. -/
  | expectedField
  /-- A single-quoted literal stands where a field name belongs. -/
  | literalAsField (quoted : String)
  /-- A quoted field name is empty. -/
  | emptyFieldName
  /-- A word that cannot be a field name stands where one belongs. -/
  | notAField (word : String)
  /-- A field is not followed by anything. -/
  | missingOperator (field : String)
  /-- `IS` is not followed by `NULL`. -/
  | expectedNull
  /-- `NOT` is not followed by `BETWEEN`, `IN` or `LIKE`. -/
  | expectedKeywordAfterNot
  /-- A field is followed by something that is no operator. -/
  | unknownOperator (field : String) (found : String)
  /-- Tokens are left after a complete clause. -/
  | trailingToken (found : String)
  /-- A `BETWEEN` clause lacks `low AND high`. -/
  | betweenShape
  /-- `IN` is not followed by a parenthesis. -/
  | listNotParenthesized
  /-- An `IN` list has an empty entry. -/
  | emptyListValue
  /-- An `IN` list is not closed. -/
  | unclosedList
  /-- A `LIKE` pattern is not a string. -/
  | patternNotText
  /-- A value contains a token that is not a word. -/
  | tokenInValue (found : String)
  /-- A value is empty. -/
  | missingValue
  /-- A quoted literal is joined to other text. -/
  | literalNotAlone
  /-- A value of several words is none of the literal forms. -/
  | unrecognizedValue (text : String)
  deriving DecidableEq, Inhabited, Repr

/-- The sentence of each cause. -/
def SyntaxIssue.text : SyntaxIssue → String
  | .unclosedParen => "unbalanced parentheses: unclosed '('"
  | .unexpectedParen => "unbalanced parentheses: unexpected ')'"
  | .unterminatedQuote => "unterminated quote"
  | .groupsWithoutConnective => "expected AND or OR between parenthesized groups"
  | .textAfterGroup => "expected AND or OR after a parenthesized group"
  | .tooDeep => "max nesting exceeded"
  | .emptyGroup => "empty parenthesized group"
  | .bangWithoutEquals => "expected '=' after '!'"
  | .expectedField => "expected a field name"
  | .literalAsField quoted => quoted ++ " is a string literal, not a field name"
  | .emptyFieldName => "empty field name"
  | .notAField word => "expected a field name, found `" ++ word ++ "`"
  | .missingOperator field => "expected an operator after field `" ++ field ++ "`"
  | .expectedNull => "expected NULL after IS"
  | .expectedKeywordAfterNot => "expected BETWEEN, IN or LIKE after NOT"
  | .unknownOperator field found =>
    "unrecognized clause: expected an operator after field `" ++ field ++ "`, found " ++ found
  | .trailingToken found => "unexpected " ++ found ++ " at end of clause"
  | .betweenShape => "BETWEEN requires `low AND high`"
  | .listNotParenthesized => "IN list must be parenthesized"
  | .emptyListValue => "empty value in IN list"
  | .unclosedList => "unclosed IN list"
  | .patternNotText => "LIKE pattern must be a quoted string"
  | .tokenInValue found => "unexpected " ++ found ++ " in value"
  | .missingValue => "missing value"
  | .literalNotAlone => "quoted literal must stand alone as a value"
  | .unrecognizedValue text => "unrecognized value `" ++ text ++ "` (quote text that contains spaces)"

/-- Why a filter text is refused. -/
inductive QueryError where
  /-- A syntax problem, with the piece of text it concerns when there is one. -/
  | malformed (issue : SyntaxIssue) (fragment : Option String)
  /-- Every marker of at most `maxLen` letters occurs in the text. -/
  | placeholderExhausted (maxLen : Nat)
  deriving DecidableEq, Inhabited, Repr

namespace QueryError

/-- A syntax error without a fragment. -/
def bare (issue : SyntaxIssue) : QueryError := .malformed issue none

/-- A syntax error about a piece of text. -/
def at_ (issue : SyntaxIssue) (fragment : String) : QueryError := .malformed issue (some fragment)

/-- Attaches a fragment to a syntax error that has none. -/
def orFragment (e : QueryError) (fragment : String) : QueryError :=
  match e with
  | .malformed issue none => .malformed issue (some fragment)
  | other => other

/-- Longest fragment shown in full, in characters. -/
def fragmentLimit : Nat := 60

/-- The fragment as shown in a message: ` (in `…`)`, cut after sixty characters. -/
def fragmentSuffix : Option String → String
  | none => ""
  | some f =>
    if fragmentLimit < f.length then " (in `" ++ String.ofList (f.toList.take fragmentLimit) ++ "...`)"
    else " (in `" ++ f ++ "`)"

/-- The bare sentence of the error. -/
def detail : QueryError → String
  | .malformed issue _ => issue.text
  | .placeholderExhausted n =>
    "no unused placeholder token of at most " ++ toString n ++ " characters is available"

/-- The full message of the error. -/
def message : QueryError → String
  | .malformed issue fragment => "filter syntax error: " ++ issue.text ++ fragmentSuffix fragment
  | e@(.placeholderExhausted _) => e.detail

/-- Advice for the error: for a syntax error, by the first phrase its sentence contains. -/
def hint : QueryError → Option String
  | .placeholderExhausted _ => some "Shorten the quoted literals or raise `placeholder_max_len`"
  | .malformed issue _ =>
    let m := issue.text
    let has (p : String) := Text.contains m p
    if has "unclosed '('" then some "Add a closing parenthesis ) to match the opening one"
    else if has "unexpected ')'" then some "Remove the stray ) or add the matching ("
    else if has "unterminated quote" then
      some "Close the quoted literal with the same quote character it starts with"
    else if has "BETWEEN" then some "BETWEEN takes two bounds, e.g. `age BETWEEN 18 AND 30`"
    else if has "IN list" then some "IN takes a parenthesized list, e.g. `x IN (1, 2, 3)`"
    else if has "not a field name" then
      some "Quote field names with backticks or double quotes, e.g. `my field` = 1"
    else if has "max nesting exceeded" then some "Flatten some of the nested parentheses"
    else none

end QueryError

end Query

end FilterQuery

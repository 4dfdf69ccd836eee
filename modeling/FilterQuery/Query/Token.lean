import FilterQuery.Query.Basic
import FilterQuery.Query.Error

/-! # Tokens of a clause

A clause text is read as a list of tokens: parentheses, commas, comparison operators and
words. White space separates tokens and is dropped.

* `=` and `==` are equality; `!=` and `<>` are inequality; `!` alone is refused;
* `<`, `<=`, `>`, `>=` are the orderings;
* a word is a run of characters other than white space, parentheses, `,`, `=`, `!`, `<`
  and `>`. -/

namespace FilterQuery

namespace Query

/-- A token of a clause. -/
inductive Token where
  | word (text : List Char)
  | op (o : CompareOp)
  | lparen
  | rparen
  | comma
  deriving DecidableEq, Inhabited, Repr

/-- Whether a character ends a word. -/
def isWordDelimiter (c : Char) : Bool :=
  Text.isWhiteSpace c || c = '(' || c = ')' || c = ',' || c = '=' || c = '!' || c = '<' || c = '>'

/-- The token as named in an error message, between backticks. -/
def Token.describe : Token → String
  | .word w => "`" ++ String.ofList w ++ "`"
  | .op o => "`" ++ o.symbol ++ "`"
  | .lparen => "`(`"
  | .rparen => "`)`"
  | .comma => "`,`"

/-- Whether the token is the given keyword, in any ASCII case. -/
def Token.isKeyword (t : Token) (keyword : String) : Bool :=
  match t with
  | .word w => Text.isWord w keyword
  | _ => false

/-- Reads the tokens of `cs` onto `acc` (reversed). -/
def lexTokens (cs : List Char) (acc : List Token) : Except QueryError (List Token) :=
  match cs with
  | [] => .ok acc.reverse
  | c :: rest =>
    if Text.isWhiteSpace c then lexTokens rest acc
    else if c = '(' then lexTokens rest (.lparen :: acc)
    else if c = ')' then lexTokens rest (.rparen :: acc)
    else if c = ',' then lexTokens rest (.comma :: acc)
    else if c = '=' then
      match _h : rest with
      | '=' :: r => lexTokens r (.op .eq :: acc)
      | _ => lexTokens rest (.op .eq :: acc)
    else if c = '!' then
      match _h : rest with
      | '=' :: r => lexTokens r (.op .ne :: acc)
      | _ => .error (.bare .bangWithoutEquals)
    else if c = '<' then
      match _h : rest with
      | '=' :: r => lexTokens r (.op .le :: acc)
      | '>' :: r => lexTokens r (.op .ne :: acc)
      | _ => lexTokens rest (.op .lt :: acc)
    else if c = '>' then
      match _h : rest with
      | '=' :: r => lexTokens r (.op .ge :: acc)
      | _ => lexTokens rest (.op .gt :: acc)
    else
      have := (List.dropWhile_sublist (fun d => !isWordDelimiter d) (l := rest)).length_le
      lexTokens (rest.dropWhile fun d => !isWordDelimiter d)
        (.word (c :: rest.takeWhile fun d => !isWordDelimiter d) :: acc)
termination_by cs.length
decreasing_by
  all_goals simp_wf
  all_goals first | omega | (subst _h; simp)

/-- The tokens of a clause text. -/
def tokenize (cs : List Char) : Except QueryError (List Token) := lexTokens cs []

end Query

end FilterQuery

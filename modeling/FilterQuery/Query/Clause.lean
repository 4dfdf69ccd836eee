import FilterQuery.Query.Token
import FilterQuery.Query.Predicate
import FilterQuery.Regex.Escape

/-! # Reading one clause

A clause is read from its tokens:
* no token at all is `true`; the single word `1` or `TRUE` is `true`, `0` or `FALSE` is
  `false` (any ASCII case);
* otherwise a field name comes first: a placeholder of a span not opened by a single quote,
  with non-empty content, or a word that starts with a letter or `_` and does not contain
  the marker;
* then one of `op value`, `IS [NOT] NULL` (or `NONE`), `[NOT] BETWEEN low AND high`,
  `[NOT] IN (value, …)` or `[NOT] LIKE pattern`; nothing may follow.

A value is the run of words up to the token that ends it, joined by single spaces and read
by `Literal.read`. `= NULL` and `!= NULL` read as `IS NULL` and `IS NOT NULL`. Any problem
inside `BETWEEN` is reported as its shape; an empty value in an `IN` list is reported as such.
A `LIKE` pattern must be a text; with the SQL pattern language it is turned into a regular expression
(`sqlLikeToRegex`).

An error without a fragment gets the clause text, trimmed and with its quoted spans put
back. -/

namespace FilterQuery

namespace Query

/-- The regular expression of a SQL `LIKE` pattern: anchored at both ends, `%` any run of
    characters, `_` any one character, every other character itself. -/
def sqlLikeToRegex (pattern : List Char) : List Char :=
  ['^'] ++ pattern.flatMap (fun c =>
    if c = '%' then ['.', '*'] else if c = '_' then ['.'] else Regex.escape [c]) ++ ['$']

/-- The words before the first token that `stop` accepts; a token that is neither is
    refused. -/
def takeWords (stop : Token → Bool) : List Token → List (List Char) →
    Except QueryError (List (List Char) × List Token)
  | [], acc => .ok (acc.reverse, [])
  | t :: rest, acc =>
    if stop t then .ok (acc.reverse, t :: rest)
    else match t with
      | .word w => takeWords stop rest (w :: acc)
      | other => .error (.bare (.tokenInValue other.describe))

/-- Words joined by single spaces. -/
def joinWords : List (List Char) → List Char
  | [] => []
  | [w] => w
  | w :: rest => w ++ ' ' :: joinWords rest

/-- Reads a value up to the token that `stop` accepts. -/
def readValue (dates : DateRecognizer) (g : Guarded) (stop : Token → Bool)
    (ts : List Token) :
    Except QueryError (Literal × List Token) := do
  let (words, rest) ← takeWords stop ts []
  let v ← Literal.read dates g (joinWords words)
  return (v, rest)

/-- Reads the field name that starts a clause. -/
def readField (g : Guarded) : List Token → Except QueryError (String × List Token)
  | .word w :: rest =>
    match g.lookup? w with
    | some quoted =>
      if quoted.head? = some '\'' then .error (.bare (.literalAsField (String.ofList quoted)))
      else
        let name := unquote quoted
        if name.isEmpty then .error (.bare .emptyFieldName) else .ok (String.ofList name, rest)
    | none =>
      let validStart := match w with
        | c :: _ => Text.isAlphabetic c || c = '_'
        | [] => false
      if !validStart || g.touches w then .error (.bare (.notAField (String.ofList (g.unguard w))))
      else .ok (String.ofList w, rest)
  | _ => .error (.bare .expectedField)

/-- Reads `low AND high` after `BETWEEN`; any problem is reported as the shape. -/
def readBetween (dates : DateRecognizer) (g : Guarded) (field : String) (negated : Bool)
    (ts : List Token) :
    Except QueryError (Predicate × List Token) :=
  let shape : QueryError := .bare .betweenShape
  match readValue dates g (fun t => t.isKeyword "and") ts with
  | .error _ => .error shape
  | .ok (low, rest) =>
    match rest with
    | t :: rest' =>
      if t.isKeyword "and" then
        match readValue dates g (fun _ => false) rest' with
        | .error _ => .error shape
        | .ok (high, rest'') => .ok (.between field low high negated, rest'')
      else .error shape
    | [] => .error shape

/-- Reads the values of an `IN` list after its first value's start, up to `)`. -/
def readListValues (dates : DateRecognizer) (g : Guarded) : Nat → List Token → List Literal →
    Except QueryError (List Literal × List Token)
  | 0, _, _ => .error (.bare .unclosedList)
  | fuel + 1, ts, acc => do
    let (v, rest) ← match readValue dates g (fun t => t = .comma || t = .rparen) ts with
      | .error (.malformed .missingValue _) => throw (.bare .emptyListValue)
      | r => r
    match rest with
    | .comma :: rest' => readListValues dates g fuel rest' (v :: acc)
    | .rparen :: rest' => return ((v :: acc).reverse, rest')
    | _ => throw (.bare .unclosedList)

/-- Reads `(value, …)` after `IN`. -/
def readIn (dates : DateRecognizer) (g : Guarded) (field : String) (negated : Bool)
    (ts : List Token) :
    Except QueryError (Predicate × List Token) :=
  match ts with
  | .lparen :: .rparen :: rest => .ok (.member field [] negated, rest)
  | .lparen :: rest => do
    let (values, rest') ← readListValues dates g (rest.length + 1) rest []
    return (.member field values negated, rest')
  | _ => .error (.bare .listNotParenthesized)

/-- Reads the pattern after `LIKE`. -/
def readLike (dates : DateRecognizer) (g : Guarded) (like : LikeSyntax) (field : String)
    (negated : Bool) (ts : List Token) : Except QueryError (Predicate × List Token) := do
  let (v, rest) ← readValue dates g (fun _ => false) ts
  match v with
  | .text p =>
    let pattern := match like with
      | .regex => p
      | .sql => String.ofList (sqlLikeToRegex p.toList)
    return (.like field pattern negated, rest)
  | _ => throw (.bare .patternNotText)

/-- Reads what follows a keyword operator (`BETWEEN`, `IN`, `LIKE`). -/
def readKeywordOperator (dates : DateRecognizer) (g : Guarded) (like : LikeSyntax) (field : String)
    (keyword : Token) (negated : Bool) (ts : List Token) :
    Except QueryError (Predicate × List Token) :=
  if keyword.isKeyword "between" then readBetween dates g field negated ts
  else if keyword.isKeyword "in" then readIn dates g field negated ts
  else if keyword.isKeyword "like" then readLike dates g like field negated ts
  else if negated then .error (.bare .expectedKeywordAfterNot)
  else .error (.bare (.unknownOperator field keyword.describe))

/-- Reads `NULL` or `NOT NULL` after `IS`. -/
def readIsNull (field : String) (ts : List Token) : Except QueryError (Predicate × List Token) :=
  let (negated, rest) := match ts with
    | t :: r => if t.isKeyword "not" then (true, r) else (false, ts)
    | [] => (false, ts)
  match rest with
  | t :: r =>
    if t.isKeyword "null" || t.isKeyword "none" then .ok (.isNull field negated, r)
    else .error (.bare .expectedNull)
  | [] => .error (.bare .expectedNull)

/-- Reads a comparison after its operator. -/
def readComparison (dates : DateRecognizer) (g : Guarded) (field : String) (op : CompareOp)
    (ts : List Token) :
    Except QueryError (Predicate × List Token) := do
  let (v, rest) ← readValue dates g (fun _ => false) ts
  match op, v with
  | .eq, .null => return (.isNull field false, rest)
  | .ne, .null => return (.isNull field true, rest)
  | _, _ => return (.compare field op v, rest)

/-- Reads a clause from its tokens, as described in the module header. -/
def readClauseTokens (dates : DateRecognizer) (g : Guarded) (like : LikeSyntax)
    (ts : List Token) :
    Except QueryError Predicate :=
  match ts with
  | [] => .ok (.const true)
  | [.word w] =>
    if w = ['1'] || Text.isWord w "true" then .ok (.const true)
    else if w = ['0'] || Text.isWord w "false" then .ok (.const false)
    else readGeneral
  | _ => readGeneral
where
  /-- A clause that starts with a field. -/
  readGeneral : Except QueryError Predicate := do
    let (field, rest) ← readField g ts
    let (node, rest') ← match rest with
      | [] => throw (.bare (.missingOperator field))
      | .op o :: r => readComparison dates g field o r
      | t :: r =>
        if t.isKeyword "is" then readIsNull field r
        else if t.isKeyword "not" then
          match r with
          | n :: r' => readKeywordOperator dates g like field n true r'
          | [] => throw (.bare .expectedKeywordAfterNot)
        else readKeywordOperator dates g like field t false r
    match rest' with
    | [] => return node
    | extra :: _ => throw (.bare (.trailingToken extra.describe))

/-- Reads one clause of guarded text; an error without a fragment gets the clause text. -/
def readClause (dates : DateRecognizer) (g : Guarded) (like : LikeSyntax) (text : List Char) :
    Except QueryError Predicate :=
  match tokenize text >>= readClauseTokens dates g like with
  | .ok p => .ok p
  | .error e => .error (e.orFragment (String.ofList (g.unguard (Text.trim text))))

end Query

end FilterQuery

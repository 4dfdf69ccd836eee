import FilterQuery.Query.Predicate

/-! # Writing predicates

`Predicate.render` writes a predicate back as filter text:
* constants as `1` and `0`;
* a junction's children joined by ` AND ` or ` OR `, a child junction in parentheses;
* a negation as `NOT (…)`;
* leaves as `field op value`, `field [NOT ]BETWEEN low AND high`,
  `field [NOT ]IN (v, w)`, `field [NOT ]LIKE 'pattern'` and `field IS [NOT ]NULL`.

A field name is written plain when it starts with a letter or `_` and holds only letters,
digits, `_`, `.` and `$`; otherwise it is written between backticks with `\` and the
backtick escaped.

`Predicate.outline` writes the tree one node per line, two spaces of indent per level:
`And`, `Or`, `Not`, `Constant(true)`, `Constant(false)`, or the leaf's filter text. -/

namespace FilterQuery

namespace Query

/-- The backtick, which quotes field names. -/
def backtick : Char := Char.ofNat 0x60

/-- Whether a field name can be written without quotes. -/
def isPlainField (name : List Char) : Bool :=
  match name with
  | [] => false
  | c :: _ =>
    (Text.isAlphabetic c || c = '_') &&
      name.all fun d => Text.isAlphanumeric d || d = '_' || d = '.' || d = '$'

/-- A field name as written in filter text. -/
def renderField (name : String) : String :=
  if isPlainField name.toList then name
  else
    String.singleton backtick ++ String.ofList (escapeWith backtick name.toList) ++
      String.singleton backtick

/-- `NOT ` when negated. -/
def notWord (negated : Bool) : String := if negated then "NOT " else ""

/-- Items joined by a separator. -/
def joinWith (sep : String) : List String → String
  | [] => ""
  | [s] => s
  | s :: rest => s ++ sep ++ joinWith sep rest

namespace Predicate

/-- The filter text of a leaf. -/
def renderLeaf : Predicate → String
  | .compare f op v => renderField f ++ " " ++ op.symbol ++ " " ++ v.render
  | .between f lo hi n =>
    renderField f ++ " " ++ notWord n ++ "BETWEEN " ++ lo.render ++ " AND " ++ hi.render
  | .member f vs n =>
    renderField f ++ " " ++ notWord n ++ "IN (" ++ joinWith ", " (vs.map Literal.render) ++ ")"
  | .like f pat n => renderField f ++ " " ++ notWord n ++ "LIKE " ++ (Literal.text pat).render
  | .isNull f n => renderField f ++ " IS " ++ notWord n ++ "NULL"
  | _ => ""

mutual

/-- The filter text of a predicate, as described in the module header. -/
def render : Predicate → String
  | .const true => "1"
  | .const false => "0"
  | .junction conn children => joinWith (" " ++ conn.keyword ++ " ") (renderChildren children)
  | .negation child => "NOT (" ++ render child ++ ")"
  | p => p.renderLeaf

/-- The texts of a junction's children, a child junction in parentheses. -/
def renderChildren : List Predicate → List String
  | [] => []
  | p :: rest =>
    (match p with
      | .junction _ _ => "(" ++ render p ++ ")"
      | _ => render p) :: renderChildren rest

end

mutual

/-- The outline lines of a predicate at an indent level. -/
def outlineLines (indent : Nat) : Predicate → List String
  | .junction conn children =>
    (String.join (List.replicate indent "  ") ++ conn.title) :: outlineChildren (indent + 1) children
  | .negation child => (String.join (List.replicate indent "  ") ++ "Not") :: outlineLines (indent + 1) child
  | .const v => [String.join (List.replicate indent "  ") ++ "Constant(" ++ (if v then "true" else "false") ++ ")"]
  | p => [String.join (List.replicate indent "  ") ++ p.renderLeaf]

/-- The outline lines of a junction's children. -/
def outlineChildren (indent : Nat) : List Predicate → List String
  | [] => []
  | p :: rest => outlineLines indent p ++ outlineChildren indent rest

end

/-- The outline of a predicate, each line ended by a newline. -/
def outline (p : Predicate) : String := String.join ((outlineLines 0 p).map (· ++ "\n"))

end Predicate

end Query

end FilterQuery

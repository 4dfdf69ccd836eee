import FilterQuery.Regex.CharSet

/-! # Compiled patterns and their matcher

A pattern compiles to a `Node`: the empty pattern, one character of a set, a zero-width
assertion about the neighbouring characters, concatenation, alternation, and counted
repetition `r{min,max}` (`max = none` for no bound; `*`, `+` and `?` are repetitions).

Matching is a search for any substring that matches, as `LIKE` needs. The matcher follows
partial derivatives: a state is a list of nodes still to match, one after the other. At each
position the state set is stepped over the next character (`step`), and the pattern is
started afresh at every position; the search succeeds as soon as some state can match the
empty text at the current position (`accepts`). Assertions are decided from the characters
on each side of a position, so both `step` and `accepts` are told the character before the
position and the one after it (`none` at either end of the text).

`step` and `accepts` recurse on the total `Node.weight` of a state, which weighs a
repetition by its minimum count, so that unrolling one mandatory copy makes progress. -/

namespace FilterQuery

namespace Regex

/-- A zero-width assertion. -/
inductive Look where
  /-- The start of the text (`\A`, and `^` without multi-line). -/
  | startText
  /-- The end of the text (`\z`, and `$` without multi-line). -/
  | endText
  /-- The start of a line (`^` in multi-line mode). -/
  | startLine
  /-- The end of a line (`$` in multi-line mode). -/
  | endLine
  /-- The start of a line, with `\r\n`, `\r` or `\n` ending lines. -/
  | startLineCrlf
  /-- The end of a line, with `\r\n`, `\r` or `\n` ending lines. -/
  | endLineCrlf
  /-- A word boundary (`\b`); `unicode` picks Unicode or ASCII word characters. -/
  | wordBoundary (unicode : Bool)
  /-- Not a word boundary (`\B`). -/
  | notWordBoundary (unicode : Bool)
  /-- The start of a word (`\<`, `\b{start}`). -/
  | wordStart (unicode : Bool)
  /-- The end of a word (`\>`, `\b{end}`). -/
  | wordEnd (unicode : Bool)
  /-- No word character before (`\b{start-half}`). -/
  | wordStartHalf (unicode : Bool)
  /-- No word character after (`\b{end-half}`). -/
  | wordEndHalf (unicode : Bool)
  deriving DecidableEq, Inhabited, Repr

/-- Whether a neighbour is a word character. -/
def isWordAt (unicode : Bool) : Option Char → Bool
  | none => false
  | some c => if unicode then Text.isWordChar c else CharSet.asciiWord.contains c

/-- Whether an assertion holds between the characters `prev` and `next`. -/
def Look.holds (prev next : Option Char) : Look → Bool
  | .startText => prev.isNone
  | .endText => next.isNone
  | .startLine => prev.isNone || prev == some '\n'
  | .endLine => next.isNone || next == some '\n'
  | .startLineCrlf => prev.isNone || prev == some '\n' || (prev == some '\r' && next != some '\n')
  | .endLineCrlf => next.isNone || next == some '\r' || (next == some '\n' && prev != some '\r')
  | .wordBoundary u => isWordAt u prev != isWordAt u next
  | .notWordBoundary u => isWordAt u prev == isWordAt u next
  | .wordStart u => !isWordAt u prev && isWordAt u next
  | .wordEnd u => isWordAt u prev && !isWordAt u next
  | .wordStartHalf u => !isWordAt u prev
  | .wordEndHalf u => !isWordAt u next

/-- A compiled pattern. -/
inductive Node where
  /-- Matches the empty text. -/
  | empty
  /-- Matches one character of the set. -/
  | chars (set : CharSet)
  /-- Matches the empty text where the assertion holds. -/
  | look (l : Look)
  /-- The first node, then the second. -/
  | cat (a b : Node)
  /-- Either node. -/
  | alt (a b : Node)
  /-- The node repeated at least `min` and at most `max` times. -/
  | repeat (a : Node) (min : Nat) (max : Option Nat)
  deriving DecidableEq, Inhabited, Repr

namespace Node

/-- A size that drops when a repetition gives up one mandatory copy. -/
def weight : Node → Nat
  | .empty | .chars _ | .look _ => 1
  | .cat a b | .alt a b => a.weight + b.weight + 1
  | .repeat a n _ => (a.weight + 1) * (n + 1) + 1

/-- The concatenation of a list of nodes. -/
def catAll : List Node → Node
  | [] => .empty
  | [a] => a
  | a :: rest => .cat a (catAll rest)

/-- The alternation of a non-empty list of nodes. -/
def altAll : List Node → Node
  | [] => .empty
  | [a] => a
  | a :: rest => .alt a (altAll rest)

end Node

/-- The total weight of a state. -/
def seqWeight (s : List Node) : Nat := s.foldr (fun r n => r.weight + n) 0

/-- Whether the nodes of a state, in order, can all match the empty text at a position
    between `prev` and `next`. -/
def accepts (prev next : Option Char) : List Node → Bool
  | [] => true
  | .empty :: rest => accepts prev next rest
  | .chars _ :: _ => false
  | .look l :: rest => l.holds prev next && accepts prev next rest
  | .cat a b :: rest => accepts prev next (a :: b :: rest)
  | .alt a b :: rest => accepts prev next (a :: rest) || accepts prev next (b :: rest)
  | .repeat _ 0 _ :: rest => accepts prev next rest
  | .repeat _ (_ + 1) (some 0) :: _ => false
  | .repeat a (n + 1) (some (m + 1)) :: rest => accepts prev next (a :: .repeat a n (some m) :: rest)
  | .repeat a (n + 1) none :: rest => accepts prev next (a :: .repeat a n none :: rest)
termination_by s => seqWeight s
decreasing_by
  all_goals simp only [seqWeight, List.foldr_cons, Node.weight, Nat.succ_eq_add_one,
    Nat.add_mul, Nat.mul_add, Nat.mul_one, Nat.one_mul]
  all_goals omega

/-- The states left after the nodes of a state read the character `c`, which follows `prev`:
    each is what remains to match after `c`. -/
def step (prev : Option Char) (c : Char) : List Node → List (List Node)
  | [] => []
  | .empty :: rest => step prev c rest
  | .chars s :: rest => if s.contains c then [rest] else []
  | .look l :: rest => if l.holds prev (some c) then step prev c rest else []
  | .cat a b :: rest => step prev c (a :: b :: rest)
  | .alt a b :: rest => step prev c (a :: rest) ++ step prev c (b :: rest)
  | .repeat a 0 none :: rest =>
    (step prev c [a]).map (· ++ .repeat a 0 none :: rest) ++ step prev c rest
  | .repeat _ 0 (some 0) :: rest => step prev c rest
  | .repeat a 0 (some (m + 1)) :: rest =>
    (step prev c [a]).map (· ++ .repeat a 0 (some m) :: rest) ++ step prev c rest
  | .repeat _ (_ + 1) (some 0) :: _ => []
  | .repeat a (n + 1) (some (m + 1)) :: rest => step prev c (a :: .repeat a n (some m) :: rest)
  | .repeat a (n + 1) none :: rest => step prev c (a :: .repeat a n none :: rest)
termination_by s => seqWeight s
decreasing_by
  all_goals simp only [seqWeight, List.foldr_cons, List.foldr_nil,
    Node.weight, Nat.succ_eq_add_one, Nat.add_mul, Nat.mul_add, Nat.mul_one, Nat.one_mul]
  all_goals omega

/-- Steps every state of a set over one character, dropping repeated states. -/
def stepAll (prev : Option Char) (c : Char) (states : List (List Node)) : List (List Node) :=
  (states.flatMap (step prev c)).eraseDups

/-- Searches the rest `cs` of a text, `prev` being the character before it, for the end of
    a match of `r` that started at or after the start of the search. -/
def search (r : Node) (prev : Option Char) (states : List (List Node)) : List Char → Bool
  | [] => ([r] :: states).any (accepts prev none)
  | c :: rest =>
    let live := [r] :: states
    live.any (accepts prev (some c)) || search r (some c) (stepAll prev c live) rest

/-- Whether some substring of the text matches the pattern. -/
def Node.isMatch (r : Node) (text : String) : Bool := search r none [] text.toList

end Regex

end FilterQuery

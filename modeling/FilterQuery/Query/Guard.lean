import FilterQuery.Query.Error

/-! # Guarding quoted spans

Before a filter text is split, every quoted span is replaced by a placeholder so that
nothing inside quotes (parentheses, connectives, operators) can affect the structure.

* The *marker* is the first word over `a`–`z`, by length from one letter up to the limit and
  then in alphabetical order, that does not occur in the text. If every such word occurs, the
  text is refused. The words of one length are spelled by an odometer over the alphabet
  (`advanceOdometer`), which turns through them in alphabetical order.
* A span opens at a quote character and closes at the next occurrence of the same character
  that a backslash does not escape; a span that never closes is refused.
* The `i`-th span becomes `marker ++ i ++ marker`; its original text, quotes included, is
  kept as the `i`-th original.

A text without quote characters is kept unchanged with an empty marker. `Guarded.unguard`
puts the originals back; `Guarded.lookup?` finds the original of a placeholder;
`Guarded.touches` says whether a word contains the marker; `unquote` strips a span's quotes
and resolves its backslash escapes. -/

namespace FilterQuery

namespace Query

/-- A text with its quoted spans replaced by placeholders. -/
structure Guarded where
  text : List Char
  marker : List Char
  originals : List (List Char)
  deriving DecidableEq, Inhabited, Repr

/-- The lower-case ASCII letters, in order. -/
def markerAlphabet : List Char := "abcdefghijklmnopqrstuvwxyz".toList

/-- All words of `n` letters over `a`–`z`, in alphabetical order. -/
def markerWords : Nat → List (List Char)
  | 0 => [[]]
  | n + 1 => markerAlphabet.flatMap fun c => (markerWords n).map (c :: ·)

/-- The letter of a digit of the marker odometer: its place in `markerAlphabet`. -/
def markerLetter (d : Fin 26) : Char := markerAlphabet.getD d 'a'

/-- One turn of the marker odometer. Its digits are listed last first, the order in which the
    carry runs through them: the last digit goes up by one, and a digit past `z` goes back to
    `a` and carries into the one before it. `none` once every digit went back to `a`, when
    all combinations have been seen. -/
def advanceOdometer : List (Fin 26) → Option (List (Fin 26))
  | [] => none
  | d :: rest =>
    if h : d.val + 1 < 26 then some (⟨d.val + 1, h⟩ :: rest)
    else (advanceOdometer rest).map (0 :: ·)

/-- The word the odometer spells, its digits being listed last first. -/
def odometerWord (digits : List (Fin 26)) : List Char := digits.reverse.map markerLetter

/-- The first word the odometer spells from `digits` on that does not occur in `text`, or
    `none` once it has gone round; it turns at most `fuel` times. From the first word of a
    length, `26 ^ length` turns are one per word. -/
def searchOdometer (text : List Char) : Nat → List (Fin 26) → Option (List Char)
  | 0, _ => none
  | fuel + 1, digits =>
    if !Text.occursIn (odometerWord digits) text then some (odometerWord digits)
    else match advanceOdometer digits with
      | some next => searchOdometer text fuel next
      | none => none

/-- The first word of length `1` to `maxLen`, shortest first and then alphabetically, that
    does not occur in `text`: for each length the odometer starts from `a…a`. -/
def freeMarker? (text : List Char) (maxLen : Nat) : Option (List Char) :=
  (List.range maxLen).findSome? fun k =>
    searchOdometer text (Nat.pow 26 (k + 1)) (List.replicate (k + 1) 0)

/-- The placeholder of the span with the given index. -/
def placeholder (marker : List Char) (index : Nat) : List Char :=
  marker ++ Nat.toDigits 10 index ++ marker

/-- The state of the scan: outside any span, or inside one opened by `quote`, with the span
    read so far (reversed) and whether the last character was an escaping backslash. -/
inductive ScanState where
  | outside
  | inside (quote : Char) (spanRev : List Char) (escaped : Bool)

/-- Replaces the spans of `cs`. The output and originals are built in reverse. -/
def scanSpans (quotes marker : List Char) :
    List Char → ScanState → List Char → List (List Char) →
    Except QueryError (List Char × List (List Char))
  | [], .outside, out, origs => .ok (out.reverse, origs.reverse)
  | [], .inside _ spanRev _, _, _ =>
    .error (.at_ .unterminatedQuote (String.ofList spanRev.reverse))
  | c :: rest, .outside, out, origs =>
    if c ∈ quotes then scanSpans quotes marker rest (.inside c [c] false) out origs
    else scanSpans quotes marker rest .outside (c :: out) origs
  | c :: rest, .inside q spanRev escaped, out, origs =>
    if escaped then scanSpans quotes marker rest (.inside q (c :: spanRev) false) out origs
    else if c = '\\' then scanSpans quotes marker rest (.inside q (c :: spanRev) true) out origs
    else if c = q then
      let span := (c :: spanRev).reverse
      scanSpans quotes marker rest .outside
        ((placeholder marker origs.length).reverse ++ out) (span :: origs)
    else scanSpans quotes marker rest (.inside q (c :: spanRev) false) out origs

/-- Guards a text as described in the module header. -/
def guard (text : List Char) (quotes : List Char) (maxLen : Nat) : Except QueryError Guarded :=
  if !text.any (· ∈ quotes) then .ok ⟨text, [], []⟩
  else
    match freeMarker? text maxLen with
    | none => .error (.placeholderExhausted maxLen)
    | some marker => do
      let (out, origs) ← scanSpans quotes marker text .outside [] []
      return ⟨out, marker, origs⟩

/-- The value of a run of decimal digits, when it fits in 64 unsigned bits. -/
def indexValue? (ds : List Char) : Option Nat :=
  let v := ds.foldl (fun acc c => acc * 10 + (c.toNat - '0'.toNat)) 0
  if v < Nat.pow 2 64 then some v else none

namespace Guarded

/-- The span index named by a text of the form `digits ++ marker ++ rest`, with the length
    of the digits: the digits must be non-empty and the index within the originals. -/
def indexAfterMarker (g : Guarded) (cs : List Char) : Option (Nat × List Char) :=
  let ds := cs.takeWhile Char.isDigit
  let rest := cs.dropWhile Char.isDigit
  if ds.isEmpty || !g.marker.isPrefixOf rest then none
  else match indexValue? ds with
    | some i => if i < g.originals.length then some (i, rest.drop g.marker.length) else none
    | none => none

/-- Puts the originals back in place of their placeholders, after dropping the first `skip`
    characters (the rest of a placeholder already put back). A marker that does not start a
    placeholder of a known span is kept as text. -/
def restore (g : Guarded) : Nat → List Char → List Char
  | _, [] => []
  | skip + 1, _ :: rest => g.restore skip rest
  | 0, c :: rest =>
    if !g.marker.isEmpty && g.marker.isPrefixOf (c :: rest) then
      match g.indexAfterMarker ((c :: rest).drop g.marker.length) with
      | some (i, after) => (g.originals[i]?.getD []) ++ g.restore (rest.length - after.length) rest
      | none => c :: g.restore 0 rest
    else c :: g.restore 0 rest

/-- The text with the originals back in place; a text without originals is unchanged. -/
def unguard (g : Guarded) (cs : List Char) : List Char :=
  if g.originals.isEmpty then cs else g.restore 0 cs

/-- The original span of a word that is exactly the placeholder of a known span. -/
def lookup? (g : Guarded) (word : List Char) : Option (List Char) :=
  if g.marker.isEmpty || !g.marker.isPrefixOf word then none
  else
    let body := word.drop g.marker.length
    if body.length < g.marker.length then none
    else
      let ds := body.take (body.length - g.marker.length)
      if ds.isEmpty || !ds.all Char.isDigit || !g.marker.isSuffixOf body then none
      else (indexValue? ds).bind fun i => g.originals[i]?

/-- Whether a word contains the marker. -/
def touches (g : Guarded) (word : List Char) : Bool :=
  !g.marker.isEmpty && Text.occursIn g.marker word

end Guarded

/-- Resolves backslash escapes: a backslash stands for the character after it, and a final
    backslash stands for nothing. -/
def unescape : List Char → List Char
  | [] => []
  | '\\' :: c :: rest => c :: unescape rest
  | ['\\'] => []
  | c :: rest => c :: unescape rest

/-- The content of a quoted span: its first and last characters dropped and its escapes
    resolved. A text of fewer than two characters has no content. -/
def unquote (span : List Char) : List Char :=
  match span with
  | _ :: inner@(_ :: _) => unescape inner.dropLast
  | _ => []

end Query

end FilterQuery

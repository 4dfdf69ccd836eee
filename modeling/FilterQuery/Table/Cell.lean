import FilterQuery.Query.Literal
import FilterQuery.Json.Basic
import FilterQuery.Emit.Error

/-! # Cells of a table

A cell of a table holds the same kind of scalar a filter literal denotes: `NULL` (also for a
key a row does not have), a boolean, a 64-bit integer, a binary64 float, a text or a
date-time in UTC. This module reads cells from JSON and writes them back, and compares a
cell with a literal the way a document store does:

* values are ordered only within one class: booleans, numbers (integers and floats
  together, an integer turned into the nearest float when the other side is a float),
  texts (by code point), date-times;
* `NULL` orders against nothing, not even `NULL`; equality is the order's `eq`, except that
  a `NULL` cell equals the `NULL` literal. -/

namespace FilterQuery

open Query

namespace Cell

/-- The text of the error for an object that is not a date. -/
def dateObjectOnly : String :=
  "only \x7b\"$date\": \"...\"\x7d objects are supported"

/-- The date-time of a `{"$date": "<RFC 3339>"}` object, in UTC. -/
def readDateObject (fields : List (String × Json)) : Except String DateTime :=
  match fields with
  | [("$date", .str text)] =>
    match DateTime.readRfc3339 text with
    | .ok t => .ok t
    | .error e =>
      .error ("invalid date " ++ EmitError.tick ++ text ++ EmitError.tick ++ ": " ++ e.message)
  | _ => .error dateObjectOnly

/-- The cell a JSON value stands for; arrays and objects other than dates are refused. -/
def ofJson : Json → Except String Literal
  | .null => .ok .null
  | .bool b => .ok (.bool b)
  | .int i => .ok (.int i)
  | .float x => .ok (.float x)
  | .str s => .ok (.text s)
  | .obj fields => return .date (← readDateObject fields)
  | .arr _ => .error "array values are not supported"

/-- A date-time as a `{"$date": …}` object, in RFC 3339 with milliseconds. -/
def dateJson (t : DateTime) : Json := .obj [("$date", .str t.toRfc3339Millis)]

/-- A cell (or literal) as JSON; a float that is not finite has no JSON number and is
    written as `null`. -/
def toJson : Literal → Json
  | .null => .null
  | .bool b => .bool b
  | .int i => .int i
  | .float x => if x.isFinite then .float x else .null
  | .text s => .str s
  | .date t => dateJson t

/-- Texts ordered by code point. -/
def compareText (a b : String) : Ordering := compareOfLessAndEq a.toList b.toList

/-- The order of a cell against a literal, when both are of one class (see the module
    header); `none` otherwise. -/
def compare? : Literal → Literal → Option Ordering
  | .bool a, .bool b => some (Ord.compare a b)
  | .int a, .int b => some (Ord.compare a b)
  | .int a, .float b => (Binary64.ofInt a).compare? b
  | .float a, .int b => a.compare? (Binary64.ofInt b)
  | .float a, .float b => a.compare? b
  | .text a, .text b => some (compareText a b)
  | .date a, .date b => some (a.compare b)
  | _, _ => none

/-- Whether a cell equals a literal: a `NULL` cell equals `NULL`, other cells when they
    compare equal. -/
def equals : Literal → Literal → Bool
  | .null, .null => true
  | c, v => compare? c v == some .eq

end Cell

end FilterQuery

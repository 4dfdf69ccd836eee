import FilterQuery.Binary64.Shortest

/-! # Binary64 numbers as text

The written form of a number is its shortest decimal (`Binary64.shortest`) laid out by the
size of its leading digit's power of ten `E`:
* positional for `-4 ≤ E < 16`, always with a fraction part (`1000.0`, `0.0001`);
* otherwise scientific, `d.ddd` then `e` and the exponent, with no plus sign and no padding
  (`1e16`, `1.5e-7`, `9.223372036854776e18`).

Zeros keep their sign (`-0.0`); the non-finite values are `inf`, `-inf` and `NaN`. -/

namespace FilterQuery

namespace Binary64

/-- The characters of the decimal digits of `n`. -/
def digitChars (n : Nat) : List Char := Nat.toDigits 10 n

/-- The positional layout of the digits `ds` whose first digit stands for `10^e`. -/
def positional (ds : List Char) (e : Int) : String :=
  if 0 ≤ e then
    let whole := e.toNat + 1
    if ds.length ≤ whole then
      String.ofList (ds ++ List.replicate (whole - ds.length) '0') ++ ".0"
    else String.ofList (ds.take whole) ++ "." ++ String.ofList (ds.drop whole)
  else "0." ++ String.ofList (List.replicate ((-e).toNat - 1) '0' ++ ds)

/-- The scientific layout of the digits `ds` whose first digit stands for `10^e`. -/
def scientific (ds : List Char) (e : Int) : String :=
  let mantissa := match ds with
    | [] => "0"
    | [d] => String.singleton d
    | d :: rest => String.singleton d ++ "." ++ String.ofList rest
  mantissa ++ "e" ++ toString e

/-- The written form of a number, as described in the module header. -/
def toText (x : Binary64) : String :=
  if x.isNaN then "NaN"
  else
    let sign := if x.negative then "-" else ""
    if !x.isFinite then sign ++ "inf"
    else if x.significand = 0 then sign ++ "0.0"
    else
      let d := x.shortest
      let ds := digitChars d.digits
      let e := d.exponent + ds.length - 1
      sign ++ (if -4 ≤ e ∧ e < 16 then positional ds e else scientific ds e)

end Binary64

end FilterQuery

/-! # TOML values

The values a TOML document holds: strings, 64-bit integers, floats, booleans, date-times,
arrays and tables. Floats and date-times keep their text: the settings read here never
need their numeric value, only that they are well formed. Tables keep their keys in the
order they were defined. -/

namespace FilterQuery

namespace Toml

/-- A TOML value. -/
inductive Value where
  | str (s : String)
  | int (i : Int)
  | float (text : String)
  | bool (b : Bool)
  | dateTime (text : String)
  | arr (items : List Value)
  | table (fields : List (String × Value))
  deriving Inhabited, Repr

end Toml

end FilterQuery

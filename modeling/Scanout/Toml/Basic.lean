/-!
TOML values. A document is a table; tables keep the order in which their keys were first met.
-/

namespace Scanout.Toml

/-- A fractional number as it is written: `digits * 10 ^ exponent`. -/
structure Decimal where
  negative : Bool
  digits : Nat
  exponent : Int
  deriving DecidableEq, Repr, Inhabited

inductive Float where
  | finite (number : Decimal)
  | infinite (negative : Bool)
  | notANumber
  deriving DecidableEq, Repr, Inhabited

structure Date where
  year : Nat
  month : Nat
  day : Nat
  deriving DecidableEq, Repr, Inhabited

structure Time where
  hour : Nat
  minute : Nat
  second : Nat
  nanosecond : Nat
  deriving DecidableEq, Repr, Inhabited

/-- A date, a time of day or both, with the minutes by which local time is ahead if they are
known. -/
structure Moment where
  date : Option Date
  time : Option Time
  offset : Option Int
  deriving DecidableEq, Repr, Inhabited

inductive Value where
  | text (content : String)
  | integer (number : Int)
  | float (number : Float)
  | boolean (holds : Bool)
  | moment (moment : Moment)
  | array (elements : List Value)
  | table (entries : List (String × Value))
  deriving Repr, Inhabited

/-- A table: keys with their values, each key at most once. -/
abbrev Table := List (String × Value)

end Scanout.Toml

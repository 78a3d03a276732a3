import Scanout.Toml.Basic
import Scanout.Toml.Text

/-!
Numbers, truth values and moments in time. Integers have 64 bits; fractional numbers too large for
double precision are refused, unless they are negative.
-/

namespace Scanout.Toml

namespace Decimal

/-- The least number that double precision rounds to infinity. -/
def doubleLimit : Nat := (Nat.pow 2 54 - 1) * Nat.pow 2 970

/-- Rounds to positive infinity in double precision. Numbers whose size shows in their number of
digits alone are not computed. -/
def overflows (number : Decimal) : Bool :=
  let places : Int := (Nat.toDigits 10 number.digits).length
  if number.negative || number.digits == 0 || places + number.exponent ≤ 308 then false
  else if 308 < number.exponent then true
  else
    decide (doubleLimit * Nat.pow 10 (-number.exponent).toNat ≤
      number.digits * Nat.pow 10 number.exponent.toNat)

end Decimal

namespace Reading

open Scanout.Reading

def isHexDigit (char : Char) : Bool := (hexDigit? char).isSome

def isOctalDigit (char : Char) : Bool := '0' ≤ char && char ≤ '7'

def isBinaryDigit (char : Char) : Bool := char == '0' || char == '1'

/-- Digits, with single underscores between them. -/
def digits (isDigit : Char → Bool) : Reading (List Char) := do
  let first ← satisfying isDigit
  return first :: (← many (satisfying isDigit <|> (char '_' *> satisfying isDigit)))

/-- Decimal digits without a zero in front. -/
def wholeDigits : Reading (List Char) :=
  ((fun zero => [zero]) <$> char '0') <|> digits Char.isDigit

/-- A sign if there is one. Tells whether it is a minus. -/
def sign : Reading Bool := do
  let sign ← option? (char '+' <|> char '-')
  return sign == some '-'

def integer : Reading Int := do
  let based (mark : String) (base : Nat) (isDigit : Char → Bool) : Reading Int := do
    exactly mark
    return numeral base (← digits isDigit)
  let decimal : Reading Int := do
    let negative ← sign
    let size : Int := numeral 10 (← wholeDigits)
    return if negative then -size else size
  let number ← based "0x" 16 isHexDigit <|> based "0o" 8 isOctalDigit <|>
    based "0b" 2 isBinaryDigit <|> decimal
  guard (-0x8000000000000000 ≤ number ∧ number < 0x8000000000000000)
  return number

/-- The power of ten at the end of a fractional number. -/
def exponent : Reading Int := do
  discard (char 'e' <|> char 'E')
  let negative ← sign
  let size : Int := numeral 10 (← digits Char.isDigit)
  return if negative then -size else size

def decimal : Reading Decimal := do
  let negative ← sign
  let whole ← wholeDigits
  let fraction ← option? (char '.' *> digits Char.isDigit)
  let power ← option? exponent
  guard (fraction.isSome || power.isSome)
  let places := fraction.getD []
  let number : Decimal := {
    negative, digits := numeral 10 (whole ++ places)
    exponent := power.getD 0 - places.length }
  guard !number.overflows
  return number

def float : Reading Float :=
  (.finite <$> decimal) <|> do
    let negative ← sign
    (exactly "inf").giving (.infinite negative) <|> (exactly "nan").giving .notANumber

def boolean : Reading Bool := (exactly "true").giving true <|> (exactly "false").giving false

def field (width low high : Nat) : Reading Nat := do
  let number := numeral 10 (← exactlySome Char.isDigit width)
  guard (low ≤ number ∧ number ≤ high)
  return number

def isLeapYear (year : Nat) : Bool := year % 4 == 0 && (year % 100 != 0 || year % 400 == 0)

def daysInMonth (year month : Nat) : Nat :=
  match month with
  | 2 => if isLeapYear year then 29 else 28
  | 4 | 6 | 9 | 11 => 30
  | _ => 31

def date : Reading Date := do
  let year ← field 4 0 9999
  discard (char '-')
  let month ← field 2 1 12
  discard (char '-')
  let day ← field 2 1 (daysInMonth year month)
  return { year, month, day }

/-- A time of day. Digits below the nanosecond are dropped. -/
def time : Reading Time := do
  let hour ← field 2 0 23
  discard (char ':')
  let minute ← field 2 0 59
  discard (char ':')
  let second ← field 2 0 60
  let fraction ← option? (char '.' *> do
    let first ← satisfying Char.isDigit
    return first :: (← span Char.isDigit))
  let kept := (fraction.getD []).take 9
  return { hour, minute, second, nanosecond := numeral 10 kept * Nat.pow 10 (9 - kept.length) }

/-- The minutes by which local time is ahead. -/
def offset : Reading Int :=
  (char 'Z' <|> char 'z').giving 0 <|> do
    let direction ← char '+' <|> char '-'
    let hours ← field 2 0 23
    discard (char ':')
    let minutes ← field 2 0 59
    let size : Int := hours * 60 + minutes
    return if direction == '-' then -size else size

def moment : Reading Moment :=
  (do
    let date ← date
    let rest ← option? (do
      discard (char 'T' <|> char 't' <|> char ' ')
      return (← time, ← option? offset))
    return { date := some date, time := rest.map (·.1), offset := rest.bind (·.2) }) <|>
  (do return { date := none, time := some (← time), offset := none })

end Reading
end Scanout.Toml

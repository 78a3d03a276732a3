/-!
Single-precision numbers as the bit patterns that travel between client and device. Most are only
forwarded, so two numbers are equal exactly when their patterns are; the two places that look
inside, the brightness domains and the conversion of a colour channel to eight bits, are decided
on the pattern in exact integer arithmetic.
-/

namespace Scanout

/-- A single-precision number, by its bits: one of sign, eight of exponent, 23 of fraction. -/
structure Binary32 where
  bits : UInt32
  deriving DecidableEq, Repr, Inhabited

namespace Binary32

def hex (number : Binary32) : String :=
  let digits := Nat.toDigits 16 number.bits.toNat
  String.ofList (List.replicate (8 - digits.length) '0' ++ digits)

/-- The number with the bits that hexadecimal digits in lower case give. -/
def ofHex (digits : String) : Binary32 :=
  let digit (char : Char) : Nat := if char.isDigit then char.toNat - 48 else char.toNat - 87
  ⟨UInt32.ofNat (digits.toList.foldl (fun bits char => 16 * bits + digit char) 0)⟩

def one : Binary32 := ⟨0x3f800000⟩

def minusOne : Binary32 := ⟨0xbf800000⟩

def negative (number : Binary32) : Bool := number.bits >= 0x80000000

/-- The exponent as it is stored: 0 for subnormal numbers, 255 for infinities and NaN. -/
def exponent (number : Binary32) : Nat := number.bits.toNat / 0x800000 % 256

def fraction (number : Binary32) : Nat := number.bits.toNat % 0x800000

def isNaN (number : Binary32) : Bool := number.exponent == 255 && number.fraction != 0

def isInfinite (number : Binary32) : Bool := number.exponent == 255 && number.fraction == 0

/-- The digits of a finite number: its magnitude is `significand * 2 ^ (scale - 149)`. -/
def significand (number : Binary32) : Nat :=
  if number.exponent = 0 then number.fraction else 0x800000 + number.fraction

def scale (number : Binary32) : Nat := number.exponent - 1

/-- Membership in `[0, 1]`. Patterns of non-negative numbers are ordered as the numbers are, NaN
lies above them all, and the only number with the sign bit that belongs is negative zero. -/
def inUnitInterval (number : Binary32) : Bool :=
  number.bits <= one.bits || number.bits == 0x80000000

/-- `digits / 2 ^ places` to the nearest integer, a half going to the even neighbour. -/
def roundToEven (digits places : Nat) : Nat :=
  let unit := Nat.pow 2 places
  let quotient := digits / unit
  let twice := 2 * (digits % unit)
  if twice < unit then quotient
  else if twice > unit then quotient + 1
  else quotient + quotient % 2

/-- The digits that single precision keeps of a product below `2 ^ 32`, and the binary places that
were rounded away to leave 24 of them. -/
def roundProduct (product : Nat) : Nat × Nat :=
  let places := (Nat.log2 product + 1) - 24
  (roundToEven product places, places)

/-- An eight-bit colour channel: 255 times the number in single precision, a half rounded away
from zero, limited to a byte. NaN gives zero. -/
def toChannel (number : Binary32) : UInt8 :=
  if number.isNaN || number.negative then 0
  else if number.isInfinite then 255
  else
    let (digits, places) := roundProduct (255 * number.significand)
    let scale := number.scale + places
    if 149 <= scale then
      UInt8.ofNat (min 255 (digits * Nat.pow 2 (scale - 149)))
    else
      let unit := Nat.pow 2 (149 - scale)
      UInt8.ofNat (min 255 ((2 * digits + unit) / (2 * unit)))

end Binary32
end Scanout

import Mathlib.Algebra.Order.Field.Power
import Mathlib.Data.Int.Log
import Mathlib.Data.Rat.Floor
import Scanout.Proofs.Batches.Brightness

/-!
The eight-bit colour. A channel is 255 times the client's number in single precision, rounded to an
integer and limited to a byte. Here this is said of numbers: what a pattern stands for, the product
as the format rounds it, a half to the even neighbour, and the byte, a half away from zero. The
conversion on the digits of the pattern is proved to give the same.
-/

namespace Scanout

/-- What a pattern in single precision stands for. -/
inductive Datum where
  | finite (value : ℚ)
  | infinite (negative : Bool)
  | notANumber

/-- The integer nearest to a number, of two the even one. -/
def nearestEven (number : ℚ) : ℤ :=
  if Int.fract number < 1 / 2 then ⌊number⌋
  else if 1 / 2 < Int.fract number then ⌊number⌋ + 1
  else if Even ⌊number⌋ then ⌊number⌋ else ⌊number⌋ + 1

/-- The integer nearest to a number, of two the one farther from zero. -/
def nearestAway (number : ℚ) : ℤ :=
  if 0 ≤ number then ⌊number + 1 / 2⌋ else ⌈number - 1 / 2⌉

/-- What the last of 24 binary digits counts in a number of this size. Below the normal numbers it
is what it is for the smallest of them. -/
def lastPlace (number : ℚ) : ℚ := 2 ^ max (Int.log 2 |number| - 23) (-149)

/-- The exact result of an operation as single precision rounds it. -/
def Datum.rounded (exact : ℚ) : Datum :=
  let result := nearestEven (exact / lastPlace exact) * lastPlace exact
  if 2 ^ 128 ≤ |result| then .infinite (result < 0) else .finite result

def Datum.times255 : Datum → Datum
  | .finite value => rounded (255 * value)
  | other => other

/-- Rounded to an integer and limited to a byte. -/
def Datum.toByte : Datum → UInt8
  | .finite value => UInt8.ofNat (max 0 (min 255 (nearestAway value))).toNat
  | .infinite negative => if negative then 0 else 255
  | .notANumber => 0

namespace Binary32

variable {number : Binary32}

/-- The format's reading of sign, exponent and fraction. -/
def datum (number : Binary32) : Datum :=
  let sign : Nat := number.bits.toNat / 2 ^ 31
  let exponent : Nat := number.bits.toNat / 2 ^ 23 % 2 ^ 8
  let fraction : Nat := number.bits.toNat % 2 ^ 23
  if exponent = 255 then
    if fraction = 0 then .infinite (sign = 1) else .notANumber
  else if exponent = 0 then .finite ((-1) ^ sign * (fraction / 2 ^ 23 * 2 ^ (-126 : ℤ)))
  else .finite ((-1) ^ sign * ((1 + fraction / 2 ^ 23) * 2 ^ ((exponent : ℤ) - 127)))

theorem magnitude_eq (number : Binary32) : (number.magnitude : ℚ) / 2 ^ 149 =
    if number.exponent = 0 then (number.fraction : ℚ) / 2 ^ 23 * 2 ^ (-126 : ℤ)
    else (1 + (number.fraction : ℚ) / 2 ^ 23) * 2 ^ ((number.exponent : ℤ) - 127) := by
  by_cases subnormal : number.exponent = 0
  · simp only [magnitude, significand, scale, subnormal, if_true, zero_tsub, pow_zero, mul_one]
    norm_num
    ring
  · have size : (2 : ℚ) ^ ((number.exponent : ℤ) - 127) =
        2 ^ (number.exponent - 1) * 2 ^ (-126 : ℤ) := by
      rw [← zpow_natCast, ← zpow_add₀ (by norm_num)]
      congr 1
      omega
    simp only [magnitude, significand, scale, subnormal, if_false, size]
    push_cast
    norm_num
    ring

theorem sign_eq (number : Binary32) :
    number.bits.toNat / 2 ^ 31 = if number.negative then 1 else 0 := by
  have below := number.bits.toNat_lt
  have signed : number.negative = true ↔ 2 ^ 31 ≤ number.bits.toNat := by
    simp [negative, UInt32.le_iff_toNat_le]
  split
  case isTrue minus =>
    have atLeast := signed.mp minus
    omega
  case isFalse plus =>
    have less := mt signed.mpr plus
    omega

theorem datum_of_finite (finite : number.isFinite) : number.datum = .finite number.value := by
  have exponent : number.bits.toNat / 2 ^ 23 % 2 ^ 8 = number.exponent := rfl
  have fraction : number.bits.toNat % 2 ^ 23 = number.fraction := rfl
  have sign : (-1 : ℚ) ^ (number.bits.toNat / 2 ^ 31) = if number.negative then -1 else 1 := by
    rw [sign_eq]
    split
    · exact pow_one _
    · exact pow_zero _
  simp only [datum, exponent, fraction, sign, value, magnitude_eq, if_neg finite]
  split <;> rfl

theorem datum_of_infinite (infinite : number.isInfinite = true) :
    number.datum = .infinite number.negative := by
  have parts : number.exponent = 255 ∧ number.fraction = 0 := by simpa [isInfinite] using infinite
  have exponent : number.bits.toNat / 2 ^ 23 % 2 ^ 8 = 255 := parts.1
  have fraction : number.bits.toNat % 2 ^ 23 = 0 := parts.2
  simp only [datum, exponent, fraction, sign_eq, if_true]
  cases number.negative <;> rfl

theorem datum_of_nan (nan : number.isNaN = true) : number.datum = .notANumber := by
  have parts : number.exponent = 255 ∧ number.fraction ≠ 0 := by simpa [isNaN] using nan
  have exponent : number.bits.toNat / 2 ^ 23 % 2 ^ 8 = 255 := parts.1
  have fraction : number.bits.toNat % 2 ^ 23 ≠ 0 := parts.2
  simp only [datum, exponent, if_neg fraction, if_true]

end Binary32

/-- The digits of a quotient by a power of two, rounded. -/
theorem nearestEven_div (digits places : Nat) :
    nearestEven ((digits : ℚ) / 2 ^ places) = Binary32.roundToEven digits places := by
  have whole : ⌊(digits : ℚ) / (2 ^ places : Nat)⌋ = ((digits / 2 ^ places : Nat) : ℤ) := by
    rw [← Int.cast_natCast, Rat.floor_intCast_div_natCast]
    rfl
  have part : Int.fract ((digits : ℚ) / (2 ^ places : Nat)) =
      ((digits % 2 ^ places : Nat) : ℚ) / (2 ^ places : Nat) :=
    Int.fract_div_natCast_eq_div_natCast_mod
  have unit : (0 : ℚ) < (2 ^ places : Nat) := by positivity
  have less : ((digits % 2 ^ places : Nat) : ℚ) / (2 ^ places : Nat) < 1 / 2 ↔
      2 * (digits % 2 ^ places) < 2 ^ places := by
    rw [div_lt_div_iff₀ unit two_pos, one_mul, mul_comm]
    exact_mod_cast Iff.rfl
  have more : 1 / 2 < ((digits % 2 ^ places : Nat) : ℚ) / (2 ^ places : Nat) ↔
      2 ^ places < 2 * (digits % 2 ^ places) := by
    rw [div_lt_div_iff₀ two_pos unit, one_mul, mul_comm]
    exact_mod_cast Iff.rfl
  have cast : (2 : ℚ) ^ places = (2 ^ places : Nat) := by push_cast; rfl
  rw [cast]
  simp only [nearestEven, Binary32.roundToEven, whole, part, less, more, Nat.pow_eq, gt_iff_lt,
    Int.even_coe_nat, Nat.even_iff]
  split_ifs <;> omega

theorem nearestEven_nonpos {number : ℚ} (atMost : number ≤ 0) : nearestEven number ≤ 0 := by
  have below : ⌊number⌋ ≤ 0 := Int.floor_nonpos atMost
  have parts := Int.floor_add_fract number
  by_cases whole : ⌊number⌋ = 0
  · have none : Int.fract number ≤ 0 := by
      rw [whole, Int.cast_zero, zero_add] at parts
      rwa [parts]
    have less : Int.fract number < 1 / 2 := none.trans_lt (by norm_num)
    simp only [nearestEven, if_pos less]
    exact below
  · simp only [nearestEven]
    split_ifs <;> omega

theorem nearestAway_nonpos {number : ℚ} (atMost : number ≤ 0) : nearestAway number ≤ 0 := by
  unfold nearestAway
  split
  case isTrue atLeast =>
    obtain rfl : number = 0 := le_antisymm atMost atLeast
    norm_num
  case isFalse => exact Int.ceil_le.mpr (by push_cast; linarith)

theorem lastPlace_pos (number : ℚ) : 0 < lastPlace number := zpow_pos two_pos _

/-- What is not positive becomes no more than zero. -/
theorem Datum.toByte_rounded_nonpos {exact : ℚ} (atMost : exact ≤ 0) :
    (rounded exact).toByte = 0 := by
  have unit := lastPlace_pos exact
  have result : (nearestEven (exact / lastPlace exact) : ℚ) * lastPlace exact ≤ 0 := by
    have digits := nearestEven_nonpos (div_nonpos_of_nonpos_of_nonneg atMost unit.le)
    exact mul_nonpos_of_nonpos_of_nonneg (by exact_mod_cast digits) unit.le
  simp only [rounded]
  split
  case isTrue large =>
    have nonzero : (nearestEven (exact / lastPlace exact) : ℚ) * lastPlace exact ≠ 0 := by
      intro zero
      rw [zero, abs_zero] at large
      norm_num at large
    simp [toByte, lt_of_le_of_ne result nonzero]
  case isFalse =>
    have away := nearestAway_nonpos result
    have none : (max 0 (min 255 (nearestAway
        (nearestEven (exact / lastPlace exact) * lastPlace exact)))).toNat = 0 := by omega
    simp only [toByte, none]
    rfl

theorem log_scaled {digits : Nat} (nonzero : digits ≠ 0) (exponent : ℤ) :
    Int.log 2 ((digits : ℚ) * 2 ^ exponent) = Nat.log2 digits + exponent := by
  have positive : (0 : ℚ) < digits := by exact_mod_cast Nat.pos_of_ne_zero nonzero
  have unit : (0 : ℚ) < 2 ^ exponent := zpow_pos two_pos _
  have least : (2 : ℚ) ^ (Nat.log2 digits : ℤ) ≤ digits := by
    exact_mod_cast Nat.log2_self_le nonzero
  have above : (digits : ℚ) < 2 ^ ((Nat.log2 digits : ℤ) + 1) := by
    exact_mod_cast Nat.lt_log2_self
  apply le_antisymm
  · rw [← Int.lt_add_one_iff, ← Int.lt_zpow_iff_log_lt one_lt_two (mul_pos positive unit)]
    calc (digits : ℚ) * 2 ^ exponent < 2 ^ ((Nat.log2 digits : ℤ) + 1) * 2 ^ exponent :=
          mul_lt_mul_of_pos_right above unit
      _ = ((2 : Nat) : ℚ) ^ ((Nat.log2 digits : ℤ) + exponent + 1) := by
          rw [Nat.cast_two, ← zpow_add₀ two_ne_zero]
          congr 1
          ring
  · rw [← Int.zpow_le_iff_le_log one_lt_two (mul_pos positive unit), Nat.cast_two,
      zpow_add₀ two_ne_zero]
    exact mul_le_mul_of_nonneg_right least unit.le

/-- The places that are rounded away in a product leave the last one that the format has: a product
that fits in 23 digits is of a subnormal number. -/
theorem lastPlace_product {product scale : Nat} (nonzero : product ≠ 0)
    (small : product < 2 ^ 23 → scale = 0) :
    lastPlace ((product : ℚ) * 2 ^ ((scale : ℤ) - 149)) =
      2 ^ (((scale + (Nat.log2 product + 1 - 24) : Nat) : ℤ) - 149) := by
  have size : |(product : ℚ) * 2 ^ ((scale : ℤ) - 149)| = product * 2 ^ ((scale : ℤ) - 149) :=
    abs_of_nonneg (by positivity)
  have short : Nat.log2 product < 23 → scale = 0 := by
    intro less
    exact small ((Nat.log2_lt nonzero).mp less)
  rw [lastPlace, size, log_scaled nonzero]
  congr 1
  omega

/-- The digits that are kept of a product, in their place, are the product as the format rounds
it. -/
theorem nearestEven_product {product scale : Nat} (small : product < 2 ^ 23 → scale = 0) :
    let exact : ℚ := product * 2 ^ ((scale : ℤ) - 149)
    let places := (Binary32.roundProduct product).2
    nearestEven (exact / lastPlace exact) * lastPlace exact =
      (Binary32.roundProduct product).1 * (2 : ℚ) ^ (((scale + places : Nat) : ℤ) - 149) := by
  intro exact places
  by_cases zero : product = 0
  · subst zero
    have none : exact = 0 := by simp [exact]
    have digits : (Binary32.roundProduct 0).1 = 0 := by decide
    have empty : nearestEven 0 = 0 := by simp [nearestEven]
    rw [none, zero_div, digits, empty, Int.cast_zero, Nat.cast_zero, zero_mul, zero_mul]
  · have unit : lastPlace exact = 2 ^ (((scale + places : Nat) : ℤ) - 149) :=
      lastPlace_product zero small
    have quotient : exact / lastPlace exact = (product : ℚ) / 2 ^ places := by
      rw [unit, div_eq_div_iff (by positivity) (by positivity)]
      have split : (2 : ℚ) ^ (((scale + places : Nat) : ℤ) - 149) =
          2 ^ ((scale : ℤ) - 149) * 2 ^ places := by
        rw [← zpow_natCast, ← zpow_add₀ two_ne_zero]
        congr 1
        omega
      rw [split, mul_assoc]
    rw [quotient, nearestEven_div, unit]
    rfl

/-- Rounding to an integer, on the digits. -/
theorem nearestAway_scaled (digits scale : Nat) :
    nearestAway ((digits : ℚ) * 2 ^ ((scale : ℤ) - 149)) =
      ((if 149 ≤ scale then digits * 2 ^ (scale - 149)
        else (2 * digits + 2 ^ (149 - scale)) / (2 * 2 ^ (149 - scale)) : Nat) : ℤ) := by
  have nonnegative : (0 : ℚ) ≤ digits * 2 ^ ((scale : ℤ) - 149) := by positivity
  rw [nearestAway, if_pos nonnegative]
  split
  case isTrue large =>
    have whole : (digits : ℚ) * 2 ^ ((scale : ℤ) - 149) = (digits * 2 ^ (scale - 149) : Nat) := by
      have shift : (scale : ℤ) - 149 = (scale - 149 : Nat) := by omega
      rw [shift, zpow_natCast]
      push_cast
      rfl
    have half : ⌊(1 / 2 : ℚ)⌋ = 0 := by norm_num
    rw [whole, Int.floor_natCast_add, half, add_zero]
  case isFalse small =>
    have quotient : (digits : ℚ) * 2 ^ ((scale : ℤ) - 149) + 1 / 2 =
        ((2 * digits + 2 ^ (149 - scale) : Nat) : ℤ) / ((2 * 2 ^ (149 - scale) : Nat) : ℚ) := by
      have inverse : (2 : ℚ) ^ ((scale : ℤ) - 149) = (2 ^ (149 - scale))⁻¹ := by
        have shift : (scale : ℤ) - 149 = -(149 - scale : Nat) := by omega
        rw [shift, zpow_neg, zpow_natCast]
      rw [inverse]
      generalize 149 - scale = places
      push_cast
      field_simp
    rw [quotient, Rat.floor_intCast_div_natCast]
    rfl

/-- A number that is not negative is limited to 255 from above, one beyond the format with it. -/
theorem Datum.toByte_rounded {exact result : ℚ} (nonnegative : 0 ≤ result)
    (rounds : nearestEven (exact / lastPlace exact) * lastPlace exact = result) {whole : Nat}
    (away : nearestAway result = whole) :
    (rounded exact).toByte = UInt8.ofNat (min 255 whole) := by
  have limited : (max 0 (min 255 (nearestAway result))).toNat = min 255 whole := by omega
  simp only [rounded, rounds, abs_of_nonneg nonnegative]
  split
  case isTrue large =>
    have most : 255 ≤ whole := by
      have atLeast : (255 : ℤ) ≤ ⌊result + 1 / 2⌋ := by
        rw [Int.le_floor]
        push_cast
        linarith
      rw [nearestAway, if_pos nonnegative] at away
      omega
    rw [Nat.min_eq_left most]
    simp [toByte, not_lt.mpr nonnegative]
  case isFalse => simp only [toByte, limited]

namespace Binary32

variable {number : Binary32}

theorem scale_of_small (small : 255 * number.significand < 2 ^ 23) : number.scale = 0 := by
  unfold significand at small
  unfold scale
  split at small <;> omega

theorem toChannel_of_positive (finite : number.isFinite) (plus : number.negative = false) :
    number.toChannel = (Datum.rounded (255 * number.value)).toByte := by
  have nan : number.isNaN = false := by simp [isNaN, show number.exponent ≠ 255 from finite]
  have infinite : number.isInfinite = false := by
    simp [isInfinite, show number.exponent ≠ 255 from finite]
  have product : 255 * number.value =
      ((255 * number.significand : Nat) : ℚ) * 2 ^ ((number.scale : ℤ) - 149) := by
    have place : (2 : ℚ) ^ ((number.scale : ℤ) - 149) = 2 ^ number.scale / 2 ^ 149 := by
      rw [zpow_sub₀ two_ne_zero, zpow_natCast]
      rfl
    simp only [value, magnitude, plus, Bool.false_eq_true, if_false, place]
    push_cast
    ring
  rw [product, Datum.toByte_rounded (by positivity) (nearestEven_product scale_of_small)
    (nearestAway_scaled _ _)]
  simp only [toChannel, nan, plus, infinite, Bool.or_self, Bool.false_eq_true, if_false, Nat.pow_eq]
  split <;> rfl

theorem value_nonpos (minus : number.negative = true) : number.value ≤ 0 := by
  simp only [value, minus, if_true]
  have size : (0 : ℚ) ≤ number.magnitude / 2 ^ 149 := by positivity
  linarith

theorem toChannel_eq (number : Binary32) : number.toChannel = number.datum.times255.toByte := by
  by_cases finite : number.isFinite
  · rw [datum_of_finite finite, Datum.times255]
    cases sign : number.negative with
    | false => exact toChannel_of_positive finite sign
    | true =>
        have nonpositive := value_nonpos sign
        rw [Datum.toByte_rounded_nonpos (by linarith)]
        simp [toChannel, sign]
  · have highest : number.exponent = 255 := not_not.mp finite
    by_cases none : number.fraction = 0
    · have infinite : number.isInfinite = true := by simp [isInfinite, highest, none]
      have nan : number.isNaN = false := by simp [isNaN, none]
      rw [datum_of_infinite infinite]
      cases sign : number.negative <;> simp [toChannel, nan, infinite, sign] <;> rfl
    · have nan : number.isNaN = true := by simp [isNaN, highest, none]
      rw [datum_of_nan nan]
      simp [toChannel, nan]
      rfl

end Binary32

/-- Each channel for itself. -/
def UnitColor.eightBit (color : UnitColor) : ByteColor where
  red := color.red.datum.times255.toByte
  green := color.green.datum.times255.toByte
  blue := color.blue.datum.times255.toByte
  alpha := color.alpha.datum.times255.toByte

theorem UnitColor.toBytes_eq (color : UnitColor) : color.toBytes = color.eightBit := by
  simp only [toBytes, eightBit, Binary32.toChannel_eq]

end Scanout

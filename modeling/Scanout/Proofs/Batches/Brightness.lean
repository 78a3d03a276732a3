import Mathlib.Algebra.Order.Field.Basic
import Mathlib.Algebra.Order.Field.Rat
import Mathlib.Tactic.Linarith
import Mathlib.Tactic.Tauto
import Mathlib.Tactic.NormNum
import Mathlib.Tactic.Ring
import Scanout.Engine.Field

/-!
The brightness domains. They are decided on the bit pattern; here they are what they say of the
number. Patterns without their sign are ordered as the magnitudes are, NaN and the infinities above
all others.
-/

namespace Scanout.Binary32

variable {number small large : Binary32}

/-- The size of a finite number in units of `2 ^ -149`. -/
def magnitude (number : Binary32) : Nat := number.significand * 2 ^ number.scale

/-- The number that a finite pattern stands for. -/
def value (number : Binary32) : ℚ :=
  (if number.negative then -1 else 1) * (number.magnitude / 2 ^ 149)

def isFinite (number : Binary32) : Prop := number.exponent ≠ 255

/-- The pattern without its sign. -/
def unsigned (number : Binary32) : Nat := number.bits.toNat % 2 ^ 31

theorem unsigned_eq (number : Binary32) :
    number.unsigned = number.exponent * 0x800000 + number.fraction := by
  simp only [unsigned, exponent, fraction]
  omega

theorem fraction_lt (number : Binary32) : number.fraction < 0x800000 :=
  Nat.mod_lt _ (by decide)

theorem magnitude_lt_pow (number : Binary32) : number.magnitude < 0x800000 * 2 ^ number.exponent := by
  have bound := number.fraction_lt
  simp only [magnitude, significand, scale]
  by_cases subnormal : number.exponent = 0
  · simp only [subnormal, if_true]
    omega
  · obtain ⟨exponent, same⟩ := Nat.exists_eq_succ_of_ne_zero subnormal
    simp only [same, Nat.succ_ne_zero, if_false, Nat.succ_eq_add_one, Nat.add_sub_cancel, pow_succ]
    have positive : 0 < 2 ^ exponent := Nat.two_pow_pos exponent
    calc (0x800000 + number.fraction) * 2 ^ exponent
        < (0x800000 * 2) * 2 ^ exponent := Nat.mul_lt_mul_of_pos_right (by omega) positive
      _ = 0x800000 * (2 ^ exponent * 2) := by ring

theorem pow_le_magnitude {exponent : Nat} (normal : number.exponent = exponent + 1) :
    0x800000 * 2 ^ exponent ≤ number.magnitude := by
  simp only [magnitude, significand, scale, normal, Nat.succ_ne_zero, if_false, Nat.add_sub_cancel]
  exact Nat.mul_le_mul_right _ (Nat.le_add_right _ _)

theorem magnitude_lt (less : small.unsigned < large.unsigned) : small.magnitude < large.magnitude := by
  have smallBound := small.fraction_lt
  have largeBound := large.fraction_lt
  rw [unsigned_eq, unsigned_eq] at less
  have order : small.exponent < large.exponent ∨
      small.exponent = large.exponent ∧ small.fraction < large.fraction := by omega
  rcases order with below | ⟨same, below⟩
  · obtain ⟨exponent, normal⟩ := Nat.exists_eq_succ_of_ne_zero (Nat.ne_zero_of_lt below)
    have atMost : small.exponent ≤ exponent := by omega
    calc small.magnitude < 0x800000 * 2 ^ small.exponent := small.magnitude_lt_pow
      _ ≤ 0x800000 * 2 ^ exponent := Nat.mul_le_mul_left _ (Nat.pow_le_pow_right (by decide) atMost)
      _ ≤ large.magnitude := pow_le_magnitude normal
  · have digits : small.significand < large.significand := by
      simp only [significand, same]
      split <;> omega
    simp only [magnitude, scale, same]
    exact Nat.mul_lt_mul_of_pos_right digits (Nat.two_pow_pos _)

theorem magnitude_congr (same : small.unsigned = large.unsigned) :
    small.magnitude = large.magnitude := by
  have smallBound := small.fraction_lt
  have largeBound := large.fraction_lt
  rw [unsigned_eq, unsigned_eq] at same
  have exponents : small.exponent = large.exponent := by omega
  have fractions : small.fraction = large.fraction := by omega
  simp only [magnitude, significand, scale, exponents, fractions]

theorem magnitude_le_iff : small.magnitude ≤ large.magnitude ↔ small.unsigned ≤ large.unsigned := by
  constructor
  · intro atMost
    by_contra above
    have more := magnitude_lt (Nat.lt_of_not_le above)
    omega
  · intro atMost
    rcases Nat.lt_or_eq_of_le atMost with less | same
    · exact (magnitude_lt less).le
    · exact (magnitude_congr same).le

theorem magnitude_le_one : number.magnitude ≤ 2 ^ 149 ↔ number.unsigned ≤ 0x3f800000 := by
  have size : one.magnitude = 2 ^ 149 := by decide
  rw [← size, magnitude_le_iff]
  rfl

theorem magnitude_zero : number.magnitude = 0 ↔ number.unsigned = 0 := by
  have size : magnitude ⟨0⟩ = 0 := by decide
  have least : number.magnitude ≤ magnitude ⟨0⟩ ↔ number.unsigned ≤ unsigned ⟨0⟩ := magnitude_le_iff
  rw [size] at least
  simpa [unsigned] using least

theorem magnitude_eq_one : number.magnitude = 2 ^ 149 ↔ number.unsigned = 0x3f800000 := by
  have size : one.magnitude = 2 ^ 149 := by decide
  have least : one.magnitude ≤ number.magnitude ↔ one.unsigned ≤ number.unsigned := magnitude_le_iff
  have place : one.unsigned = 0x3f800000 := rfl
  have most := number.magnitude_le_one
  rw [size, place] at least
  omega

theorem value_of_positive (positive : number.bits.toNat < 2 ^ 31) :
    number.unsigned = number.bits.toNat ∧ number.value = number.magnitude / 2 ^ 149 := by
  have plain : number.negative = false := by
    simp only [negative, ge_iff_le, decide_eq_false_iff_not, UInt32.le_iff_toNat_le]
    exact Nat.not_le.mpr positive
  refine ⟨Nat.mod_eq_of_lt positive, ?_⟩
  simp [value, plain]

theorem value_of_negative (signed : 2 ^ 31 ≤ number.bits.toNat) :
    number.unsigned + 2 ^ 31 = number.bits.toNat ∧
      number.value = -(number.magnitude / 2 ^ 149) := by
  have below := number.bits.toNat_lt
  have minus : number.negative = true := by
    simp only [negative, ge_iff_le, decide_eq_true_eq, UInt32.le_iff_toNat_le]
    exact signed
  refine ⟨by simp only [unsigned]; omega, ?_⟩
  simp [value, minus]

theorem finite_of_le_one (atMost : number.unsigned ≤ 0x3f800000) : number.isFinite := by
  have parts := number.unsigned_eq
  unfold isFinite
  omega

theorem inUnitInterval_iff :
    number.inUnitInterval = true ↔ number.isFinite ∧ 0 ≤ number.value ∧ number.value ≤ 1 := by
  have decided : number.inUnitInterval = true ↔
      number.bits.toNat ≤ 0x3f800000 ∨ number.bits.toNat = 2 ^ 31 := by
    simp [inUnitInterval, UInt32.le_iff_toNat_le, ← UInt32.toNat_inj, one]
  rw [decided]
  have scaled : (number.magnitude : ℚ) / 2 ^ 149 ≤ 1 ↔ number.magnitude ≤ 2 ^ 149 := by
    rw [div_le_one (by positivity)]
    exact_mod_cast Iff.rfl
  rcases Nat.lt_or_ge number.bits.toNat (2 ^ 31) with positive | signed
  · obtain ⟨pattern, size⟩ := value_of_positive positive
    have nonnegative : 0 ≤ number.value := by
      rw [size]
      positivity
    rw [size, scaled, magnitude_le_one, pattern, ← size]
    constructor
    · intro inside
      have atMost : number.unsigned ≤ 0x3f800000 := by omega
      exact ⟨finite_of_le_one atMost, nonnegative, by omega⟩
    · rintro ⟨-, -, atMost⟩
      exact .inl atMost
  · obtain ⟨pattern, size⟩ := value_of_negative signed
    constructor
    · intro zero
      have none : number.unsigned = 0 := by omega
      have vanishes : number.value = 0 := by
        rw [size, magnitude_zero.mpr none]
        norm_num
      refine ⟨finite_of_le_one (by omega), ?_, ?_⟩
      · rw [vanishes]
      · rw [vanishes]
        norm_num
    · rintro ⟨-, atLeast, -⟩
      have vanishes : number.magnitude = 0 := by
        rw [size, neg_nonneg, div_le_iff₀ (by positivity), zero_mul] at atLeast
        exact Nat.le_zero.mp (by exact_mod_cast atLeast)
      have none := magnitude_zero.mp vanishes
      right
      omega

/-- A display takes a brightness that is a finite number in `[0, 1]`, or exactly minus one. -/
theorem isDisplayBrightness_iff :
    number.isDisplayBrightness = true ↔
      number.isFinite ∧ ((0 ≤ number.value ∧ number.value ≤ 1) ∨ number.value = -1) := by
  have decided : number.isDisplayBrightness = true ↔
      number.inUnitInterval = true ∨ number.bits.toNat = 0xbf800000 := by
    cases number
    simp [isDisplayBrightness, ← UInt32.toNat_inj, minusOne]
  have minusOne : number.bits.toNat = 0xbf800000 ↔ number.isFinite ∧ number.value = -1 := by
    rcases Nat.lt_or_ge number.bits.toNat (2 ^ 31) with positive | signed
    · have nonnegative : 0 ≤ number.value := by
        rw [(value_of_positive positive).2]
        positivity
      constructor
      · intro same
        omega
      · rintro ⟨-, same⟩
        linarith
    · obtain ⟨pattern, size⟩ := value_of_negative signed
      have scaled : number.value = -1 ↔ number.magnitude = 2 ^ 149 := by
        rw [size, neg_inj, div_eq_one_iff_eq (by positivity)]
        exact_mod_cast Iff.rfl
      rw [scaled, magnitude_eq_one]
      constructor
      · intro same
        have place : number.unsigned = 0x3f800000 := by omega
        exact ⟨finite_of_le_one place.le, place⟩
      · rintro ⟨-, place⟩
        omega
  rw [decided, inUnitInterval_iff, minusOne]
  tauto

end Scanout.Binary32

import TemplateBuild.Decimal.Binary64
import Mathlib.Algebra.Order.Field.Rat
import Mathlib.Algebra.Order.Field.Power
import Mathlib.Tactic.Linarith

/-!
# Rounding to whole numbers

A quotient goes to the whole number nearest to it, and to an even one from the middle between two.
-/

set_option autoImplicit false

namespace TemplateBuild

namespace Ratio

/-- The number that a quotient stands for. -/
def value (ratio : Ratio) : ℚ :=
  ratio.numerator / ratio.denominator

theorem value_ofPower (mantissa : Nat) (exponent : Int) :
    (ofPower mantissa exponent).value = mantissa * 2 ^ exponent := by
  rw [value, ofPower]
  split
  · next negative =>
    obtain ⟨power, rfl⟩ : ∃ power : Nat, exponent = -power := ⟨exponent.natAbs, by omega⟩
    simp [Nat.shiftLeft_eq, div_eq_mul_inv]
  · next natural =>
    obtain ⟨power, rfl⟩ : ∃ power : Nat, exponent = power := ⟨exponent.natAbs, by omega⟩
    simp [Nat.shiftLeft_eq]

theorem denominator_ofPower_pos (mantissa : Nat) (exponent : Int) :
    0 < (ofPower mantissa exponent).denominator := by
  rw [ofPower]
  split
  · simp [Nat.shiftLeft_eq]
  · simp

variable {ratio : Ratio}

/-- The whole number nearest to a quotient: the even one if the quotient lies in the middle. -/
structure Nearest (ratio : Ratio) (number : Nat) : Prop where
  notAbove : 2 * (number * ratio.denominator) ≤ 2 * ratio.numerator + ratio.denominator
  notBelow : 2 * ratio.numerator ≤ 2 * (number * ratio.denominator) + ratio.denominator
  even : 2 * (number * ratio.denominator) = 2 * ratio.numerator + ratio.denominator ∨
    2 * ratio.numerator = 2 * (number * ratio.denominator) + ratio.denominator → number % 2 = 0

theorem nearest_round (positive : 0 < ratio.denominator) : ratio.Nearest (ratio.round .toEven) := by
  have parts := Nat.div_add_mod' ratio.numerator ratio.denominator
  have less := Nat.mod_lt ratio.numerator positive
  rw [round]
  generalize ratio.numerator / ratio.denominator = quotient at parts ⊢
  generalize ratio.numerator % ratio.denominator = rest at parts less ⊢
  simp only [reduceCtorEq, false_or]
  split
  · refine ⟨?_, ?_, fun _ => ?_⟩
    all_goals
      simp only [Nat.add_one_mul] at *
      omega
  · exact ⟨by omega, by omega, by omega⟩

/-- How a number lies to a quotient, in whole numbers. -/
theorem sub_half_le_value_iff (positive : 0 < ratio.denominator) (number : Nat) :
    (number : ℚ) - 1 / 2 ≤ ratio.value ↔
      2 * (number * ratio.denominator) ≤ 2 * ratio.numerator + ratio.denominator := by
  rw [value, le_div_iff₀ (by exact_mod_cast positive), ← Nat.cast_le (α := ℚ)]
  push_cast
  constructor <;> intro <;> linarith

theorem value_le_add_half_iff (positive : 0 < ratio.denominator) (number : Nat) :
    ratio.value ≤ (number : ℚ) + 1 / 2 ↔
      2 * ratio.numerator ≤ 2 * (number * ratio.denominator) + ratio.denominator := by
  rw [value, div_le_iff₀ (by exact_mod_cast positive), ← Nat.cast_le (α := ℚ)]
  push_cast
  constructor <;> intro <;> linarith

namespace Nearest

variable {number : Nat}

/-- It is at most one half away. -/
theorem abs_sub_value_le (nearest : ratio.Nearest number) (positive : 0 < ratio.denominator) :
    |(number : ℚ) - ratio.value| ≤ 1 / 2 := by
  have below := (sub_half_le_value_iff positive number).mpr nearest.notAbove
  have above := (value_le_add_half_iff positive number).mpr nearest.notBelow
  rw [abs_le]
  constructor <;> linarith

/-- From the middle below an even number it is this number or one above it. -/
theorem le_iff_of_even (nearest : ratio.Nearest number) (positive : 0 < ratio.denominator)
    {limit : Nat} (even : limit % 2 = 0) : limit ≤ number ↔ (limit : ℚ) - 1 / 2 ≤ ratio.value := by
  have notAbove := nearest.notAbove
  have notBelow := nearest.notBelow
  rw [sub_half_le_value_iff positive]
  constructor
  · intro reached
    have product := Nat.mul_le_mul_right ratio.denominator reached
    omega
  · intro reached
    by_contra short
    have product := Nat.mul_le_mul_right ratio.denominator (Nat.succ_le_of_lt (not_le.mp short))
    rw [Nat.succ_mul] at product
    -- Only the middle below the limit is left, and there the limit itself is the even number.
    have middle : number % 2 = 0 := nearest.even (by omega)
    have next : number + 2 ≤ limit := by omega
    have further := Nat.mul_le_mul_right ratio.denominator next
    rw [Nat.add_mul] at further
    omega

theorem eq_zero_iff (nearest : ratio.Nearest number) (positive : 0 < ratio.denominator) :
    number = 0 ↔ ratio.value ≤ 1 / 2 := by
  have notAbove := nearest.notAbove
  have notBelow := nearest.notBelow
  have small := value_le_add_half_iff positive 0
  rw [Nat.cast_zero, zero_add, Nat.zero_mul] at small
  rw [small]
  constructor
  · rintro rfl
    omega
  · intro low
    by_contra nonzero
    have product := Nat.mul_le_mul_right ratio.denominator (Nat.pos_of_ne_zero nonzero)
    have middle : number % 2 = 0 := nearest.even (by omega)
    have two : 2 ≤ number := by omega
    have further := Nat.mul_le_mul_right ratio.denominator two
    omega

end Nearest

end Ratio

end TemplateBuild

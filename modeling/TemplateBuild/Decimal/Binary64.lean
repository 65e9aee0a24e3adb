/-!
# Floating-point numbers as exact values

A binary floating-point number of 64 bits, taken apart into what it stands for.  A finite
number is a whole mantissa times a power of two.
-/

set_option autoImplicit false

namespace TemplateBuild

inductive Binary64 where
  | nan
  | infinite (negative : Bool)
  | finite (negative : Bool) (mantissa : Nat) (exponent : Int)
deriving DecidableEq, Repr

namespace Binary64

def fractionBits : Nat := 52

/-- Mantissas of all numbers but the smallest have this bit. -/
def hiddenBit : Nat := 1 <<< fractionBits

/-- The exponent of the smallest numbers. -/
def leastExponent : Int := -1074

def ofBits (bits : UInt64) : Binary64 :=
  let negative := bits.toNat >>> 63 = 1
  let biased := bits.toNat / hiddenBit % 2048
  let fraction := bits.toNat % hiddenBit
  if biased = 2047 then
    if fraction = 0 then .infinite negative else .nan
  else if biased = 0 then .finite negative fraction leastExponent
  else .finite negative (hiddenBit + fraction) (leastExponent + (biased - 1 : Nat))

def ofFloat (value : Float) : Binary64 :=
  ofBits value.toBits

def isNegative : Binary64 → Bool
  | .nan => false
  | .infinite negative => negative
  | .finite negative _ _ => negative

end Binary64

/-- A number that is not negative, as a quotient of whole numbers. -/
structure Ratio where
  numerator : Nat
  denominator : Nat
deriving DecidableEq, Repr

namespace Ratio

def ofPower (mantissa : Nat) (exponent : Int) : Ratio :=
  if exponent < 0 then ⟨mantissa, 1 <<< (-exponent).toNat⟩
  else ⟨mantissa <<< exponent.toNat, 1⟩

/-- Times a power of ten. -/
def shift (ratio : Ratio) (places : Int) : Ratio :=
  if places < 0 then ⟨ratio.numerator, ratio.denominator * Nat.pow 10 (-places).toNat⟩
  else ⟨ratio.numerator * Nat.pow 10 places.toNat, ratio.denominator⟩

/-- Which of its two neighbours a number halfway between them goes to. -/
inductive Tie where
  | toEven
  | upward
deriving DecidableEq, Repr

/-- The nearest whole number. -/
def round (ratio : Ratio) (tie : Tie) : Nat :=
  let quotient := ratio.numerator / ratio.denominator
  let rest := ratio.numerator % ratio.denominator * 2
  let goesUp := ratio.denominator < rest ∨
    (rest = ratio.denominator ∧ (tie = .upward ∨ quotient % 2 = 1))
  if goesUp then quotient + 1 else quotient

end Ratio

end TemplateBuild

import TemplateBuild.Decimal.Binary64

/-!
# Remainders of floating-point numbers

The remainder of a division that rounds toward zero, which is always exact.
-/

set_option autoImplicit false

namespace TemplateBuild.Binary64

/-- What is left of one mantissa once the other has been taken off it as often as possible. -/
def remainderParts (mantissa : Nat) (exponent : Int) (other : Nat) (otherExponent : Int) :
    Nat × Int :=
  let lower := min exponent otherExponent
  let left := mantissa <<< (exponent - lower).toNat
  let right := other <<< (otherExponent - lower).toNat
  (left % right, lower)

/-- The remainder has the sign of the dividend. -/
def remainder (dividend divisor : Float) : Float :=
  match ofFloat dividend, ofFloat divisor with
  | .finite negative mantissa exponent, .finite _ other otherExponent =>
    if other = 0 then 0.0 / 0.0
    else if mantissa = 0 then dividend
    else
      let (left, scale) := remainderParts mantissa exponent other otherExponent
      let size := (Float.ofNat left).scaleB scale
      if negative then -size else size
  | .finite _ _ _, .infinite _ => dividend
  | _, _ => 0.0 / 0.0

end TemplateBuild.Binary64

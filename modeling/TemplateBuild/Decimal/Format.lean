import TemplateBuild.Decimal.Digits

/-!
# Numbers with a given precision

The fixed, the exponential and the general format of a number that is not negative.  The
general format takes whichever of the two others is shorter to read and drops trailing zeros.
Halves go to the even neighbour.
-/

set_option autoImplicit false

namespace TemplateBuild.Digits

/-- At least so many digits. -/
def padded (width : Nat) (digits : List Char) : List Char :=
  zeros (width - digits.length) ++ digits

/-- A whole number of steps of ten to the power minus `places`, with its point. -/
def withPlaces (steps places : Nat) : List Char :=
  let digits := padded (places + 1) (decimal steps)
  let whole := digits.take (digits.length - places)
  if places = 0 then whole else whole ++ '.' :: digits.drop (digits.length - places)

def fixed (ratio : Ratio) (places : Nat) : List Char :=
  withPlaces ((ratio.shift places).round .toEven) places

/-- Exactly `count` digits of a number, and its exponent when one digit stands before the
point. -/
def rounded (ratio : Ratio) (count : Nat) (tie : Ratio.Tie) : List Char × Int :=
  if ratio.numerator = 0 then (zeros count, 0)
  else
    let top := magnitude ratio
    let digits := decimal ((ratio.shift (count - top)).round tie)
    if digits.length > count then (digits.take count, top) else (digits, top - 1)

def exponentMark (exponent : Int) : List Char :=
  'e' :: (if exponent < 0 then '-' else '+') :: padded 2 (decimal exponent.natAbs)

/-- One digit before the point and `digits.length - 1` behind it. -/
def scientific (digits : List Char) (exponent : Int) : List Char :=
  match digits with
  | [] => []
  | [only] => only :: exponentMark exponent
  | first :: rest => first :: '.' :: rest ++ exponentMark exponent

def exponential (ratio : Ratio) (places : Nat) : List Char :=
  let (digits, exponent) := rounded ratio (places + 1) .toEven
  scientific digits exponent

/-- Digits behind a point without the zeros at their end, and no point without digits. -/
def dropFractionZeros (digits : List Char) : List Char :=
  if digits.contains '.' then
    let kept := dropTrailingZeros digits
    if kept.getLast? = some '.' then kept.dropLast else kept
  else digits

/-- `keepZeros` keeps as many digits as the precision allows. -/
def general (ratio : Ratio) (precision : Nat) (keepZeros : Bool) : List Char :=
  let count := if precision = 0 then 1 else precision
  let (digits, exponent) := rounded ratio count .toEven
  if -4 ≤ exponent ∧ exponent < count then
    let text := fixed ratio (count - 1 - exponent).toNat
    if keepZeros then text else dropFractionZeros text
  else
    let kept := if keepZeros then digits
      else match dropTrailingZeros digits with
        | [] => ['0']
        | kept => kept
    scientific kept exponent

end TemplateBuild.Digits

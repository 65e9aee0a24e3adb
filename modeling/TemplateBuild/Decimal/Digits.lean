import TemplateBuild.Decimal.Binary64

/-!
# Decimal digits of a number

A positive number as decimal digits behind a point, times a power of ten.  `Digits.shortest`
gives the fewest digits that read back as the same floating-point number, and among those
the nearest; `Digits.significant` rounds to a given count of digits.
-/

set_option autoImplicit false

namespace TemplateBuild

/-- The number `0.DIGITS` times ten to the power `point`. -/
structure Digits where
  digits : List Char
  point : Int
deriving DecidableEq, Repr

namespace Digits

def decimal (value : Nat) : List Char :=
  Nat.toDigits 10 value

/-- How many places the point of a number below one moves right until the number is at least
one tenth. -/
def leadingZeros (ratio : Ratio) : Nat → Nat
  | 0 => 0
  | fuel + 1 =>
    if ratio.numerator * 10 < ratio.denominator then
      leadingZeros ⟨ratio.numerator * 10, ratio.denominator⟩ fuel + 1
    else 0

/-- No number of 64 bits has more zeros behind the point than this. -/
def mostLeadingZeros : Nat := 400

/-- The power of ten just above a positive number. -/
def magnitude (ratio : Ratio) : Int :=
  if ratio.denominator ≤ ratio.numerator then
    (decimal (ratio.numerator / ratio.denominator)).length
  else -(leadingZeros ratio mostLeadingZeros : Int)

def dropTrailingZeros (digits : List Char) : List Char :=
  (digits.reverse.dropWhile (· == '0')).reverse

/-- A whole number of grid steps, each ten to the power `step`. -/
def ofSteps (steps : Nat) (step : Int) : Digits :=
  let digits := decimal steps
  ⟨dropTrailingZeros digits, step + digits.length⟩

/-- Rounds to at most `count` digits. -/
def significant (ratio : Ratio) (count : Nat) (tie : Ratio.Tie) : Digits :=
  let step := magnitude ratio - count
  ofSteps ((ratio.shift (-step)).round tie) step

/-- The numbers that read back as a given one, in quarters of its last place. -/
structure Interval where
  lowest : Nat
  highest : Nat
  closed : Bool

/-- Half a place on both sides; below a power of two the neighbour is nearer.  The ends
belong to the even mantissa. -/
def intervalOf (mantissa : Nat) (exponent : Int) : Interval :=
  let atPower := mantissa = Binary64.hiddenBit ∧ Binary64.leastExponent < exponent
  ⟨4 * mantissa - (if atPower then 1 else 2), 4 * mantissa + 2, mantissa % 2 = 0⟩

/-- Whether the decimal `steps * 10 ^ step` lies in the interval. -/
def Interval.contains (interval : Interval) (exponent : Int) (steps : Nat) (step : Int) : Bool :=
  let quarter := Ratio.ofPower 1 (exponent - 2)
  let point := Ratio.shift ⟨steps, 1⟩ step
  let left := point.numerator * quarter.denominator
  let unit := quarter.numerator * point.denominator
  if interval.closed then interval.lowest * unit ≤ left && left ≤ interval.highest * unit
  else interval.lowest * unit < left && left < interval.highest * unit

/-- The neighbours of the number on the grid of `count` digits, the nearer one first. -/
def neighbours (ratio : Ratio) (step : Int) : List Nat :=
  let scaled := ratio.shift (-step)
  let below := scaled.numerator / scaled.denominator
  if scaled.round .toEven = below then [below, below + 1] else [below + 1, below]

def shortestFrom (mantissa : Nat) (exponent : Int) (ratio : Ratio) (top : Int) :
    Nat → Nat → Digits
  | count, 0 => significant ratio count .toEven
  | count, fuel + 1 =>
    let step := top - count
    match (neighbours ratio step).find? fun steps =>
        (intervalOf mantissa exponent).contains exponent steps step with
    | some steps => ofSteps steps step
    | none => shortestFrom mantissa exponent ratio top (count + 1) fuel

/-- Seventeen digits always suffice. -/
def shortest (mantissa : Nat) (exponent : Int) : Digits :=
  let ratio := Ratio.ofPower mantissa exponent
  shortestFrom mantissa exponent ratio (magnitude ratio) 1 16

def zeros (count : Nat) : List Char :=
  List.replicate count '0'

/-- The digits with the point at its place and no exponent. -/
def plain (number : Digits) : List Char :=
  let length : Int := number.digits.length
  if number.point ≤ 0 then '0' :: '.' :: zeros (-number.point).toNat ++ number.digits
  else if length ≤ number.point then number.digits ++ zeros (number.point - length).toNat
  else
    number.digits.take number.point.toNat ++ '.' :: number.digits.drop number.point.toNat

end Digits

/-- The shortest text of a number that reads back, never with an exponent. -/
def Binary64.plainText : Binary64 → String
  | .nan => "NaN"
  | .infinite negative => if negative then "-inf" else "inf"
  | .finite negative mantissa exponent =>
    let sign := if negative then "-" else ""
    if mantissa = 0 then sign ++ "0"
    else sign ++ String.ofList (Digits.shortest mantissa exponent).plain

end TemplateBuild

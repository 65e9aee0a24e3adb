import TemplateBuild.Decimal.Format
import TemplateBuild.Text.Utf8

/-!
# Numerals

How numbers are written and read: whole numbers of 64 bits, which wrap around, and
floating-point numbers, shown with fourteen digits.  Text is read as a number where it is one
from end to end, blanks around it apart.
-/

set_option autoImplicit false

namespace TemplateBuild.Lua

/-- A number of either kind. -/
inductive Number where
  | integer (value : Int64)
  | float (value : Float)

namespace Number

def shownDigits : Nat := 14

def floatText (value : Float) : String :=
  match Binary64.ofFloat value with
  | .nan => "-nan"
  | .infinite negative => if negative then "-inf" else "inf"
  | .finite negative mantissa exponent =>
    let digits := Digits.general (Ratio.ofPower mantissa exponent) shownDigits false
    let marked := if digits.all Char.isDigit then digits ++ ['.', '0'] else digits
    (if negative then "-" else "") ++ String.ofList marked

def text : Number → String
  | .integer value => toString value.toInt
  | .float value => floatText value

end Number

namespace Numeral

def isSpace (byte : UInt8) : Bool :=
  byte = 0x20 || (0x09 ≤ byte && byte ≤ 0x0D)

def isDigit (byte : UInt8) : Bool :=
  0x30 ≤ byte && byte ≤ 0x39

def digitValue? (byte : UInt8) : Option Nat :=
  let code := byte.toNat
  if 0x30 ≤ code ∧ code ≤ 0x39 then some (code - 0x30)
  else if 0x41 ≤ code ∧ code ≤ 0x5A then some (code - 0x41 + 10)
  else if 0x61 ≤ code ∧ code ≤ 0x7A then some (code - 0x61 + 10)
  else none

def isHexDigit (byte : UInt8) : Bool :=
  match digitValue? byte with
  | some value => value < 16
  | none => false

def valueOf (base : Nat) (digits : Bytes) : Nat :=
  digits.foldl (fun total digit => total * base + (digitValue? digit).getD 0) 0

def trim (text : Bytes) : Bytes :=
  ((text.dropWhile isSpace).reverse.dropWhile isSpace).reverse

/-- A sign and what follows it. -/
def signOf : Bytes → Bool × Bytes
  | 0x2D :: rest => (true, rest)
  | 0x2B :: rest => (false, rest)
  | text => (false, text)

def isHexMark (text : Bytes) : Bool :=
  match text with
  | 0x30 :: mark :: _ => mark = 0x78 || mark = 0x58
  | _ => false

/-- Digits before and behind a point. -/
def splitPoint (accept : UInt8 → Bool) (text : Bytes) : Bytes × Bytes × Bytes :=
  let (whole, rest) := text.span accept
  match rest with
  | 0x2E :: behind =>
    let (fraction, left) := behind.span accept
    (whole, fraction, left)
  | _ => (whole, [], rest)

/-- An exponent after its mark, with the text fully used. -/
def exponent? (text : Bytes) : Option Int :=
  let (negative, digits) := signOf text
  if digits.isEmpty || !digits.all isDigit then none
  else
    let size : Int := (min (valueOf 10 digits) 100000 : Nat)
    some (if negative then -size else size)

def exponentAfter (lower upper : UInt8) : Bytes → Option Int
  | [] => some 0
  | mark :: rest => if mark = lower ∨ mark = upper then exponent? rest else none

/-- Beyond these powers of ten every number is infinite, or zero. -/
def decimalFloat (digits : Nat) (exponent : Int) (length : Nat) : Float :=
  if digits = 0 then 0.0
  else if exponent + length > 400 then 1.0 / 0.0
  else if exponent + length < -400 then 0.0
  else if exponent < 0 then Float.ofScientific digits true exponent.natAbs
  else Float.ofScientific digits false exponent.natAbs

def binaryFloat (digits : Nat) (exponent : Int) : Float :=
  (Float.ofNat digits).scaleB exponent

/-- A number without sign and blanks. -/
def unsigned? (text : Bytes) : Option Number :=
  if isHexMark text then
    let (whole, fraction, left) := splitPoint isHexDigit (text.drop 2)
    if whole.isEmpty && fraction.isEmpty then none
    else if left.isEmpty && !text.contains 0x2E then
      some (.integer (Int64.ofNat (valueOf 16 whole)))
    else
      (exponentAfter 0x70 0x50 left).map fun exponent =>
        .float (binaryFloat (valueOf 16 (whole ++ fraction)) (exponent - 4 * fraction.length))
  else
    let (whole, fraction, left) := splitPoint isDigit text
    if whole.isEmpty && fraction.isEmpty then none
    else
      let value := valueOf 10 whole
      if left.isEmpty && !text.contains 0x2E && value < 1 <<< 63 then
        some (.integer (Int64.ofNat value))
      else
        (exponentAfter 0x65 0x45 left).map fun exponent =>
          let digits := whole ++ fraction
          .float (decimalFloat (valueOf 10 digits) (exponent - fraction.length) digits.length)

/-- The least whole number has no positive counterpart, so its sign is read with it. -/
def number? (text : Bytes) : Option Number :=
  let (negative, digits) := signOf (trim text)
  if negative && !isHexMark digits && !digits.isEmpty && digits.all isDigit &&
      valueOf 10 digits = 1 <<< 63 then
    some (.integer Int64.minValue)
  else
    (unsigned? digits).map fun
      | .integer value => .integer (if negative then -value else value)
      | .float value => .float (if negative then -value else value)

end Numeral

end TemplateBuild.Lua

import TemplateBuild.Decimal.Digits
import TemplateBuild.Decimal.Format
import TemplateBuild.Decimal.Remainder
import TemplateBuild.Text.Blank

/-!
# Texts of numbers

The shortest digits that read back, positional from a millionth up to 21 places.  A text spells
a number in decimal or, behind a prefix, in base 2, 8 or 16; an empty text spells zero.
-/

set_option autoImplicit false

namespace TemplateBuild.JavaScript.Numeral

def notANumber : Float := 0.0 / 0.0

def infinity : Float := 1.0 / 0.0

def isNaN (value : Float) : Bool :=
  value != value

/-- Numbers below this power of ten are written without an exponent. -/
def positionalPlaces : Int := 21

def exponentText (exponent : Int) : List Char :=
  'e' :: (if exponent < 0 then '-' else '+') :: Digits.decimal exponent.natAbs

/-- One digit, a point and further digits if there are any, and an exponent. -/
def scientific (digits : List Char) (exponent : Int) : List Char :=
  match digits with
  | [] => []
  | [only] => only :: exponentText exponent
  | first :: rest => first :: '.' :: rest ++ exponentText exponent

def positive (mantissa : Nat) (exponent : Int) : List Char :=
  let digits := Digits.shortest mantissa exponent
  if -6 < digits.point ∧ digits.point ≤ positionalPlaces then digits.plain
  else scientific digits.digits (digits.point - 1)

def text (value : Float) : String :=
  match Binary64.ofFloat value with
  | .nan => "NaN"
  | .infinite negative => if negative then "-Infinity" else "Infinity"
  | .finite negative mantissa exponent =>
    if mantissa = 0 then "0"
    else String.ofList ((if negative then ['-'] else []) ++ positive mantissa exponent)

/-! ## Whole numbers -/

/-- The whole part of a finite number. -/
def wholePart (value : Float) : Option Int :=
  match Binary64.ofFloat value with
  | .finite negative mantissa exponent =>
    let ratio := Ratio.ofPower mantissa exponent
    let size : Int := (ratio.numerator / ratio.denominator : Nat)
    some (if negative then -size else size)
  | _ => none

/-- The whole part; what is no number counts as zero, and the infinities as far away. -/
def towardZero (value : Float) : Int :=
  match wholePart value with
  | some whole => whole
  | none =>
    if isNaN value then 0
    else if value > 0.0 then (1 <<< 1030 : Nat)
    else -(1 <<< 1030 : Nat)

/-- The 32 lowest bits of the whole part. -/
def word (value : Float) : UInt32 :=
  match wholePart value with
  | some whole => UInt32.ofInt whole
  | none => 0

def signedWord (value : Float) : Int32 :=
  (word value).toInt32

def ofWord (word : UInt32) : Float :=
  Float.ofNat word.toNat

def ofSignedWord (word : Int32) : Float :=
  Float.ofInt word.toInt

/-! ## Reading numbers -/

def isDigit (character : Char) : Bool :=
  '0' ≤ character && character ≤ '9'

/-- The value of a digit or a letter, up to 35. -/
def digitValue? (character : Char) : Option Nat :=
  if isDigit character then some (character.toNat - 0x30)
  else if 'a' ≤ character ∧ character ≤ 'z' then some (character.toNat - 0x57)
  else if 'A' ≤ character ∧ character ≤ 'Z' then some (character.toNat - 0x37)
  else none

def isDigitIn (base : Nat) (character : Char) : Bool :=
  match digitValue? character with
  | some value => value < base
  | none => false

def valueIn (base : Nat) (digits : List Char) : Nat :=
  digits.foldl (fun value digit => value * base + (digitValue? digit).getD 0) 0

/-- The nearest number to a whole one. -/
def ofWhole (value : Nat) : Float :=
  Float.ofScientific value false 0

/-- Digits, and a sign if there is one. -/
def exponentOf? (input : List Char) : Option (Int × List Char) :=
  let (negative, digits) := match input with
    | '-' :: rest => (true, rest)
    | '+' :: rest => (false, rest)
    | rest => (false, rest)
  let (spelled, rest) := digits.span isDigit
  if spelled.isEmpty then none
  else
    let size : Int := valueIn 10 spelled
    some (if negative then -size else size, rest)

/-- Larger exponents make no difference. -/
def clampExponent (exponent : Int) : Int :=
  max (-100000) (min 100000 exponent)

def ofDecimal (whole fraction : List Char) (exponent : Int) : Float :=
  let mantissa := valueIn 10 (whole ++ fraction)
  let places := clampExponent (exponent - fraction.length)
  if mantissa = 0 then 0.0
  else if places > 400 then infinity
  else if places + (whole.length + fraction.length : Nat) < -400 then 0.0
  else Float.ofScientific mantissa (places < 0) places.natAbs

/-- The longest decimal number at the start, and what follows it. -/
def decimal? (input : List Char) : Option (Float × List Char) :=
  let (whole, rest) := input.span isDigit
  let (fraction, rest) := match rest with
    | '.' :: rest => (rest.takeWhile isDigit, rest.dropWhile isDigit)
    | rest => ([], rest)
  if whole.isEmpty && fraction.isEmpty then none
  else
    let plain := ofDecimal whole fraction 0
    match rest with
    | mark :: following =>
      if mark = 'e' ∨ mark = 'E' then
        match exponentOf? following with
        | some (exponent, rest) => some (ofDecimal whole fraction exponent, rest)
        | none => some (plain, rest)
      else some (plain, rest)
    | [] => some (plain, [])

/-- White space around a number, the byte order mark included. -/
def isSpace (character : Char) : Bool :=
  (Text.isBlank character && character != '\u0085') || character == '\uFEFF'

def trim (text : List Char) : List Char :=
  ((text.dropWhile isSpace).reverse.dropWhile isSpace).reverse

def inBase? (base : Nat) (digits : List Char) : Option Float :=
  if digits.isEmpty || !digits.all (isDigitIn base) then none
  else some (ofWhole (valueIn base digits))

def unsigned? (input : List Char) : Option Float :=
  if input = "Infinity".toList then some infinity
  else
    match decimal? input with
    | some (value, []) => some value
    | _ => none

/-- The number that a text spells. -/
def read (text : List Char) : Float :=
  let result := match trim text with
    | [] => some 0.0
    | '0' :: 'x' :: digits => inBase? 16 digits
    | '0' :: 'X' :: digits => inBase? 16 digits
    | '0' :: 'o' :: digits => inBase? 8 digits
    | '0' :: 'O' :: digits => inBase? 8 digits
    | '0' :: 'b' :: digits => inBase? 2 digits
    | '0' :: 'B' :: digits => inBase? 2 digits
    | '-' :: rest => (unsigned? rest).map (-·)
    | '+' :: rest => unsigned? rest
    | rest => unsigned? rest
  result.getD notANumber

end TemplateBuild.JavaScript.Numeral

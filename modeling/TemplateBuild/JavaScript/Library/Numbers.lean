import TemplateBuild.JavaScript.Library.Basic

/-!
# Functions on numbers and truth values

Texts of numbers with a given precision or in another base, and reading numbers at the start of
a text.  Halves are rounded upward where digits are asked for.
-/

set_option autoImplicit false

namespace TemplateBuild.JavaScript.Library.Numbers

open Action hiding pure bind

def numberThis (value : Value) : Action Float := do
  match value with
  | .number number => return number
  | .object address =>
    match (← objectAt address).kind with
    | .boxed (.number number) => return number
    | _ => typeFault "not a number"
  | _ => typeFault "not a number"

def construct : Builtin := fun i call => do
  let number ← match call.arguments with
    | [] => pure 0.0
    | value :: _ => Operator.toNumber i value
  match call.newTarget with
  | none => return .number number
  | some _ => return .object (← Operator.toObject (.number number))

def valueOf : Builtin := fun _ call => do return .number (← numberThis call.this)

/-- A sign, and the exact value of a finite number. -/
def parts? (value : Float) : Option (Bool × Ratio) :=
  match Binary64.ofFloat value with
  | .finite negative mantissa exponent => some (negative, Ratio.ofPower mantissa exponent)
  | _ => none

def signed (negative : Bool) (digits : List Char) : Value :=
  .string (String.ofList ((if negative then ['-'] else []) ++ digits))

/-- A count of digits that has to lie in a range. -/
def digitCount (i : Interpreter) (value : Value) (least : Int) : Action Nat := do
  let count ← Operator.toWhole i value
  if count < least ∨ 100 < count then raiseError .range "digits argument out of range"
  return count.toNat

/-- Numbers from here on are written as without a precision. -/
def fixedLimit : Float := 1e21

def toFixed : Builtin := fun i call => do
  let number ← numberThis call.this
  let places ← digitCount i (call.argument 0) 0
  match parts? number with
  | none => return .string (Numeral.text number)
  | some (negative, ratio) =>
    if number.abs ≥ fixedLimit then return .string (Numeral.text number)
    let steps := (ratio.shift places).round .upward
    return signed (negative && number < 0.0) (Digits.withPlaces steps places)

def toExponential : Builtin := fun i call => do
  let number ← numberThis call.this
  match parts? number with
  | none => return .string (Numeral.text number)
  | some (negative, ratio) =>
    let negative := negative && number != 0.0
    match call.argument 0 with
    | .undefined =>
      match Binary64.ofFloat number with
      | .finite _ mantissa exponent =>
        if mantissa = 0 then return .string "0e+0"
        let digits := Digits.shortest mantissa exponent
        return signed negative (Numeral.scientific digits.digits (digits.point - 1))
      | _ => return .string (Numeral.text number)
    | value =>
      let places ← digitCount i value 0
      let (digits, exponent) := Digits.rounded ratio (places + 1) .upward
      return signed negative (Numeral.scientific digits exponent)

def toPrecision : Builtin := fun i call => do
  let number ← numberThis call.this
  match parts? number, call.argument 0 with
  | none, _ => return .string (Numeral.text number)
  | _, .undefined => return .string (Numeral.text number)
  | some (negative, ratio), value =>
    let negative := negative && number != 0.0
    let count ← digitCount i value 1
    let (digits, exponent) := Digits.rounded ratio count .upward
    if exponent < -6 ∨ exponent ≥ count then
      return signed negative (Numeral.scientific digits exponent)
    else return signed negative (Digits.plain ⟨digits, exponent + 1⟩)

/-- Letters beyond those of base sixteen. -/
def digitChar (digit : Nat) : Char :=
  if digit < 10 then Char.ofNat (0x30 + digit) else Char.ofNat (0x57 + digit)

/-- The digits of a fraction in a base, as many as a number can hold. -/
def fractionDigits (base : Nat) : Nat → Ratio → List Char
  | 0, _ => []
  | fuel + 1, ratio =>
    if ratio.numerator = 0 then []
    else
      let scaled := ratio.numerator * base
      digitChar (scaled / ratio.denominator) ::
        fractionDigits base fuel ⟨scaled % ratio.denominator, ratio.denominator⟩

def digitsIn (base : Nat) : Nat → Nat → List Char → List Char
  | 0, _, digits => digits
  | fuel + 1, value, digits =>
    if value = 0 then digits
    else digitsIn base fuel (value / base) (digitChar (value % base) :: digits)

def inBase (base : Nat) (number : Float) : Value :=
  match parts? number with
  | none => .string (Numeral.text number)
  | some (negative, ratio) =>
    let whole := ratio.numerator / ratio.denominator
    let digits := if whole = 0 then ['0'] else digitsIn base 2000 whole []
    let fraction := fractionDigits base 52
      ⟨ratio.numerator % ratio.denominator, ratio.denominator⟩
    signed (negative && number != 0.0)
      (digits ++ if fraction.isEmpty then [] else '.' :: fraction)

def toText : Builtin := fun i call => do
  let number ← numberThis call.this
  match call.argument 0 with
  | .undefined => return .string (Numeral.text number)
  | value =>
    let base ← Operator.toWhole i value
    if base < 2 ∨ 36 < base then raiseError .range "radix must be between 2 and 36"
    if base = 10 then return .string (Numeral.text number)
    return inBase base.toNat number

/-! ## Kinds of numbers -/

def isFinite (value : Float) : Bool :=
  !Numeral.isNaN value && value.abs != Numeral.infinity

def isWhole (value : Float) : Bool :=
  isFinite value && value.floor == value

def largestSafe : Float := 9007199254740991.0

/-- Tells of a number whether it is of a kind; other values are not. -/
def check (accept : Float → Bool) : Builtin := fun _ call =>
  match call.argument 0 with
  | .number value => return .boolean (accept value)
  | _ => return .boolean false

/-- Converts a value first. -/
def checkConverted (accept : Float → Bool) : Builtin := fun i call => do
  return .boolean (accept (← numberArgument i call 0))

/-! ## Reading numbers -/

def signOf : List Char → Bool × List Char
  | '-' :: rest => (true, rest)
  | '+' :: rest => (false, rest)
  | rest => (false, rest)

def withSign (negative : Bool) (value : Float) : Value :=
  .number (if negative then -value else value)

def hasHexMark : List Char → Bool
  | '0' :: mark :: _ => mark == 'x' || mark == 'X'
  | _ => false

/-- The whole number at the start of a text. -/
def parseWhole : Builtin := fun i call => do
  let text := Operator.charsOf (← textArgument i call 0)
  let base := (Numeral.signedWord (← numberArgument i call 1)).toInt
  let (negative, rest) := signOf (text.dropWhile Numeral.isSpace)
  if base ≠ 0 ∧ (base < 2 ∨ 36 < base) then return .number Numeral.notANumber
  let marked := (base = 0 ∨ base = 16) ∧ hasHexMark rest
  let base := if marked then 16 else if base = 0 then 10 else base.toNat
  let digits := (if marked then rest.drop 2 else rest).takeWhile (Numeral.isDigitIn base)
  if digits.isEmpty then return .number Numeral.notANumber
  return withSign negative (Numeral.ofWhole (Numeral.valueIn base digits))

/-- The number at the start of a text. -/
def parseNumber : Builtin := fun i call => do
  let text := Operator.charsOf (← textArgument i call 0)
  let (negative, rest) := signOf (text.dropWhile Numeral.isSpace)
  if "Infinity".toList.isPrefixOf rest then return withSign negative Numeral.infinity
  match Numeral.decimal? rest with
  | some (value, _) => return withSign negative value
  | none => return .number Numeral.notANumber

/-! ## Truth values -/

def constructBoolean : Builtin := fun _ call => do
  let value := Value.boolean (Operator.toBoolean (call.argument 0))
  match call.newTarget with
  | none => return value
  | some _ => return .object (← Operator.toObject value)

def booleanThis (value : Value) : Action Bool := do
  match value with
  | .boolean flag => return flag
  | .object address =>
    match (← objectAt address).kind with
    | .boxed (.boolean flag) => return flag
    | _ => typeFault "not a boolean"
  | _ => typeFault "not a boolean"

def booleanValue : Builtin := fun _ call => do return .boolean (← booleanThis call.this)

def booleanText : Builtin := fun _ call => do
  return .string (if ← booleanThis call.this then "true" else "false")

def statics : Group := ⟨"Number",
  [("isFinite", check isFinite), ("isInteger", check isWhole), ("isNaN", check Numeral.isNaN),
   ("isSafeInteger", check fun value => isWhole value && value.abs ≤ largestSafe),
   ("parseFloat", parseNumber), ("parseInt", parseWhole)]⟩

def constants : List (String × Value) :=
  [("EPSILON", .number 2.220446049250313e-16), ("MAX_SAFE_INTEGER", .number largestSafe),
   ("MAX_VALUE", .number 1.7976931348623157e308), ("MIN_SAFE_INTEGER", .number (-largestSafe)),
   ("MIN_VALUE", .number (Float.ofBits 1)), ("NEGATIVE_INFINITY", .number (-Numeral.infinity)),
   ("NaN", .number Numeral.notANumber), ("POSITIVE_INFINITY", .number Numeral.infinity)]

def methods : Group := ⟨"Number.prototype",
  [("toExponential", toExponential), ("toFixed", toFixed), ("toLocaleString", toText),
   ("toPrecision", toPrecision), ("toString", toText), ("valueOf", valueOf)]⟩

def booleanMethods : Group := ⟨"Boolean.prototype",
  [("toString", booleanText), ("valueOf", booleanValue)]⟩

/-! ## Mathematics -/

def ofFloat (function : Float → Float) : Builtin := fun i call => do
  return .number (function (← numberArgument i call 0))

/-- A half is rounded up. -/
def roundHalfUp (value : Float) : Float :=
  let below := value.floor
  if value - below ≥ 0.5 then below + 1.0 else below

/-- Rounding a number above minus one half up gives the negative zero. -/
def rounded (value : Float) : Float :=
  if value.floor == value then value
  else if value < 0.0 && value ≥ -0.5 then -0.0
  else roundHalfUp value

def truncated (value : Float) : Float :=
  if value < 0.0 then value.ceil else value.floor

def signOfNumber (value : Float) : Float :=
  if value > 0.0 then 1.0 else if value < 0.0 then -1.0 else value

def numbersOf (i : Interpreter) : List Value → Action (List Float)
  | [] => return []
  | value :: rest => do
    let number ← Operator.toNumber i value
    return number :: (← numbersOf i rest)

/-- The greatest or the least of numbers; what is no number wins. -/
def extreme (start : Float) (wins : Float → Float → Bool) : Builtin := fun i call => do
  let numbers ← numbersOf i call.arguments
  if numbers.any Numeral.isNaN then return .number Numeral.notANumber
  return .number (numbers.foldl (fun best number => if wins number best then number else best) start)

def isNegativeZero (value : Float) : Bool :=
  value == 0.0 && 1.0 / value < 0.0

def greater (left right : Float) : Bool :=
  left > right || (left == 0.0 && isNegativeZero right)

def lesser (left right : Float) : Bool :=
  left < right || (isNegativeZero left && right == 0.0)

def power : Builtin := fun i call => do
  let base ← numberArgument i call 0
  return .number (Operator.power base (← numberArgument i call 1))

def arcTangent2 : Builtin := fun i call => do
  let y ← numberArgument i call 0
  return .number (Float.atan2 y (← numberArgument i call 1))

def hypotenuse : Builtin := fun i call => do
  let numbers ← numbersOf i call.arguments
  return .number (numbers.foldl (fun sum number => sum + number * number) 0.0).sqrt

/-- The next number of a sequence that only looks random. -/
def random : Builtin := fun _ _ => do
  let next := (← machine).random * 6364136223846793005 + 1442695040888963407
  change fun machine => { machine with random := next }
  return .number (Float.ofNat (next >>> 11).toNat / 9007199254740992.0)

def mathematics : Group := ⟨"Math",
  [("abs", ofFloat Float.abs), ("acos", ofFloat Float.acos), ("asin", ofFloat Float.asin),
   ("atan", ofFloat Float.atan), ("atan2", arcTangent2), ("cbrt", ofFloat Float.cbrt),
   ("ceil", ofFloat Float.ceil), ("cos", ofFloat Float.cos), ("exp", ofFloat Float.exp),
   ("floor", ofFloat Float.floor), ("hypot", hypotenuse), ("log", ofFloat Float.log),
   ("log10", ofFloat Float.log10), ("log2", ofFloat Float.log2),
   ("max", extreme (-Numeral.infinity) greater), ("min", extreme Numeral.infinity lesser),
   ("pow", power), ("random", random), ("round", ofFloat rounded),
   ("sign", ofFloat signOfNumber), ("sin", ofFloat Float.sin), ("sqrt", ofFloat Float.sqrt),
   ("tan", ofFloat Float.tan), ("trunc", ofFloat truncated)]⟩

def mathematicalConstants : List (String × Value) :=
  [("E", .number 2.718281828459045), ("LN10", .number 2.302585092994046),
   ("LN2", .number 0.6931471805599453), ("LOG10E", .number 0.4342944819032518),
   ("LOG2E", .number 1.4426950408889634), ("PI", .number 3.141592653589793),
   ("SQRT1_2", .number 0.7071067811865476), ("SQRT2", .number 1.4142135623730951)]

end TemplateBuild.JavaScript.Library.Numbers

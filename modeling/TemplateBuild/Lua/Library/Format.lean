import TemplateBuild.Lua.Library.Arguments

/-!
# Formatted texts

A directive has flags, a width, a precision and a letter.  Numbers are padded with blanks or
zeros; `q` writes a value so that a script can read it back.
-/

set_option autoImplicit false

namespace TemplateBuild.Lua.Format

open Action

structure Directive where
  left : Bool
  plus : Bool
  blank : Bool
  alternate : Bool
  zero : Bool
  width : Nat
  precision : Option Nat
  letter : UInt8

def plainDirective (letter : UInt8) : Directive :=
  ⟨false, false, false, false, false, 0, none, letter⟩

def isFlag (byte : UInt8) : Bool :=
  [0x2D, 0x2B, 0x20, 0x23, 0x30].contains byte

/-- Reads the directive behind a percent sign, and what follows it. -/
def directive? (input : Bytes) : Option (Directive × Bytes) :=
  let (flags, rest) := input.span isFlag
  let width := (rest.take 2).takeWhile Numeral.isDigit
  let rest := rest.drop width.length
  let (precision, rest) := match rest with
    | 0x2E :: rest =>
      let digits := (rest.take 2).takeWhile Numeral.isDigit
      (some (Numeral.valueOf 10 digits), rest.drop digits.length)
    | _ => (none, rest)
  match rest with
  | letter :: left =>
    if flags.length > 5 then none
    else some (⟨flags.contains 0x2D, flags.contains 0x2B, flags.contains 0x20,
      flags.contains 0x23, flags.contains 0x30, Numeral.valueOf 10 width, precision, letter⟩, left)
  | [] => none

def sign (directive : Directive) (negative : Bool) : List Char :=
  if negative then ['-']
  else if directive.plus then ['+']
  else if directive.blank then [' ']
  else []

/-- Fills a number up to the width.  Zeros stand between the sign and the digits. -/
def pad (directive : Directive) (zeros : Bool) (sign digits : List Char) : List Char :=
  let count := directive.width - (sign.length + digits.length)
  if directive.left then sign ++ digits ++ List.replicate count ' '
  else if zeros then sign ++ List.replicate count '0' ++ digits
  else List.replicate count ' ' ++ sign ++ digits

def upperChar (character : Char) : Char :=
  if 'a' ≤ character ∧ character ≤ 'z' then Char.ofNat (character.toNat - 32) else character

/-- A precision asks for digits and leaves no zeros for the width. -/
def wholeDigits (directive : Directive) (digits : List Char) : List Char :=
  match directive.precision with
  | some precision =>
    if precision = 0 ∧ digits = ['0'] then [] else Digits.padded precision digits
  | none => digits

def whole (directive : Directive) (value : Int) : List Char :=
  pad directive (directive.zero && directive.precision.isNone) (sign directive (value < 0))
    (wholeDigits directive (Nat.toDigits 10 value.natAbs))

/-- The bits of a whole number in another base. -/
def bits (directive : Directive) (value : Int64) : List Char :=
  let base := if directive.letter = 0x6F then 8 else 16
  let number := value.toUInt64.toNat
  let digits := wholeDigits directive (Nat.toDigits base number)
  let mark := if directive.alternate && number != 0 then
      (if base = 16 then ['0', 'x'] else ['0'])
    else []
  let text := pad directive (directive.zero && directive.precision.isNone) mark digits
  if directive.letter = 0x58 then text.map upperChar else text

def isUpperLetter (letter : UInt8) : Bool :=
  Numeral.isDigit letter == false && letter < 0x61

/-- A hexadecimal mantissa and a power of two. -/
def hexFloat (precision : Option Nat) (mantissa : Nat) (exponent : Int) : List Char :=
  if mantissa = 0 then "0x0p+0".toList
  else
    let normal := mantissa ≥ Binary64.hiddenBit
    let fraction := mantissa % Binary64.hiddenBit
    let digits := Digits.padded 13 (Nat.toDigits 16 fraction)
    let kept := match precision with
      | some count => digits.take count
      | none => Digits.dropTrailingZeros digits
    let power := exponent + 52
    "0x".toList ++ (if normal then ['1'] else ['0']) ++
      (if kept.isEmpty then [] else '.' :: kept) ++
      ['p', if power < 0 then '-' else '+'] ++ Nat.toDigits 10 power.natAbs

def float (directive : Directive) (value : Float) : List Char :=
  let text := match Binary64.ofFloat value with
    | .nan => pad directive false (if directive.plus then ['+'] else ['-']) "nan".toList
    | .infinite negative => pad directive false (sign directive negative) "inf".toList
    | .finite negative mantissa exponent =>
      let ratio := Ratio.ofPower mantissa exponent
      let precision := directive.precision.getD 6
      let letter := directive.letter
      let digits :=
        if letter = 0x66 ∨ letter = 0x46 then Digits.fixed ratio precision
        else if letter = 0x65 ∨ letter = 0x45 then Digits.exponential ratio precision
        else if letter = 0x61 ∨ letter = 0x41 then hexFloat directive.precision mantissa exponent
        else Digits.general ratio precision directive.alternate
      pad directive directive.zero (sign directive negative) digits
  if isUpperLetter directive.letter then text.map upperChar else text

/-- Cuts a text to the precision and fills it up to the width. -/
def text (directive : Directive) (content : Bytes) : Bytes :=
  let kept := match directive.precision with
    | some precision => content.take precision
    | none => content
  let blanks := List.replicate (directive.width - kept.length) (0x20 : UInt8)
  if directive.left then kept ++ blanks else blanks ++ kept

/-- A byte of a quoted text; control characters are written by number. -/
def quotedByte (byte : UInt8) (next : Option UInt8) : Bytes :=
  if byte = 0x22 ∨ byte = 0x5C then [0x5C, byte]
  else if byte = 0x0A then [0x5C, 0x0A]
  else if byte < 0x20 ∨ byte = 0x7F then
    let digits := Nat.toDigits 10 byte.toNat
    let digits := if next.any Numeral.isDigit then Digits.padded 3 digits else digits
    0x5C :: digits.map fun digit => UInt8.ofNat digit.toNat
  else [byte]

def quotedBytes : Bytes → Bytes
  | [] => []
  | byte :: rest => quotedByte byte rest.head? ++ quotedBytes rest

def ofChars (text : List Char) : Bytes :=
  text.map fun character => UInt8.ofNat character.toNat

/-- A number that a script reads back exactly. -/
def quotedFloat (value : Float) : List Char :=
  match Binary64.ofFloat value with
  | .nan => "(0/0)".toList
  | .infinite negative => (if negative then "-1e9999" else "1e9999").toList
  | .finite negative mantissa exponent =>
    (if negative then ['-'] else []) ++ hexFloat none mantissa exponent

def quoted (value : Value) (number : Nat) : Action Bytes := do
  match value with
  | .text content => return 0x22 :: quotedBytes content ++ [0x22]
  | .integer value =>
    return if value = Int64.minValue then Bytes.ofString "0x8000000000000000"
      else Bytes.ofString (toString value.toInt)
  | .float value => return ofChars (quotedFloat value)
  | .nil => return Bytes.ofString "nil"
  | .boolean value => return Bytes.ofString (if value then "true" else "false")
  | _ => Argument.refuse number "value has no literal form"

/-- Writes one argument as a directive asks. -/
def apply (i : Interpreter) (directive : Directive) (arguments : List Value) (number : Nat) :
    Action Bytes := do
  let letter := directive.letter
  if letter = 0x64 ∨ letter = 0x69 then
    return ofChars (whole directive (← Argument.integer arguments number))
  else if letter = 0x78 ∨ letter = 0x58 ∨ letter = 0x6F then
    return ofChars (bits directive (Int64.ofInt (← Argument.integer arguments number)))
  else if letter = 0x63 then
    let byte := UInt8.ofNat ((← Argument.integer arguments number) % 256).toNat
    return text { directive with precision := none } [byte]
  else if [0x65, 0x45, 0x66, 0x46, 0x67, 0x47, 0x61, 0x41].contains letter then
    return ofChars (float directive (← Argument.float arguments number))
  else if letter = 0x73 then
    let value ← Argument.any arguments number
    return text directive (← Operator.display i value)
  else if letter = 0x71 then quoted (← Argument.any arguments number) number
  else if letter = 0x70 then
    match ← Argument.any arguments number with
    | .table address => return text directive (Bytes.ofString (Operator.addressText address))
    | .function address => return text directive (Bytes.ofString (Operator.addressText address))
    | _ => return text directive (Bytes.ofString "(null)")
  else
    callerFault ("invalid conversion '%" ++ String.singleton (Char.ofNat letter.toNat) ++
      "' to 'format'")

/-- Goes through a format; `number` is that of the next argument. -/
def run (i : Interpreter) (arguments : List Value) : Nat → Bytes → Nat → Action Bytes
  | 0, _, _ => return []
  | fuel + 1, input, number => do
    match input with
    | [] => return []
    | 0x25 :: 0x25 :: rest => return 0x25 :: (← run i arguments fuel rest number)
    | 0x25 :: rest =>
      match directive? rest with
      | none => callerFault "invalid conversion '%' to 'format'"
      | some (directive, left) =>
        let piece ← apply i directive arguments number
        return piece ++ (← run i arguments fuel left (number + 1))
    | byte :: rest => return byte :: (← run i arguments fuel rest number)

def format : Builtin := fun i _ arguments => do
  let template ← Argument.text arguments 1
  return [.text (← run i arguments (template.length + 1) template 2)]

end TemplateBuild.Lua.Format

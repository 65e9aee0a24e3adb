/-!
# Text in units of sixteen bits

A character beyond the first 65536 is a pair of surrogates.  A surrogate without its partner is
text too; where such text has to become characters, it is written as an escape.
-/

set_option autoImplicit false

namespace TemplateBuild

abbrev Units := Array UInt16

namespace Units

def isHigh (unit : UInt16) : Bool :=
  0xD800 ≤ unit && unit ≤ 0xDBFF

def isLow (unit : UInt16) : Bool :=
  0xDC00 ≤ unit && unit ≤ 0xDFFF

def ofCode (code : Nat) : List UInt16 :=
  if code < 0x10000 then [UInt16.ofNat code]
  else
    let rest := code - 0x10000
    [UInt16.ofNat (0xD800 + rest / 0x400), UInt16.ofNat (0xDC00 + rest % 0x400)]

def ofChars (text : List Char) : Units :=
  (text.flatMap fun character => ofCode character.toNat).toArray

def ofString (text : String) : Units :=
  ofChars text.toList

/-- The codes of the characters; a lone surrogate is a code of its own. -/
def codes : List UInt16 → List Nat
  | [] => []
  | high :: low :: rest =>
    if isHigh high && isLow low then
      (0x10000 + (high.toNat - 0xD800) * 0x400 + (low.toNat - 0xDC00)) :: codes rest
    else high.toNat :: codes (low :: rest)
  | [last] => [last.toNat]

def isSurrogate (code : Nat) : Bool :=
  0xD800 ≤ code && code ≤ 0xDFFF

def upperHex (digit : Nat) : Char :=
  if digit < 10 then Char.ofNat (0x30 + digit) else Char.ofNat (0x37 + digit)

/-- A backslash, a `u` and four digits. -/
def escape (code : Nat) : List Char :=
  ['\\', 'u', upperHex (code / 0x1000 % 16), upperHex (code / 0x100 % 16),
    upperHex (code / 0x10 % 16), upperHex (code % 16)]

/-- The characters, with escapes for lone surrogates. -/
def toChars (units : Units) : List Char :=
  (codes units.toList).flatMap fun code =>
    if isSurrogate code then escape code else [Char.ofNat code]

def toString (units : Units) : String :=
  String.ofList units.toChars

/-- The order of texts is that of their units. -/
def before : List UInt16 → List UInt16 → Bool
  | [], [] => false
  | [], _ :: _ => true
  | _ :: _, [] => false
  | left :: leftRest, right :: rightRest =>
    left < right || (left == right && before leftRest rightRest)

/-- Whether a piece stands at a place. -/
def hasAt (text piece : Units) (place : Nat) : Bool :=
  text.extract place (place + piece.size) == piece

/-- The first place of a piece, from a place on. -/
def find? (text piece : Units) (start : Nat) : Option Nat :=
  (List.range' start (text.size + 1 - start)).find? (text.hasAt piece)

def findLast? (text piece : Units) (last : Nat) : Option Nat :=
  (List.range (min last text.size + 1)).reverse.find? (text.hasAt piece)

/-- The number that a text spells if it is the plain form of a whole number below a bound. -/
def index? (units : Units) : Option Nat :=
  if units.size = 0 ∨ units.size > 10 then none
  else if units.size > 1 ∧ units[0]? = some 0x30 then none
  else if units.all fun unit => 0x30 ≤ unit && unit ≤ 0x39 then
    let value := units.foldl (fun value unit => value * 10 + (unit.toNat - 0x30)) 0
    if value < 0xFFFFFFFF then some value else none
  else none

def ofNat (number : Nat) : Units :=
  ((Nat.toDigits 10 number).map fun digit => UInt16.ofNat digit.toNat).toArray

end Units

end TemplateBuild

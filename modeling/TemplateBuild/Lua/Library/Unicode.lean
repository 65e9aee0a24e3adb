import TemplateBuild.Lua.Library.Texts

/-!
# Functions on encoded characters

A character is a lead byte and up to five others, which hold six bits each.  Strict reading
refuses surrogates and what lies beyond the last character; no reading takes a form that is
longer than needed.
-/

set_option autoImplicit false

namespace TemplateBuild.Lua.Library.Unicode

open Action

def isFollowing (byte : UInt8) : Bool :=
  byte &&& 0xC0 = 0x80

/-- The bytes of a code, up to 31 bits. -/
def encode (code : Nat) : Bytes :=
  if code < 0x80 then [UInt8.ofNat code]
  else
    let count :=
      if code < 0x800 then 1 else if code < 0x10000 then 2 else if code < 0x200000 then 3
      else if code < 0x4000000 then 4 else 5
    let lead := 256 - 1 <<< (7 - count) + code >>> (6 * count)
    UInt8.ofNat lead ::
      (List.range count).reverse.map fun place =>
        UInt8.ofNat (0x80 + code >>> (6 * place) % 64)

/-- How many bytes follow a lead byte. -/
def followers? (lead : UInt8) : Option Nat :=
  if lead < 0xC0 then none
  else if lead < 0xE0 then some 1
  else if lead < 0xF0 then some 2
  else if lead < 0xF8 then some 3
  else if lead < 0xFC then some 4
  else if lead < 0xFE then some 5
  else none

def leastCode (followers : Nat) : Nat :=
  match followers with
  | 1 => 0x80
  | 2 => 0x800
  | 3 => 0x10000
  | 4 => 0x200000
  | _ => 0x4000000

def isScalar (code : Nat) : Bool :=
  code ≤ 0x10FFFF && !(0xD800 ≤ code && code ≤ 0xDFFF)

/-- The first character and the number of its bytes. -/
def decode? (strict : Bool) (input : Bytes) : Option (Nat × Nat) :=
  match input with
  | [] => none
  | lead :: rest =>
    if lead < 0x80 then some (lead.toNat, 1)
    else
      match followers? lead with
      | none => none
      | some count =>
        let others := rest.take count
        if others.length < count || !others.all isFollowing then none
        else
          let start := lead.toNat % 1 <<< (6 - count)
          let code := others.foldl (fun code byte => code * 64 + byte.toNat % 64) start
          if code < leastCode count || (strict && !isScalar code) then none
          else some (code, count + 1)

def isStrict (arguments : List Value) (position : Nat) : Bool :=
  !(Argument.value arguments position).isTrue

def encodeAll (arguments : List Value) : Nat → Nat → Action Bytes
  | 0, _ => return []
  | count + 1, number => do
    let code ← Argument.integer arguments number
    if code < 0 ∨ 0x7FFFFFFF < code then Argument.refuse number "value out of range"
    return encode code.toNat ++ (← encodeAll arguments count (number + 1))

def char : Builtin := fun _ _ arguments => do
  return [.text (← encodeAll arguments arguments.length 1)]

/-- A place counted from zero; negative places count from the end. -/
def placeFrom (place : Int) (length : Nat) : Int :=
  if place ≥ 0 then place else if -place > length then 0 else length + place + 1

def codesBetween (strict : Bool) (text : Bytes) (last : Nat) : Nat → Nat → Action (List Value)
  | 0, _ => return []
  | fuel + 1, place => do
    if place ≥ last then return []
    match decode? strict (text.drop place) with
    | none => callerFault "invalid UTF-8 code"
    | some (code, count) =>
      return .integer (Int64.ofNat code) :: (← codesBetween strict text last fuel (place + count))

def codepoint : Builtin := fun _ _ arguments => do
  let text ← Argument.text arguments 1
  let first := placeFrom (← Argument.integerOr arguments 2 1) text.length
  let last := placeFrom (← Argument.integerOr arguments 3 first) text.length
  if first < 1 then Argument.refuse 2 "out of bounds"
  if last > text.length then Argument.refuse 3 "out of bounds"
  codesBetween (isStrict arguments 4) text last.toNat (text.length + 1) (first - 1).toNat

/-- The number of characters between two places, or the first place with none. -/
def count (strict : Bool) (text : Bytes) (last : Int) : Nat → Nat → Nat → Except Nat Nat
  | 0, _, counted => .ok counted
  | fuel + 1, place, counted =>
    if (place : Int) > last then .ok counted
    else
      match decode? strict (text.drop place) with
      | none => .error place
      | some (_, size) => count strict text last fuel (place + size) (counted + 1)

def len : Builtin := fun _ _ arguments => do
  let text ← Argument.text arguments 1
  let first := placeFrom (← Argument.integerOr arguments 2 1) text.length
  let last := placeFrom (← Argument.integerOr arguments 3 (-1)) text.length
  if first < 1 ∨ text.length < first - 1 then Argument.refuse 2 "initial position out of bounds"
  if last - 1 ≥ text.length then Argument.refuse 3 "final position out of bounds"
  match count (isStrict arguments 4) text (last - 1) (text.length + 1) (first - 1).toNat 0 with
  | .ok counted => return [.integer (Int64.ofNat counted)]
  | .error place => return [.nil, .integer (Int64.ofNat (place + 1))]

def followsAt (text : Bytes) (place : Int) : Bool :=
  place ≥ 0 && match text[place.toNat]? with
    | some byte => isFollowing byte
    | none => false

/-- Goes back over following bytes to a lead byte. -/
def backToLead (text : Bytes) : Nat → Int → Int
  | 0, place => place
  | fuel + 1, place =>
    if place > 0 ∧ followsAt text place then backToLead text fuel (place - 1) else place

def onToLead (text : Bytes) : Nat → Int → Int
  | 0, place => place
  | fuel + 1, place =>
    if followsAt text place then onToLead text fuel (place + 1) else place

/-- Moves over so many characters, back or on; none if there are not so many. -/
def moveOver (text : Bytes) (forward : Bool) : Nat → Int → Option Int
  | 0, place => some place
  | left + 1, place =>
    if forward then
      if place < text.length then
        moveOver text forward left (onToLead text (text.length + 1) (place + 1))
      else none
    else
      if place > 0 then
        moveOver text forward left (backToLead text (text.length + 1) (place - 1))
      else none

def offset : Builtin := fun _ _ arguments => do
  let text ← Argument.text arguments 1
  let number ← Argument.integer arguments 2
  let default : Int := if number > 0 then 1 else text.length + 1
  let start := placeFrom (← Argument.integerOr arguments 3 default) text.length - 1
  if start < 0 ∨ text.length < start then Argument.refuse 3 "position out of bounds"
  if number = 0 then
    return [.integer (Int64.ofInt (backToLead text (text.length + 1) start + 1))]
  if followsAt text start then callerFault "initial position is a continuation byte"
  let steps := if number > 0 then number.toNat - 1 else (-number).toNat
  match moveOver text (number > 0) steps start with
  | some place => return [.integer (Int64.ofInt (place + 1))]
  | none => return [.nil]

/-- The iterator takes the text and the place of the last character. -/
def codesNext (strict : Bool) : Builtin := fun _ _ arguments => do
  let text ← Argument.text arguments 1
  let last ← Argument.integer arguments 2
  let place := onToLead text (text.length + 1) (if last > 0 then last else 0)
  if place ≥ text.length then return []
  match decode? strict (text.drop place.toNat) with
  | none => callerFault "invalid UTF-8 code"
  | some (code, size) =>
    if followsAt text (place + size) then callerFault "invalid UTF-8 code"
    return [.integer (Int64.ofInt (place + 1)), .integer (Int64.ofNat code)]

def codes : Builtin := fun _ _ arguments => do
  let text ← Argument.text arguments 1
  if followsAt text 0 then Argument.refuse 1 "invalid UTF-8 code"
  let next := if isStrict arguments 2 then "utf8 codes next" else "utf8 lax codes next"
  return [← newBuiltin next [], .text text, .integer 0]

def functions : Functions :=
  [("char", char), ("codepoint", codepoint), ("codes", codes), ("len", len), ("offset", offset)]

/-- A pattern that matches one character. -/
def charPattern : Value :=
  .text [0x5B, 0x00, 0x2D, 0x7F, 0xC2, 0x2D, 0xFD, 0x5D, 0x5B, 0x80, 0x2D, 0xBF, 0x5D, 0x2A]

end TemplateBuild.Lua.Library.Unicode

import TemplateBuild.JavaScript.Library.Basic
import TemplateBuild.Text.Utf8

/-!
# Escapes of addresses

Characters that are not allowed are written as the bytes of their UTF-8 form, each behind a
percent sign.
-/

set_option autoImplicit false

namespace TemplateBuild.JavaScript.Library.Addresses

open Action hiding pure bind

/-- Letters, digits, and signs without a meaning in addresses. -/
def isPlain (code : Nat) : Bool :=
  (0x30 ≤ code && code ≤ 0x39) || (0x41 ≤ code && code ≤ 0x5A) ||
    (0x61 ≤ code && code ≤ 0x7A) || ("_-.!~*\x27()".toList.map Char.toNat).contains code

/-- Signs that separate the parts of an address. -/
def isSeparator (code : Nat) : Bool :=
  (";/?:@&=+$,#".toList.map Char.toNat).contains code

def percent (byte : UInt8) : List UInt16 :=
  [0x25, UInt16.ofNat (Units.upperHex (byte.toNat / 16)).toNat,
    UInt16.ofNat (Units.upperHex (byte.toNat % 16)).toNat]

def encodeCodes (keep : Nat → Bool) : List Nat → Action (List UInt16)
  | [] => return []
  | code :: rest => do
    let own ←
      if isPlain code || keep code then pure [UInt16.ofNat code]
      else if Units.isSurrogate code then raiseError .uri "malformed URI"
      else pure ((Utf8.encodeChar (Char.ofNat code)).flatMap percent)
    return own ++ (← encodeCodes keep rest)

def encode (keep : Nat → Bool) : Builtin := fun i call => do
  let text ← textArgument i call 0
  return .text (← encodeCodes keep (Units.codes text.toList)).toArray

def escapedByte? : List UInt16 → Option UInt8
  | 0x25 :: high :: low :: _ =>
    let digits := [Char.ofNat high.toNat, Char.ofNat low.toNat]
    if digits.all (Numeral.isDigitIn 16) then some (UInt8.ofNat (Numeral.valueIn 16 digits))
    else none
  | _ => none

/-- How many bytes a character has that begins with one. -/
def lengthOf (lead : UInt8) : Nat :=
  if lead < 0x80 then 1 else if lead < 0xE0 then 2 else if lead < 0xF0 then 3 else 4

def bytesFrom : Nat → List UInt16 → Option Bytes
  | 0, _ => some []
  | count + 1, input =>
    match escapedByte? input with
    | some byte => (bytesFrom count (input.drop 3)).map (byte :: ·)
    | none => none

def decodeUnits (keep : Nat → Bool) : Nat → List UInt16 → Action (List UInt16)
  | 0, _ => return []
  | fuel + 1, input => do
    match input with
    | [] => return []
    | 0x25 :: _ =>
      match escapedByte? input with
      | none => raiseError .uri "malformed URI"
      | some lead =>
        let count := lengthOf lead
        match (bytesFrom count input).map Utf8.decode with
        | some (.ok [character]) =>
          let own := if keep character.toNat then input.take (3 * count)
            else Units.ofCode character.toNat
          return own ++ (← decodeUnits keep fuel (input.drop (3 * count)))
        | _ => raiseError .uri "malformed URI"
    | unit :: rest => return unit :: (← decodeUnits keep fuel rest)

def decode (keep : Nat → Bool) : Builtin := fun i call => do
  let text ← textArgument i call 0
  return .text (← decodeUnits keep (text.size + 1) text.toList).toArray

def functions : Group := ⟨"global",
  [("decodeURI", decode isSeparator), ("decodeURIComponent", decode fun _ => false),
   ("encodeURI", encode isSeparator), ("encodeURIComponent", encode fun _ => false)]⟩

end TemplateBuild.JavaScript.Library.Addresses

import TemplateBuild.Encoding.Decode

/-!
# Writing encoded text

`Encoding.encode` spells text in the output encoding, or answers that some character has no
representation.  Only ISO 2022 keeps a state between characters; every other encoding writes
them one by one.
-/

set_option autoImplicit false

namespace TemplateBuild.Encoding

def asciiBytes? (character : Char) : Option Bytes :=
  if character.toNat < 0x80 then some [UInt8.ofNat character.toNat] else none

def CodePage.encodeChar? (page : CodePage) (character : Char) : Option Bytes :=
  (asciiBytes? character).or
    ((page.upper.pointer? character.toNat).map fun byte => [UInt8.ofNat byte])

def userDefinedBytes? (character : Char) : Option Bytes :=
  let code := character.toNat
  if 0xF780 ≤ code ∧ code ≤ 0xF7FF then some [UInt8.ofNat (code - 0xF700)]
  else asciiBytes? character

def bytePair (lead trail : Nat) : Bytes :=
  [UInt8.ofNat lead, UInt8.ofNat trail]

/-- The Japanese set has the full-width form of the minus sign only. -/
def widenMinus (code : Nat) : Nat :=
  if code = 0x2212 then 0xFF0D else code

def isHalfWidthKatakana (code : Nat) : Bool :=
  katakanaStart ≤ code && code ≤ 0xFF9F

/-- The yen sign and the overline take the places of the backslash and the tilde. -/
def romanBytes? (character : Char) : Option Bytes :=
  if character = '\xA5' then some [0x5C]
  else if character = '\u203E' then some [0x7E]
  else none

def shiftJisBytes? (character : Char) : Option Bytes :=
  let code := character.toNat
  if code ≤ 0x80 then some [UInt8.ofNat code]
  else if isHalfWidthKatakana code then some [UInt8.ofNat (code - katakanaStart + 0xA1)]
  else
    (romanBytes? character).or
      ((japaneseSigns.pointer? (widenMinus code)).map fun pointer =>
        let lead := pointer / 188
        let trail := pointer % 188
        bytePair (lead + if lead < 0x1F then 0x81 else 0xC1)
          (trail + if trail < 0x3F then 0x40 else 0x41))

def eucJpBytes? (character : Char) : Option Bytes :=
  let code := character.toNat
  if isHalfWidthKatakana code then some (bytePair 0x8E (code - katakanaStart + 0xA1))
  else
    ((asciiBytes? character).or (romanBytes? character)).or
      ((japaneseSigns.pointer? (widenMinus code)).map fun pointer =>
        bytePair (pointer / 94 + 0xA1) (pointer % 94 + 0xA1))

def eucKrBytes? (character : Char) : Option Bytes :=
  (asciiBytes? character).or
    ((koreanSigns.pointer? character.toNat).map fun pointer =>
      bytePair (pointer / 190 + 0x81) (pointer % 190 + 0x41))

/-- Four signs of box drawing that the set has twice and that are written by their last place. -/
def isDoubledBox (code : Nat) : Bool :=
  [0x2550, 0x255E, 0x2561, 0x256A].contains code

def big5Bytes? (character : Char) : Option Bytes :=
  let code := character.toNat
  let index := if isDoubledBox code then taiwaneseBoxes else taiwaneseSigns ++ taiwaneseBoxes
  (asciiBytes? character).or
    ((index.pointer? code).map fun pointer =>
      let trail := pointer % 157
      bytePair (pointer / 157 + 0x81) (trail + if trail < 0x3F then 0x40 else 0x62))

/-- The two-byte form in the mainland Chinese set.  One private code point has none, because
its place now spells another character. -/
def gbTwoBytes? (character : Char) : Option Bytes :=
  let code := character.toNat
  ((chineseReassigned ++ chineseSigns ++ chinesePrivate).pointer? code).map fun pointer =>
    let trail := pointer % 190
    bytePair (pointer / 190 + 0x81) (trail + if trail < 0x3F then 0x40 else 0x41)

def gbFourBytes? (character : Char) : Option Bytes :=
  (fourByteIndex.pointer? character.toNat).map fun pointer =>
    bytePair (pointer / 12600 + 0x81) (pointer / 1260 % 10 + 0x30) ++
      bytePair (pointer / 10 % 126 + 0x81) (pointer % 10 + 0x30)

def gbkBytes? (character : Char) : Option Bytes :=
  if character = '\u20AC' then some [0x80]
  else (asciiBytes? character).or (gbTwoBytes? character)

def gb18030Bytes? (character : Char) : Option Bytes :=
  if character = '\uE5E5' then none
  else ((asciiBytes? character).or (gbTwoBytes? character)).or (gbFourBytes? character)

def Iso2022Set.escape : Iso2022Set → Bytes
  | .ascii => [0x1B, 0x28, 0x42]
  | .roman => [0x1B, 0x28, 0x4A]
  | .katakana => [0x1B, 0x28, 0x49]
  | .twoByte => [0x1B, 0x24, 0x42]

/-- The set in which a character is written, and its bytes there.  The Roman set is left only
for a character that it lacks; half-width katakana are widened. -/
def iso2022Form? (current : Iso2022Set) (character : Char) : Option (Iso2022Set × Bytes) :=
  let code := character.toNat
  if code < 0x80 then
    if isShift (UInt8.ofNat code) then none
    else if current = .roman ∧ code ≠ 0x5C ∧ code ≠ 0x7E then some (.roman, [UInt8.ofNat code])
    else some (.ascii, [UInt8.ofNat code])
  else
    match romanBytes? character with
    | some bytes => some (.roman, bytes)
    | none =>
      let wide := if isHalfWidthKatakana code then
          (katakanaWidened.code? (code - katakanaStart)).getD code
        else widenMinus code
      (japaneseSigns.pointer? wide).map fun pointer =>
        (.twoByte, bytePair (pointer / 94 + 0x21) (pointer % 94 + 0x21))

/-- Text in this encoding ends in the ASCII set. -/
def encodeIso2022 (current : Iso2022Set) : List Char → Option Bytes
  | [] => some (if current = .ascii then [] else Iso2022Set.escape .ascii)
  | character :: rest =>
    match iso2022Form? current character with
    | none => none
    | some (next, bytes) =>
      (encodeIso2022 next rest).map fun others =>
        (if next = current then [] else next.escape) ++ bytes ++ others

/-- The bytes of one character, for the encodings that keep no state. -/
def encodeChar? : Encoding → Char → Option Bytes
  | .codePage page, character => page.encodeChar? character
  | .gbk, character => gbkBytes? character
  | .gb18030, character => gb18030Bytes? character
  | .big5, character => big5Bytes? character
  | .eucJp, character => eucJpBytes? character
  | .shiftJis, character => shiftJisBytes? character
  | .eucKr, character => eucKrBytes? character
  | .userDefined, character => userDefinedBytes? character
  | _, character => some (Utf8.encodeChar character)

def encode (encoding : Encoding) (text : List Char) : Option Bytes :=
  match encoding with
  | .iso2022Jp => encodeIso2022 .ascii text
  | _ => (text.mapM encoding.output.encodeChar?).map List.flatten

end TemplateBuild.Encoding

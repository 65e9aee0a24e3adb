import TemplateBuild.Encoding.Basic
import TemplateBuild.Encoding.FourByte
import TemplateBuild.Encoding.Signs

/-!
# Reading encoded text

`Encoding.decode` reads bytes as text, without the mark that may stand at the beginning of a
Unicode file.  Bytes that spell no character make the whole text unreadable; nothing is
replaced or skipped.
-/

set_option autoImplicit false

namespace TemplateBuild.Encoding

def asciiChar? (byte : UInt8) : Option Char :=
  if byte < 0x80 then some (Char.ofNat byte.toNat) else none

/-- The character of one byte on a code page. -/
def CodePage.char? (page : CodePage) (byte : UInt8) : Option Char :=
  (asciiChar? byte).or (page.upper.char? byte.toNat)

/-- The user-defined encoding keeps its upper half in the private use area. -/
def userDefinedChar (byte : UInt8) : Char :=
  if byte < 0x80 then Char.ofNat byte.toNat else Char.ofNat (0xF700 + byte.toNat)

/-- Whether a byte lies in a range, ends included. -/
def within (byte lowest highest : UInt8) : Bool :=
  lowest ≤ byte && byte ≤ highest

/-- Reads bytes one or two at a time: `single` knows the bytes that stand alone, `pair` the
sequences of two. -/
def decodePairs (single : UInt8 → Option Char) (pair : UInt8 → UInt8 → Option Char) :
    Bytes → Option (List Char)
  | [] => some []
  | [byte] => (single byte).map ([·])
  | lead :: trail :: rest =>
    match single lead with
    | some character => (decodePairs single pair (trail :: rest)).map (character :: ·)
    | none =>
      match pair lead trail with
      | some character => (decodePairs single pair rest).map (character :: ·)
      | none => none

/-- The first half-width katakana. -/
def katakanaStart : Nat := 0xFF61

def halfWidthKatakana (byte : UInt8) : Char :=
  Char.ofNat (katakanaStart + (byte.toNat - 0xA1))

def shiftJisSingle (byte : UInt8) : Option Char :=
  if byte ≤ 0x80 then some (Char.ofNat byte.toNat)
  else if within byte 0xA1 0xDF then some (halfWidthKatakana byte)
  else none

/-- Pointers that stand for the private use area instead of the character set. -/
def shiftJisPrivate : Run := ⟨8836, 0xE000, 1880⟩

def shiftJisPair (lead trail : UInt8) : Option Char :=
  if (within lead 0x81 0x9F || within lead 0xE0 0xFC) &&
      (within trail 0x40 0x7E || within trail 0x80 0xFC) then
    let leadOffset := if lead < 0xA0 then 0x81 else 0xC1
    let trailOffset := if trail < 0x7F then 0x40 else 0x41
    Index.char? (shiftJisPrivate :: japaneseSigns)
      ((lead.toNat - leadOffset) * 188 + (trail.toNat - trailOffset))
  else none

def eucJpPair (lead trail : UInt8) : Option Char :=
  if lead = 0x8E && within trail 0xA1 0xDF then some (halfWidthKatakana trail)
  else if within lead 0xA1 0xFE && within trail 0xA1 0xFE then
    Index.char? japaneseSigns ((lead.toNat - 0xA1) * 94 + (trail.toNat - 0xA1))
  else none

def eucKrPair (lead trail : UInt8) : Option Char :=
  if within lead 0x81 0xFE && within trail 0x41 0xFE then
    Index.char? koreanSigns ((lead.toNat - 0x81) * 190 + (trail.toNat - 0x41))
  else none

def big5Pair (lead trail : UInt8) : Option Char :=
  if within lead 0x81 0xFE && (within trail 0x40 0x7E || within trail 0xA1 0xFE) then
    let trailOffset := if trail < 0x7F then 0x40 else 0x62
    Index.char? (taiwaneseSigns ++ taiwaneseBoxes)
      ((lead.toNat - 0x81) * 157 + (trail.toNat - trailOffset))
  else none

def gbSingle (byte : UInt8) : Option Char :=
  if byte = 0x80 then some '\u20AC' else asciiChar? byte

def gbPair (lead trail : UInt8) : Option Char :=
  if within lead 0x81 0xFE && (within trail 0x40 0x7E || within trail 0x80 0xFE) then
    let trailOffset := if trail < 0x7F then 0x40 else 0x41
    Index.char? (chineseSigns ++ chinesePrivate)
      ((lead.toNat - 0x81) * 190 + (trail.toNat - trailOffset))
  else none

def gbFour (first second third fourth : UInt8) : Option Char :=
  if within first 0x81 0xFE && within third 0x81 0xFE && within fourth 0x30 0x39 then
    Index.char? fourByteIndex
      ((((first.toNat - 0x81) * 10 + (second.toNat - 0x30)) * 126 + (third.toNat - 0x81)) * 10 +
        (fourth.toNat - 0x30))
  else none

/-- A digit as the second byte announces a sequence of four. -/
def decodeGb : Bytes → Option (List Char)
  | [] => some []
  | [byte] => (gbSingle byte).map ([·])
  | lead :: trail :: rest =>
    match gbSingle lead with
    | some character => (decodeGb (trail :: rest)).map (character :: ·)
    | none =>
      if within trail 0x30 0x39 then
        match rest with
        | third :: fourth :: others =>
          match gbFour lead trail third fourth with
          | some character => (decodeGb others).map (character :: ·)
          | none => none
        | _ => none
      else
        match gbPair lead trail with
        | some character => (decodeGb rest).map (character :: ·)
        | none => none

/-- The character sets among which an escape sequence of ISO 2022 chooses. -/
inductive Iso2022Set where
  | ascii
  | roman
  | katakana
  | twoByte
deriving DecidableEq, Repr

def Iso2022Set.ofEscape? (first second : UInt8) : Option Iso2022Set :=
  if first = 0x28 && second = 0x42 then some .ascii
  else if first = 0x28 && second = 0x4A then some .roman
  else if first = 0x28 && second = 0x49 then some .katakana
  else if first = 0x24 && (second = 0x40 || second = 0x42) then some .twoByte
  else none

/-- The bytes that shift between sets in other flavours of ISO 2022, and the escape. -/
def isShift (byte : UInt8) : Bool :=
  byte = 0x0E || byte = 0x0F || byte = 0x1B

def Iso2022Set.single (set : Iso2022Set) (byte : UInt8) : Option Char :=
  match set with
  | .ascii => if isShift byte then none else asciiChar? byte
  | .roman =>
    if byte = 0x5C then some '\xA5'
    else if byte = 0x7E then some '\u203E'
    else if isShift byte then none
    else asciiChar? byte
  | .katakana =>
    if within byte 0x21 0x5F then some (Char.ofNat (katakanaStart + (byte.toNat - 0x21))) else none
  | .twoByte => none

def iso2022Pair (lead trail : UInt8) : Option Char :=
  if within lead 0x21 0x7E && within trail 0x21 0x7E then
    Index.char? japaneseSigns ((lead.toNat - 0x21) * 94 + (trail.toNat - 0x21))
  else none

/-- `escaped` tells whether an escape sequence was the last thing read; two in a row are a
fault. -/
def decodeIso2022 (set : Iso2022Set) (escaped : Bool) : Bytes → Option (List Char)
  | [] => some []
  | [byte] =>
    if byte = 0x1B || set = .twoByte then none else (set.single byte).map ([·])
  | byte :: second :: rest =>
    if byte = 0x1B then
      match rest with
      | third :: others =>
        match Iso2022Set.ofEscape? second third with
        | some next => if escaped then none else decodeIso2022 next true others
        | none => none
      | [] => none
    else if set = .twoByte then
      match iso2022Pair byte second with
      | some character => (decodeIso2022 set false rest).map (character :: ·)
      | none => none
    else
      match set.single byte with
      | some character => (decodeIso2022 set false (second :: rest)).map (character :: ·)
      | none => none

/-- Pairs of bytes as UTF-16 units, or none if a byte is left over. -/
def units (bigEndian : Bool) : Bytes → Option (List Nat)
  | [] => some []
  | [_] => none
  | first :: second :: rest =>
    let unit := if bigEndian then first.toNat * 256 + second.toNat
      else second.toNat * 256 + first.toNat
    (units bigEndian rest).map (unit :: ·)

def isHighSurrogate (unit : Nat) : Bool :=
  0xD800 ≤ unit && unit < 0xDC00

def isLowSurrogate (unit : Nat) : Bool :=
  0xDC00 ≤ unit && unit < 0xE000

/-- The character of a surrogate pair. -/
def joinSurrogates (high low : Nat) : Char :=
  Char.ofNat (0x10000 + (high - 0xD800) * 0x400 + (low - 0xDC00))

def decodeUnits : List Nat → Option (List Char)
  | [] => some []
  | unit :: rest =>
    if isHighSurrogate unit then
      match rest with
      | low :: others =>
        if isLowSurrogate low then (decodeUnits others).map (joinSurrogates unit low :: ·) else none
      | [] => none
    else if isLowSurrogate unit then none
    else (decodeUnits rest).map (Char.ofNat unit :: ·)

/-- The mark by which a Unicode file may begin, in the encoding's own bytes. -/
def byteOrderMark : Encoding → Bytes
  | .utf8 => [0xEF, 0xBB, 0xBF]
  | .utf16BigEndian => [0xFE, 0xFF]
  | .utf16LittleEndian => [0xFF, 0xFE]
  | _ => []

def decodeBody : Encoding → Bytes → Option (List Char)
  | .utf8, bytes => (Utf8.decode bytes).toOption
  | .codePage page, bytes => bytes.mapM page.char?
  | .gbk, bytes => decodeGb bytes
  | .gb18030, bytes => decodeGb bytes
  | .big5, bytes => decodePairs asciiChar? big5Pair bytes
  | .eucJp, bytes => decodePairs asciiChar? eucJpPair bytes
  | .iso2022Jp, bytes => decodeIso2022 .ascii false bytes
  | .shiftJis, bytes => decodePairs shiftJisSingle shiftJisPair bytes
  | .eucKr, bytes => decodePairs asciiChar? eucKrPair bytes
  | .replacement, bytes => if bytes.isEmpty then some [] else none
  | .utf16BigEndian, bytes => (units true bytes).bind decodeUnits
  | .utf16LittleEndian, bytes => (units false bytes).bind decodeUnits
  | .userDefined, bytes => some (bytes.map userDefinedChar)

/-- Takes the encoding's own mark off the beginning. -/
def dropMark (encoding : Encoding) (bytes : Bytes) : Bytes :=
  if encoding.byteOrderMark.isPrefixOf bytes then bytes.drop encoding.byteOrderMark.length
  else bytes

def decode (encoding : Encoding) (bytes : Bytes) : Option (List Char) :=
  encoding.decodeBody (encoding.dropMark bytes)

end TemplateBuild.Encoding

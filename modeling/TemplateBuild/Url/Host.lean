import TemplateBuild.Text.LetterCase
import TemplateBuild.Url.Escape
import TemplateBuild.Url.Punycode

/-!
# Hosts

The host of a URL is a name or an address.  A name that ends in a number has to be an address
of four bytes, and brackets hold an address of eight pieces.
-/

set_option autoImplicit false

namespace TemplateBuild

/-- Why a text is no URL. -/
inductive UrlFault where
  | emptyHost
  | invalidName
  | invalidPort
  | invalidFourBytes
  | invalidEightPieces
  | invalidCharacter
  | relativeWithoutBase
  | relativeWithOpaqueBase
deriving DecidableEq, Repr

def UrlFault.message : UrlFault → String
  | .emptyHost => "empty host"
  | .invalidName => "invalid international domain name"
  | .invalidPort => "invalid port number"
  | .invalidFourBytes => "invalid IPv4 address"
  | .invalidEightPieces => "invalid IPv6 address"
  | .invalidCharacter => "invalid domain character"
  | .relativeWithoutBase => "relative URL without a base"
  | .relativeWithOpaqueBase => "relative URL with a cannot-be-a-base base"

inductive Host where
  | name (text : String)
  | fourBytes (address : Nat)
  | eightPieces (pieces : List Nat)
deriving DecidableEq, Repr

namespace Host

/-! ## Addresses of four bytes -/

def splitAt (separator : Char) : List Char → List (List Char)
  | [] => [[]]
  | first :: rest =>
    if first = separator then [] :: splitAt separator rest
    else
      match splitAt separator rest with
      | [] => [[first]]
      | piece :: pieces => (first :: piece) :: pieces

def isDecimal (character : Char) : Bool :=
  '0' ≤ character && character ≤ '9'

/-- The value of digits of a base. -/
def numberIn? (base : Nat) (digits : List Char) : Option Nat :=
  digits.foldlM (fun value digit => do
    let digit ← Url.Escape.digitValue? digit
    if digit < base then some (base * value + digit) else none) 0

/-- A part of an address: decimal, octal behind a zero, or hexadecimal behind `0x`. -/
def partValue? (part : List Char) : Option Nat :=
  match part with
  | [] => none
  | '0' :: 'x' :: digits => numberIn? 16 digits
  | '0' :: 'X' :: digits => numberIn? 16 digits
  | '0' :: digit :: digits => numberIn? 8 (digit :: digits)
  | digits => numberIn? 10 digits

/-- The parts of a name; a dot at the end counts for nothing. -/
def partsOf (name : List Char) : List (List Char) :=
  let parts := splitAt '.' name
  match parts.reverse with
  | [] :: last :: rest => (last :: rest).reverse
  | _ => parts

def endsInNumber (name : List Char) : Bool :=
  match (partsOf name).getLast? with
  | none => false
  | some [] => false
  | some last =>
    last.all isDecimal ||
      match last with
      | '0' :: 'x' :: digits => (numberIn? 16 digits).isSome
      | '0' :: 'X' :: digits => (numberIn? 16 digits).isSome
      | _ => false

def fourBytes? (name : List Char) : Option Nat := do
  let parts ← (partsOf name).mapM partValue?
  match parts.reverse with
  | [] => none
  | last :: front =>
    if parts.length > 4 || front.any (· > 255) then none
    else if last ≥ 1 <<< (8 * (5 - parts.length)) then none
    else
      some (front.reverse.zipIdx.foldl
        (fun total (part, place) => total + part <<< (8 * (3 - place))) last)

def fourBytesText (address : Nat) : String :=
  ".".intercalate ([3, 2, 1, 0].map fun place => toString (address >>> (8 * place) % 256))

/-! ## Addresses of eight pieces -/

/-- The pieces of one side of the gap; the last one may be an address of four bytes. -/
def piecesOf? : List (List Char) → Option (List Nat)
  | [] => some []
  | [last] =>
    if last.contains '.' then
      let parts := splitAt '.' last
      let plain := parts.length = 4 && parts.all fun part =>
        !part.isEmpty && part.all isDecimal && (part.length = 1 || part.head? ≠ some '0')
      if !plain then none
      else
        match parts.mapM (numberIn? 10) with
        | some [a, b, c, d] =>
          if [a, b, c, d].all (· < 256) then some [256 * a + b, 256 * c + d] else none
        | _ => none
    else (pieceOf? last).map fun piece => [piece]
  | first :: rest => do
    let piece ← pieceOf? first
    let pieces ← piecesOf? rest
    return piece :: pieces
where
  pieceOf? (digits : List Char) : Option Nat :=
    if digits.isEmpty || digits.length > 4 then none else numberIn? 16 digits

/-- The texts before and after the first double colon. -/
def splitGap : List Char → List Char × Option (List Char)
  | [] => ([], none)
  | ':' :: ':' :: rest => ([], some rest)
  | first :: rest =>
    let (before, after) := splitGap rest
    (first :: before, after)

def sideOf? (text : List Char) : Option (List Nat) :=
  if text.isEmpty then some [] else piecesOf? (splitAt ':' text)

def eightPieces? (text : List Char) : Option (List Nat) :=
  match splitGap text with
  | (whole, none) => do
    let pieces ← sideOf? whole
    if pieces.length = 8 then some pieces else none
  | (before, some after) => do
    let left ← if before.contains '.' then none else sideOf? before
    let right ← sideOf? after
    if left.length + right.length < 8 then
      some (left ++ List.replicate (8 - left.length - right.length) 0 ++ right)
    else none

def hexText (number : Nat) : String :=
  String.ofList (Nat.toDigits 16 number)

/-- The first longest run of zeros, from where and how long. -/
def longestGap (pieces : List Nat) : Nat × Nat :=
  (List.range pieces.length).foldl (fun best start =>
    let length := ((pieces.drop start).takeWhile (· = 0)).length
    if length > best.2 then (start, length) else best) (0, 0)

def eightPiecesText (pieces : List Nat) : String :=
  let (start, length) := longestGap pieces
  let shown := fun (part : List Nat) => ":".intercalate (part.map hexText)
  if length < 2 then shown pieces
  else shown (pieces.take start) ++ "::" ++ shown (pieces.drop (start + length))

/-! ## Names -/

/-- A small letter for every capital one. -/
def lower (character : Char) : Char :=
  Char.ofNat (Text.lowerCode character.toNat)

def labelText (label : List Char) : List Char :=
  if label.all fun character => character.toNat < 0x80 then label
  else "xn--".toList ++ Url.Punycode.encode label

def forbidden (character : Char) : Bool :=
  character.toNat ≤ 0x20 || character.toNat = 0x7F ||
    Url.Escape.isAmong "#%/:<>?@[\\]^|" character

/-- A name as it is looked up: in small letters, and in ASCII. -/
def nameText? (text : List Char) : Option (List Char) :=
  let labels := splitAt '.' (text.map lower)
  let name := ['.'].intercalate (labels.map labelText)
  if name.any forbidden then none else some name

def parse (text : List Char) : Except UrlFault Host :=
  match text with
  | '[' :: rest =>
    if rest.getLast? = some ']' then
      match eightPieces? rest.dropLast with
      | some pieces => .ok (.eightPieces pieces)
      | none => .error .invalidEightPieces
    else .error .invalidEightPieces
  | text =>
    match Utf8.decode (Url.Escape.decode text) with
    | .error _ => .error .invalidName
    | .ok decoded =>
      match nameText? decoded with
      | none => .error .invalidName
      | some [] => .error .emptyHost
      | some written =>
        if endsInNumber written then
          match fourBytes? written with
          | some address => .ok (.fourBytes address)
          | none => .error .invalidFourBytes
        else .ok (.name (String.ofList written))

def forbiddenOpaque (character : Char) : Bool :=
  Url.Escape.isAmong "\x00\t\n\r #/:<>?@[\\]^|" character

/-- A host of a scheme that is not well known. -/
def parseOpaque (text : List Char) : Except UrlFault Host :=
  match text with
  | '[' :: _ => parse text
  | text =>
    if text.any forbiddenOpaque then .error .invalidCharacter
    else .ok (.name (String.ofList (Url.Escape.encode Url.Escape.isControl text)))

def text : Host → String
  | .name text => text
  | .fourBytes address => fourBytesText address
  | .eightPieces pieces => "[" ++ eightPiecesText pieces ++ "]"

end Host

end TemplateBuild

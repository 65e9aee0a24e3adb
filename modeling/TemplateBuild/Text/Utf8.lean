/-!
# Bytes and UTF-8

File contents, file names and script strings are lists of bytes; text is a list of
characters.  `Utf8.encode` writes text, `Utf8.decode` reads it back or names the first
fault, and `Utf8.decodeLossy` replaces every maximal broken piece by U+FFFD.  Both readers
feed the bytes one at a time to the same rules, `Utf8.start` and `Utf8.extend`.
-/

set_option autoImplicit false

namespace TemplateBuild

/-- The contents of a file, or any other text whose encoding is not known yet. -/
abbrev Bytes := List UInt8

namespace Utf8

/-- The bytes of one character. -/
def encodeChar (character : Char) : Bytes :=
  String.utf8EncodeChar character

def encode (text : List Char) : Bytes :=
  text.flatMap encodeChar

/-- A started sequence: how many bytes of it were read, how many are missing, the bits
gathered so far, and the range that the next byte has to lie in. -/
structure Pending where
  seen : Nat
  missing : Nat
  bits : Nat
  lowest : UInt8
  highest : UInt8

/-- What one byte leads to when no sequence is open. -/
inductive Start where
  | character (character : Char)
  | opened (pending : Pending)
  | invalid

/-- The first byte of a sequence decides its length.  The ranges of the second byte
exclude overlong forms, surrogates and values above U+10FFFF. -/
def start (byte : UInt8) : Start :=
  let value := byte.toNat
  if value < 0x80 then .character (Char.ofNat value)
  else if value < 0xC2 then .invalid
  else if value < 0xE0 then .opened ⟨1, 1, value - 0xC0, 0x80, 0xBF⟩
  else if value < 0xF0 then
    .opened ⟨1, 2, value - 0xE0, if value = 0xE0 then 0xA0 else 0x80,
      if value = 0xED then 0x9F else 0xBF⟩
  else if value < 0xF5 then
    .opened ⟨1, 3, value - 0xF0, if value = 0xF0 then 0x90 else 0x80,
      if value = 0xF4 then 0x8F else 0xBF⟩
  else .invalid

/-- What one byte leads to inside an open sequence. -/
inductive Continued where
  | character (character : Char)
  | opened (pending : Pending)
  | broken

def extend (pending : Pending) (byte : UInt8) : Continued :=
  if pending.lowest ≤ byte ∧ byte ≤ pending.highest then
    let bits := pending.bits * 64 + (byte.toNat - 0x80)
    if pending.missing ≤ 1 then .character (Char.ofNat bits)
    else .opened ⟨pending.seen + 1, pending.missing - 1, bits, 0x80, 0xBF⟩
  else .broken

/-- Where a text stops being UTF-8.  `length` is the number of bytes that cannot be part
of any character, or `none` where the text ends inside a sequence. -/
structure Fault where
  offset : Nat
  length : Option Nat
deriving DecidableEq, Repr

def Fault.message (fault : Fault) : String :=
  match fault.length with
  | some length =>
    "invalid utf-8 sequence of " ++ toString length ++ " bytes from index " ++
      toString fault.offset
  | none => "incomplete utf-8 byte sequence from index " ++ toString fault.offset

/-- Reads the bytes that follow `offset` complete bytes. -/
def decodeFrom (offset : Nat) : Option Pending → Bytes → Except Fault (List Char)
  | none, [] => .ok []
  | some _, [] => .error ⟨offset, none⟩
  | none, byte :: rest =>
    match start byte with
    | .character character => (decodeFrom (offset + 1) none rest).map (character :: ·)
    | .opened pending => decodeFrom offset (some pending) rest
    | .invalid => .error ⟨offset, some 1⟩
  | some pending, byte :: rest =>
    match extend pending byte with
    | .character character =>
      (decodeFrom (offset + pending.seen + 1) none rest).map (character :: ·)
    | .opened next => decodeFrom offset (some next) rest
    | .broken => .error ⟨offset, some pending.seen⟩

/-- The text that the bytes spell, or the first fault. -/
def decode (bytes : Bytes) : Except Fault (List Char) :=
  decodeFrom 0 none bytes

def replacement : Char := '\uFFFD'

/-- A character, or bytes that are a maximal broken piece. -/
inductive Piece where
  | character (character : Char)
  | broken (bytes : Bytes)
deriving DecidableEq, Repr

/-- Reads bytes after an open sequence, whose bytes are `seen`. -/
def piecesFrom (seen : Bytes) : Option Pending → Bytes → List Piece
  | none, [] => []
  | some _, [] => [.broken seen]
  | none, byte :: rest =>
    match start byte with
    | .character character => .character character :: piecesFrom [] none rest
    | .opened pending => piecesFrom [byte] (some pending) rest
    | .invalid => .broken [byte] :: piecesFrom [] none rest
  | some pending, byte :: rest =>
    match extend pending byte with
    | .character character => .character character :: piecesFrom [] none rest
    | .opened next => piecesFrom (seen ++ [byte]) (some next) rest
    | .broken =>
      match start byte with
      | .character character => .broken seen :: .character character :: piecesFrom [] none rest
      | .opened next => .broken seen :: piecesFrom [byte] (some next) rest
      | .invalid => .broken seen :: .broken [byte] :: piecesFrom [] none rest

/-- The characters and the broken pieces of the bytes, in order. -/
def pieces (bytes : Bytes) : List Piece :=
  piecesFrom [] none bytes

/-- The text with U+FFFD for every maximal broken piece. -/
def decodeLossy (bytes : Bytes) : List Char :=
  (pieces bytes).map fun
    | .character character => character
    | .broken _ => replacement

end Utf8

/-- The UTF-8 bytes of a string. -/
def Bytes.ofString (text : String) : Bytes :=
  Utf8.encode text.toList

/-- The string that the bytes spell, if they are UTF-8. -/
def Bytes.toString? (bytes : Bytes) : Option String :=
  match Utf8.decode bytes with
  | .ok text => some (String.ofList text)
  | .error _ => none

/-- The string that the bytes spell, with U+FFFD for what is not UTF-8. -/
def Bytes.toStringLossy (bytes : Bytes) : String :=
  String.ofList (Utf8.decodeLossy bytes)

/-- Lexicographic order of bytes, the order of file names and of helper names. -/
def Bytes.le : Bytes → Bytes → Bool
  | [], _ => true
  | _ :: _, [] => false
  | first :: rest, other :: others =>
    first < other || (first == other && Bytes.le rest others)

end TemplateBuild

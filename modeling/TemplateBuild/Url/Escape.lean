import TemplateBuild.Text.Units
import TemplateBuild.Text.Utf8

/-!
# Percent escapes

A character that a part of a URL cannot hold is written as the bytes of its UTF-8 form, each
behind a percent sign.  What has to be escaped depends on the part.
-/

set_option autoImplicit false

namespace TemplateBuild.Url.Escape

/-- Controls, and everything outside of ASCII. -/
def isControl (character : Char) : Bool :=
  character.toNat < 0x20 || 0x7F ≤ character.toNat

def isAmong (text : String) (character : Char) : Bool :=
  text.toList.contains character

def inFragment (character : Char) : Bool :=
  isControl character || isAmong " \"<>\x60" character

def inPath (character : Char) : Bool :=
  inFragment character || isAmong "#?\x7b\x7d" character

def inUserinfo (character : Char) : Bool :=
  inPath character || isAmong "/:;=@[\\]^|" character

def inQuery (character : Char) : Bool :=
  isControl character || isAmong " \"#<>" character

/-- In the queries of the well-known schemes a quote is escaped too. -/
def inSpecialQuery (character : Char) : Bool :=
  inQuery character || character == '\x27'

def escapedByte (byte : UInt8) : List Char :=
  ['%', Units.upperHex (byte.toNat / 16), Units.upperHex (byte.toNat % 16)]

def encode (escapes : Char → Bool) (text : List Char) : List Char :=
  text.flatMap fun character =>
    if escapes character then (Utf8.encodeChar character).flatMap escapedByte else [character]

def digitValue? (character : Char) : Option Nat :=
  if '0' ≤ character ∧ character ≤ '9' then some (character.toNat - 0x30)
  else if 'a' ≤ character ∧ character ≤ 'f' then some (character.toNat - 0x57)
  else if 'A' ≤ character ∧ character ≤ 'F' then some (character.toNat - 0x37)
  else none

/-- The bytes that a text with escapes stands for; a percent sign without two digits is
itself. -/
def decode : List Char → Bytes
  | [] => []
  | '%' :: high :: low :: rest =>
    match digitValue? high, digitValue? low with
    | some high, some low => UInt8.ofNat (16 * high + low) :: decode rest
    | _, _ => 0x25 :: decode (high :: low :: rest)
  | first :: rest => Utf8.encodeChar first ++ decode rest

end TemplateBuild.Url.Escape

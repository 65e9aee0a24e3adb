import TemplateBuild.Text.Utf8

/-!
# Reading JSON

Readers take the bytes that are left and give back what they read and the bytes after it.
They go from left to right and stop at the first fault, which is of one of three kinds: the
text ended, the text is no JSON, or a value is not of the kind that was wanted.
`skipValue` passes over any value; `readText` reads a string.
-/

set_option autoImplicit false

namespace TemplateBuild.Json

inductive Fault where
  | truncated
  | malformed
  | mismatched
deriving DecidableEq, Repr

def isBlank (byte : UInt8) : Bool :=
  byte = 0x20 || byte = 0x0A || byte = 0x0D || byte = 0x09

def skipBlank (input : Bytes) : Bytes :=
  input.dropWhile isBlank

def isDigit (byte : UInt8) : Bool :=
  0x30 ≤ byte && byte ≤ 0x39

def quoteMark : UInt8 := 0x22
def backslash : UInt8 := 0x5C
def comma : UInt8 := 0x2C
def colon : UInt8 := 0x3A
def openList : UInt8 := 0x5B
def closeList : UInt8 := 0x5D
def openObject : UInt8 := 0x7B
def closeObject : UInt8 := 0x7D

def hexValue? (byte : UInt8) : Option Nat :=
  let code := byte.toNat
  if 0x30 ≤ code ∧ code ≤ 0x39 then some (code - 0x30)
  else if 0x41 ≤ code ∧ code ≤ 0x46 then some (code - 0x41 + 10)
  else if 0x61 ≤ code ∧ code ≤ 0x66 then some (code - 0x61 + 10)
  else none

def hexNumber? (digits : Bytes) : Option Nat :=
  digits.foldl (fun total digit => do
    let total ← total
    let value ← hexValue? digit
    return total * 16 + value) (some 0)

/-- What a single letter after a backslash stands for. -/
def simpleEscape? (byte : UInt8) : Option UInt8 :=
  if byte = quoteMark ∨ byte = backslash ∨ byte = 0x2F then some byte
  else if byte = 0x62 then some 0x08
  else if byte = 0x66 then some 0x0C
  else if byte = 0x6E then some 0x0A
  else if byte = 0x72 then some 0x0D
  else if byte = 0x74 then some 0x09
  else none

/-- Where in an escape a string is: behind the backslash, among the four digits, or between
the two halves of a surrogate pair. -/
inductive Escape where
  | outside
  | started
  | digits (seen : Bytes)
  | half (high : Nat)
  | halfStarted (high : Nat)
  | halfDigits (high : Nat) (seen : Bytes)

def isHighHalf (unit : Nat) : Bool :=
  0xD800 ≤ unit && unit < 0xDC00

def isLowHalf (unit : Nat) : Bool :=
  0xDC00 ≤ unit && unit < 0xE000

def joinHalves (high low : Nat) : Char :=
  Char.ofNat (0x10000 + (high - 0xD800) * 0x400 + (low - 0xDC00))

/-- What one byte of a string does: it ends the string, or it adds bytes and leads on. -/
inductive Advance where
  | ended
  | added (bytes : Bytes) (next : Escape)
  | refused

/-- Four digits are judged together.  Unless `strict`, lone halves of a pair are let pass. -/
def advance (strict : Bool) (state : Escape) (byte : UInt8) : Advance :=
  match state with
  | .outside =>
    if byte = quoteMark then .ended
    else if byte = backslash then .added [] .started
    else if byte < 0x20 then .refused
    else .added [byte] .outside
  | .started =>
    if byte = 0x75 then .added [] (.digits [])
    else
      match simpleEscape? byte with
      | some escaped => .added [escaped] .outside
      | none => .refused
  | .digits seen =>
    if seen.length < 3 then .added [] (.digits (seen ++ [byte]))
    else
      match hexNumber? (seen ++ [byte]) with
      | none => .refused
      | some unit =>
        if strict && isLowHalf unit then .refused
        else if strict && isHighHalf unit then .added [] (.half unit)
        else .added (Utf8.encodeChar (Char.ofNat unit)) .outside
  | .half high => if byte = backslash then .added [] (.halfStarted high) else .refused
  | .halfStarted high => if byte = 0x75 then .added [] (.halfDigits high []) else .refused
  | .halfDigits high seen =>
    if seen.length < 3 then .added [] (.halfDigits high (seen ++ [byte]))
    else
      match hexNumber? (seen ++ [byte]) with
      | none => .refused
      | some low =>
        if isLowHalf low then .added (Utf8.encodeChar (joinHalves high low)) .outside
        else .refused

/-- Reads the rest of a string up to its closing quote. -/
def readStringFrom (strict : Bool) : Escape → Bytes → Except Fault (Bytes × Bytes)
  | _, [] => .error .truncated
  | state, byte :: rest =>
    match advance strict state byte with
    | .ended => .ok ([], rest)
    | .refused => .error .malformed
    | .added bytes next =>
      (readStringFrom strict next rest).map fun (more, left) => (bytes ++ more, left)

/-- The text of a string whose opening quote has been read. -/
def readText (input : Bytes) : Except Fault (String × Bytes) := do
  let (bytes, rest) ← readStringFrom true .outside input
  match bytes.toString? with
  | some text => .ok (text, rest)
  | none => .error .malformed

/-- Passes over the given bytes. -/
def skipWord : Bytes → Bytes → Except Fault Bytes
  | [], input => .ok input
  | _ :: _, [] => .error .truncated
  | wanted :: others, byte :: rest =>
    if byte = wanted then skipWord others rest else .error .malformed

/-- One digit at least. -/
def skipDigits (ended : Fault) : Bytes → Except Fault Bytes
  | [] => .error ended
  | byte :: rest => if isDigit byte then .ok (rest.dropWhile isDigit) else .error .malformed

def skipExponent (ended : Fault) : Bytes → Except Fault Bytes
  | 0x65 :: rest => skipSigned rest
  | 0x45 :: rest => skipSigned rest
  | input => .ok input
where
  skipSigned : Bytes → Except Fault Bytes
    | 0x2B :: rest => skipDigits ended rest
    | 0x2D :: rest => skipDigits ended rest
    | input => skipDigits ended input

def skipFraction (ended : Fault) : Bytes → Except Fault Bytes
  | 0x2E :: rest => skipDigits ended rest
  | input => .ok input

/-- A number whose sign has been read.  `ended` is the fault where the text stops inside it. -/
def skipNumber (ended : Fault) (input : Bytes) : Except Fault Bytes := do
  let afterInteger ←
    match input with
    | 0x30 :: next :: rest => if isDigit next then .error .malformed else .ok (next :: rest)
    | _ => skipDigits ended input
  let afterFraction ← skipFraction ended afterInteger
  skipExponent ended afterFraction

mutual

/-- Passes over one value of any kind. -/
def skipValue : Nat → Bytes → Except Fault Bytes
  | 0, _ => .error .truncated
  | fuel + 1, input =>
    match skipBlank input with
    | [] => .error .truncated
    | byte :: rest =>
      if byte = quoteMark then (readStringFrom false .outside rest).map (·.2)
      else if byte = 0x6E then skipWord [0x75, 0x6C, 0x6C] rest
      else if byte = 0x74 then skipWord [0x72, 0x75, 0x65] rest
      else if byte = 0x66 then skipWord [0x61, 0x6C, 0x73, 0x65] rest
      else if byte = 0x2D then skipNumber .malformed rest
      else if isDigit byte then skipNumber .malformed (byte :: rest)
      else if byte = openList then
        match skipBlank rest with
        | next :: after => if next = closeList then .ok after else skipItems fuel (next :: after)
        | [] => .error .truncated
      else if byte = openObject then
        match skipBlank rest with
        | next :: after =>
          if next = closeObject then .ok after else skipMembers fuel (next :: after)
        | [] => .error .truncated
      else .error .malformed

/-- Passes over the items of a list and its closing bracket. -/
def skipItems : Nat → Bytes → Except Fault Bytes
  | 0, _ => .error .truncated
  | fuel + 1, input => do
    match skipBlank (← skipValue fuel input) with
    | [] => .error .truncated
    | byte :: rest =>
      if byte = closeList then .ok rest
      else if byte = comma then skipItems fuel rest
      else .error .malformed

/-- Passes over the members of an object and its closing brace. -/
def skipMembers : Nat → Bytes → Except Fault Bytes
  | 0, _ => .error .truncated
  | fuel + 1, input =>
    match skipBlank input with
    | [] => .error .truncated
    | byte :: rest =>
      if byte = quoteMark then do
        let (_, afterName) ← readStringFrom false .outside rest
        match skipBlank afterName with
        | [] => .error .truncated
        | mark :: afterColon =>
          if mark = colon then
            match skipBlank (← skipValue fuel afterColon) with
            | [] => .error .truncated
            | next :: others =>
              if next = closeObject then .ok others
              else if next = comma then skipMembers fuel others
              else .error .malformed
          else .error .malformed
      else .error .malformed

end

/-- A value is read to its end before it is refused; numbers beyond all range are no numbers. -/
def mismatch (byte : UInt8) (rest : Bytes) : Fault :=
  let judged :=
    if byte = quoteMark then (readText rest).map (·.2)
    else if byte = 0x6E then skipWord [0x75, 0x6C, 0x6C] rest
    else if byte = 0x74 then skipWord [0x72, 0x75, 0x65] rest
    else if byte = 0x66 then skipWord [0x61, 0x6C, 0x73, 0x65] rest
    else if byte = 0x2D then skipNumber .truncated rest
    else if isDigit byte then skipNumber .truncated (byte :: rest)
    else if byte = openList ∨ byte = openObject then .ok rest
    else .error .malformed
  match judged with
  | .ok _ => .mismatched
  | .error fault => fault

/-- A string, or null. -/
def readOptionalText (input : Bytes) : Except Fault (Option String × Bytes) :=
  match skipBlank input with
  | [] => .error .truncated
  | byte :: rest =>
    if byte = quoteMark then (readText rest).map fun (text, left) => (some text, left)
    else if byte = 0x6E then (skipWord [0x75, 0x6C, 0x6C] rest).map fun left => (none, left)
    else .error (mismatch byte rest)

/-- Runs a reader over a whole text. -/
def readWhole {α : Type} (read : Bytes → Except Fault (α × Bytes)) (input : Bytes) : Except Fault α := do
  let (value, rest) ← read input
  if (skipBlank rest).isEmpty then .ok value else .error .malformed

end TemplateBuild.Json

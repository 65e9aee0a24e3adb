import TemplateBuild.Lua.Numeral

/-!
# Lua tokens

`Token.scan` cuts a script into tokens with the lines they stand on.  White space and comments
lie between tokens and are passed over.
-/

set_option autoImplicit false

namespace TemplateBuild.Lua

/-- Words are keywords and symbols. -/
inductive Token where
  | name (text : Bytes)
  | word (text : String)
  | integer (value : Int64)
  | float (value : Float)
  | text (value : Bytes)
  | ended

/-- Why a script cannot be read. -/
structure SyntaxFault where
  line : Nat
  detail : String
deriving DecidableEq, Repr

namespace Token

/-- A token, and the line on which it ends. -/
abbrev Placed := Token × Nat

def keywords : List String :=
  ["and", "break", "do", "else", "elseif", "end", "false", "for", "function", "goto", "if",
   "in", "local", "nil", "not", "or", "repeat", "return", "then", "true", "until", "while"]

/-- Longer symbols come before those they begin with. -/
def symbols : List String :=
  ["...", "<<", ">>", "//", "==", "~=", "<=", ">=", "::", "..", "+", "-", "*", "/", "%", "^",
   "#", "&", "~", "|", "<", ">", "=", "(", ")", "\x7b", "\x7d", "[", "]", ";", ":", ",", "."]

def isLetter (byte : UInt8) : Bool :=
  (0x41 ≤ byte && byte ≤ 0x5A) || (0x61 ≤ byte && byte ≤ 0x7A) || byte = 0x5F

def isWordByte (byte : UInt8) : Bool :=
  isLetter byte || Numeral.isDigit byte

def isNewline (byte : UInt8) : Bool :=
  byte = 0x0A || byte = 0x0D

/-- Passes over one line end; a carriage return and a line feed together are one. -/
def skipNewline : Bytes → Bytes
  | first :: second :: rest =>
    if isNewline second ∧ first ≠ second then rest else second :: rest
  | input => input.drop 1

/-- The count of equals signs of a long bracket, if one opens here, and what follows it. -/
def longBracket? (input : Bytes) : Option (Nat × Bytes) :=
  match input with
  | 0x5B :: rest =>
    let (level, behind) := rest.span (· = 0x3D)
    match behind with
    | 0x5B :: body => some (level.length, body)
    | _ => none
  | _ => none

def closesLong (level : Nat) (input : Bytes) : Bool :=
  ((0x5D :: List.replicate level 0x3D ++ [0x5D] : Bytes)).isPrefixOf input

/-- The text of a long bracket up to its closing, with every line end as a line feed. -/
def longText (level : Nat) : Nat → Bytes → Nat → Option (Bytes × Bytes × Nat)
  | 0, _, _ => none
  | fuel + 1, input, line =>
    match input with
    | [] => none
    | byte :: rest =>
      if byte = 0x5D ∧ closesLong level input then some ([], input.drop (level + 2), line)
      else if isNewline byte then
        (longText level fuel (skipNewline input) (line + 1)).map fun (more, left) =>
          (0x0A :: more, left)
      else (longText level fuel rest line).map fun (more, left) => (byte :: more, left)

/-- A line end directly behind the opening does not count. -/
def longBody (level : Nat) (input : Bytes) (line : Nat) : Option (Bytes × Bytes × Nat) :=
  match input with
  | byte :: _ =>
    if isNewline byte then longText level (input.length + 1) (skipNewline input) (line + 1)
    else longText level (input.length + 1) input line
  | [] => none

/-- The bytes of a code point, of up to 31 bits. -/
def wideUtf8 (code : Nat) : Bytes :=
  let tail := fun shift => UInt8.ofNat (0x80 + (code >>> shift) % 64)
  if code < 0x80 then [UInt8.ofNat code]
  else if code < 0x800 then [UInt8.ofNat (0xC0 + code >>> 6), tail 0]
  else if code < 0x10000 then [UInt8.ofNat (0xE0 + code >>> 12), tail 6, tail 0]
  else if code < 0x200000 then
    [UInt8.ofNat (0xF0 + code >>> 18), tail 12, tail 6, tail 0]
  else if code < 0x4000000 then
    [UInt8.ofNat (0xF8 + code >>> 24), tail 18, tail 12, tail 6, tail 0]
  else [UInt8.ofNat (0xFC + code >>> 30), tail 24, tail 18, tail 12, tail 6, tail 0]

def simpleEscape? (byte : UInt8) : Option UInt8 :=
  if byte = 0x61 then some 0x07
  else if byte = 0x62 then some 0x08
  else if byte = 0x66 then some 0x0C
  else if byte = 0x6E then some 0x0A
  else if byte = 0x72 then some 0x0D
  else if byte = 0x74 then some 0x09
  else if byte = 0x76 then some 0x0B
  else if byte = 0x5C ∨ byte = 0x22 ∨ byte = 0x27 then some byte
  else none

/-- A decimal escape has up to three digits. -/
def decimalEscape (input : Bytes) : Option (UInt8 × Bytes) :=
  let digits := (input.take 3).takeWhile Numeral.isDigit
  let value := Numeral.valueOf 10 digits
  if value < 256 then some (UInt8.ofNat value, input.drop digits.length) else none

/-- A code point in braces behind the mark. -/
def codeEscape (input : Bytes) : Option (Bytes × Bytes) :=
  match input with
  | 0x7B :: rest =>
    let (digits, behind) := rest.span Numeral.isHexDigit
    match behind with
    | 0x7D :: left =>
      let value := Numeral.valueOf 16 digits
      if digits.isEmpty || value ≥ 1 <<< 31 then none else some (wideUtf8 value, left)
    | _ => none
  | _ => none

/-- Passes over blanks and counts the line ends among them. -/
def skipSpace : Nat → Bytes → Nat → Bytes × Nat
  | 0, input, line => (input, line)
  | fuel + 1, input, line =>
    match input with
    | byte :: rest =>
      if isNewline byte then skipSpace fuel (skipNewline input) (line + 1)
      else if Numeral.isSpace byte then skipSpace fuel rest line
      else (input, line)
    | [] => (input, line)

/-- The text of a quoted string up to its closing quote. -/
def quotedText (quote : UInt8) : Nat → Bytes → Nat → Option (Bytes × Bytes × Nat)
  | 0, _, _ => none
  | fuel + 1, input, line =>
    let add := fun (bytes left : Bytes) (line : Nat) =>
      (quotedText quote fuel left line).map fun (more, left) => (bytes ++ more, left)
    match input with
    | [] => none
    | byte :: rest =>
      if byte = quote then some ([], rest, line)
      else if isNewline byte then none
      else if byte ≠ 0x5C then add [byte] rest line
      else
        match rest with
        | [] => none
        | escape :: left =>
          match simpleEscape? escape with
          | some value => add [value] left line
          | none =>
            if isNewline escape then add [0x0A] (skipNewline rest) (line + 1)
            else if escape = 0x78 then
              match left with
              | high :: low :: left =>
                if Numeral.isHexDigit high && Numeral.isHexDigit low then
                  add [UInt8.ofNat (Numeral.valueOf 16 [high, low])] left line
                else none
              | _ => none
            else if escape = 0x7A then
              let (left, line) := skipSpace (left.length + 1) left line
              add [] left line
            else if escape = 0x75 then
              match codeEscape left with
              | some (bytes, left) => add bytes left line
              | none => none
            else if Numeral.isDigit escape then
              match decimalEscape rest with
              | some (value, left) => add [value] left line
              | none => none
            else none

/-- How far a numeral reaches: signs belong to it directly behind an exponent mark. -/
def numeralBytes (hexadecimal : Bool) (previous : UInt8) : Bytes → Bytes
  | [] => []
  | byte :: rest =>
    let marks : List UInt8 := if hexadecimal then [0x70, 0x50] else [0x65, 0x45]
    let signed := (byte = 0x2B || byte = 0x2D) && marks.contains previous
    if signed || isWordByte byte || byte = 0x2E then
      byte :: numeralBytes hexadecimal byte rest
    else []

/-- What stands at the beginning of the input. -/
inductive Scanned where
  | token (token : Token) (rest : Bytes) (line : Nat)
  | skipped (rest : Bytes) (line : Nat)
  | fault (detail : String)

def scanComment (rest : Bytes) (line : Nat) : Scanned :=
  match longBracket? rest with
  | some (level, body) =>
    match longBody level body line with
    | some (_, left, line) => .skipped left line
    | none => .fault "unfinished long comment"
  | none => .skipped (rest.dropWhile fun byte => !isNewline byte) line

def scanNumeral (input : Bytes) (line : Nat) : Scanned :=
  let bytes := numeralBytes (Numeral.isHexMark input) 0 input
  match Numeral.unsigned? bytes with
  | some (.integer value) => .token (.integer value) (input.drop bytes.length) line
  | some (.float value) => .token (.float value) (input.drop bytes.length) line
  | none => .fault "malformed number"

def scanWord (input : Bytes) (line : Nat) : Scanned :=
  let bytes := input.takeWhile isWordByte
  let spelled := Bytes.toStringLossy bytes
  let token := if keywords.contains spelled then .word spelled else Token.name bytes
  .token token (input.drop bytes.length) line

def scanSymbol (input : Bytes) (line : Nat) : Scanned :=
  match symbols.find? fun symbol => (Bytes.ofString symbol).isPrefixOf input with
  | some symbol => .token (.word symbol) (input.drop symbol.length) line
  | none => .fault "unexpected symbol"

def scanOne (input : Bytes) (line : Nat) : Scanned :=
  match input with
  | [] => .token .ended [] line
  | byte :: rest =>
    if isNewline byte then .skipped (skipNewline input) (line + 1)
    else if Numeral.isSpace byte then .skipped rest line
    else if [0x2D, 0x2D].isPrefixOf input then scanComment (input.drop 2) line
    else if byte = 0x22 ∨ byte = 0x27 then
      match quotedText byte (rest.length + 1) rest line with
      | some (content, left, line) => .token (.text content) left line
      | none => .fault "unfinished string"
    else if byte = 0x5B ∧ (longBracket? input).isSome then
      match longBracket? input with
      | some (level, body) =>
        match longBody level body line with
        | some (content, left, line) => .token (.text content) left line
        | none => .fault "unfinished long string"
      | none => .fault "invalid long string delimiter"
    else if Numeral.isDigit byte ∨ (byte = 0x2E ∧ (rest.head?.any Numeral.isDigit)) then
      scanNumeral input line
    else if isLetter byte then scanWord input line
    else scanSymbol input line

def scanFrom : Nat → Bytes → Nat → Except SyntaxFault (List Placed)
  | 0, _, line => .ok [(.ended, line)]
  | fuel + 1, input, line =>
    match scanOne input line with
    | .token .ended _ line => .ok [(.ended, line)]
    | .token token rest line => (scanFrom fuel rest line).map ((token, line) :: ·)
    | .skipped rest line => scanFrom fuel rest line
    | .fault detail => .error ⟨line, detail⟩

/-- The tokens of a script, the end among them. -/
def scan (source : Bytes) : Except SyntaxFault (List Placed) :=
  scanFrom (source.length + 1) source 1

end Token

end TemplateBuild.Lua

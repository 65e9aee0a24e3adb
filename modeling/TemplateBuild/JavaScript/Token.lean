import TemplateBuild.JavaScript.Numeral
import TemplateBuild.JavaScript.Syntax

/-!
# JavaScript tokens

`Scan.next` reads the token at the start of a text.  A slash begins a regular expression only
where an operand is expected, and a closing brace goes on with a template only inside one, so
these are read on demand by `Scan.regex` and `Scan.templatePart`.
-/

set_option autoImplicit false

namespace TemplateBuild.JavaScript

structure SyntaxFault where
  detail : String
deriving DecidableEq, Repr

/-- Words are names and keywords; signs are everything that is made of symbols. -/
inductive Token where
  | word (name : String) (escaped : Bool)
  | number (value : Float) (legacy : Bool)
  | text (value : Units) (legacy : Bool)
  /-- Text of a template, up to its end or to an inserted expression. -/
  | template (value : Units) (ends : Bool)
  | sign (symbol : String)
  | ended

namespace Scan

abbrev Scanned (α : Type) := Except SyntaxFault α

def refuse {α : Type} (detail : String) : Scanned α :=
  .error ⟨detail⟩

def isLineEnd (character : Char) : Bool :=
  character == '\n' || character == '\r' || character == '\u2028' || character == '\u2029'

/-- Passes over a comment in marks; tells whether it spans lines. -/
def blockComment : List Char → Bool → Scanned (Bool × List Char)
  | [], _ => refuse "unterminated multiline comment"
  | '*' :: '/' :: rest, lines => .ok (lines, rest)
  | character :: rest, lines => blockComment rest (lines || isLineEnd character)

/-- Passes over white space and comments; tells whether a line ended among them. -/
def skipBlank : Nat → List Char → Bool → Scanned (Bool × List Char)
  | 0, input, lines => .ok (lines, input)
  | fuel + 1, input, lines => do
    match input with
    | '/' :: '/' :: rest => skipBlank fuel (rest.dropWhile fun character => !isLineEnd character) lines
    | '/' :: '*' :: rest =>
      let (spans, rest) ← blockComment rest false
      skipBlank fuel rest (lines || spans)
    | character :: rest =>
      if isLineEnd character then skipBlank fuel rest true
      else if Numeral.isSpace character then skipBlank fuel rest lines
      else .ok (lines, input)
    | [] => .ok (lines, [])

/-! ## Words -/

def isWordStart (character : Char) : Bool :=
  character.isAlpha || character == '_' || character == '$' ||
    (0xAA ≤ character.toNat && !Numeral.isSpace character && !isLineEnd character &&
      !(0x2010 ≤ character.toNat && character.toNat ≤ 0x205E))

def isWordPart (character : Char) : Bool :=
  isWordStart character || Numeral.isDigit character || character == '\u200C' ||
    character == '\u200D'

/-- The number that so many hexadecimal digits spell. -/
def hexDigits? (count : Nat) (input : List Char) : Option (Nat × List Char) :=
  let digits := input.take count
  if digits.length = count ∧ digits.all (Numeral.isDigitIn 16) then
    some (Numeral.valueIn 16 digits, input.drop count)
  else none

/-- What follows the `u` of an escape: four digits, or any number in braces. -/
def unicodeEscape? (input : List Char) : Option (Nat × List Char) :=
  match input with
  | '\x7b' :: rest =>
    let digits := rest.takeWhile (Numeral.isDigitIn 16)
    let code := Numeral.valueIn 16 digits
    match rest.dropWhile (Numeral.isDigitIn 16) with
    | '\x7d' :: rest => if digits.isEmpty ∨ 0x10FFFF < code then none else some (code, rest)
    | _ => none
  | _ => hexDigits? 4 input

def wordFrom : Nat → List Char → List Char → Bool → Scanned (Token × List Char)
  | 0, _, _, _ => refuse "identifier too long"
  | fuel + 1, seen, input, escaped =>
    match input with
    | '\\' :: 'u' :: rest =>
      match unicodeEscape? rest with
      | some (code, rest) =>
        let character := Char.ofNat code
        if (if seen.isEmpty then isWordStart character else isWordPart character) then
          wordFrom fuel (character :: seen) rest true
        else refuse "invalid identifier escape"
      | none => refuse "invalid identifier escape"
    | character :: rest =>
      if isWordPart character then wordFrom fuel (character :: seen) rest escaped
      else .ok (.word (String.ofList seen.reverse) escaped, input)
    | [] => .ok (.word (String.ofList seen.reverse) escaped, [])

/-! ## Numbers -/

/-- Digits of a base, between which single underscores may stand. -/
def separated (base : Nat) : List Char → Bool → Scanned (List Char × List Char)
  | '_' :: rest, afterDigit =>
    match rest with
    | next :: _ =>
      if afterDigit && Numeral.isDigitIn base next then separated base rest false
      else refuse "misplaced separator in a number"
    | [] => refuse "misplaced separator in a number"
  | character :: rest, _ =>
    if Numeral.isDigitIn base character then do
      let (digits, rest) ← separated base rest true
      return (character :: digits, rest)
    else return ([], character :: rest)
  | [], _ => return ([], [])

/-- No word may follow a number immediately. -/
def finishNumber (value : Float) (legacy : Bool) (rest : List Char) : Scanned (Token × List Char) :=
  match rest with
  | character :: _ =>
    if isWordStart character || Numeral.isDigit character || character == '\\' then
      refuse "unexpected character after a number"
    else .ok (.number value legacy, rest)
  | [] => .ok (.number value legacy, [])

def numberIn (base : Nat) (input : List Char) : Scanned (Token × List Char) := do
  let (digits, rest) ← separated base input false
  if digits.isEmpty then refuse "missing digits"
  finishNumber (Numeral.ofWhole (Numeral.valueIn base digits)) false rest

def decimalNumber (input : List Char) : Scanned (Token × List Char) := do
  let (whole, rest) ← separated 10 input false
  let (fraction, rest) ← match rest with
    | '.' :: rest => separated 10 rest false
    | rest => pure ([], rest)
  match rest with
  | mark :: following =>
    if mark = 'e' ∨ mark = 'E' then
      match Numeral.exponentOf? following with
      | some (exponent, rest) =>
        finishNumber (Numeral.ofDecimal whole fraction exponent) false rest
      | none => refuse "missing exponent"
    else finishNumber (Numeral.ofDecimal whole fraction 0) false rest
  | [] => finishNumber (Numeral.ofDecimal whole fraction 0) false []

def number (input : List Char) : Scanned (Token × List Char) :=
  match input with
  | '0' :: 'x' :: rest => numberIn 16 rest
  | '0' :: 'X' :: rest => numberIn 16 rest
  | '0' :: 'o' :: rest => numberIn 8 rest
  | '0' :: 'O' :: rest => numberIn 8 rest
  | '0' :: 'b' :: rest => numberIn 2 rest
  | '0' :: 'B' :: rest => numberIn 2 rest
  | '0' :: next :: rest =>
    if Numeral.isDigit next then
      let digits := (next :: rest).takeWhile Numeral.isDigit
      let behind := (next :: rest).dropWhile Numeral.isDigit
      if digits.all (Numeral.isDigitIn 8) then
        finishNumber (Numeral.ofWhole (Numeral.valueIn 8 digits)) true behind
      else finishNumber (Numeral.ofWhole (Numeral.valueIn 10 digits)) true behind
    else decimalNumber input
  | _ => decimalNumber input

/-! ## Texts -/

def singleEscape? (character : Char) : Option UInt16 :=
  match character with
  | 'n' => some 0x0A
  | 't' => some 0x09
  | 'b' => some 0x08
  | 'v' => some 0x0B
  | 'f' => some 0x0C
  | 'r' => some 0x0D
  | _ => none

/-- What an escape stands for, whether it is an octal one, and what follows it. -/
def escape (input : List Char) : Scanned (List UInt16 × Bool × List Char) :=
  match input with
  | [] => refuse "unterminated string"
  | 'x' :: rest =>
    match hexDigits? 2 rest with
    | some (code, rest) => .ok ([UInt16.ofNat code], false, rest)
    | none => refuse "invalid escape"
  | 'u' :: rest =>
    match unicodeEscape? rest with
    | some (code, rest) => .ok (Units.ofCode code, false, rest)
    | none => refuse "invalid escape"
  | '\r' :: '\n' :: rest => .ok ([], false, rest)
  | character :: rest =>
    if isLineEnd character then .ok ([], false, rest)
    else if Numeral.isDigitIn 8 character then
      let limit := if character ≤ '3' then 3 else 2
      let digits := ((character :: rest).take limit).takeWhile (Numeral.isDigitIn 8)
      let next := (character :: rest).drop digits.length
      let plainZero := digits = ['0'] ∧ ¬ next.head?.any Numeral.isDigit
      .ok ([UInt16.ofNat (Numeral.valueIn 8 digits)], !decide plainZero, next)
    else
      match singleEscape? character with
      | some unit => .ok ([unit], false, rest)
      | none => .ok (Units.ofCode character.toNat, false, rest)

/-- The text up to a closing quote. -/
def quoted (quote : Char) : Nat → List Char → List UInt16 → Bool → Scanned (Token × List Char)
  | 0, _, _, _ => refuse "unterminated string"
  | fuel + 1, input, seen, legacy => do
    match input with
    | [] => refuse "unterminated string"
    | '\\' :: rest =>
      let (units, octal, rest) ← escape rest
      quoted quote fuel rest (units.reverse ++ seen) (legacy || octal)
    | character :: rest =>
      if character = quote then return (.text seen.reverse.toArray legacy, rest)
      else if character = '\n' ∨ character = '\r' then refuse "unterminated string"
      else quoted quote fuel rest ((Units.ofCode character.toNat).reverse ++ seen) legacy

/-- The text of a template up to its end or to an inserted expression.  Line ends are all the
same. -/
def templateFrom : Nat → List Char → List UInt16 → Scanned (Token × List Char)
  | 0, _, _ => refuse "unterminated template"
  | fuel + 1, input, seen => do
    match input with
    | [] => refuse "unterminated template"
    | '\x60' :: rest => return (.template seen.reverse.toArray true, rest)
    | '$' :: '\x7b' :: rest => return (.template seen.reverse.toArray false, rest)
    | '\\' :: rest =>
      let (units, octal, rest) ← escape rest
      if octal then refuse "octal escape in a template"
      templateFrom fuel rest (units.reverse ++ seen)
    | '\r' :: '\n' :: rest => templateFrom fuel rest (0x0A :: seen)
    | '\r' :: rest => templateFrom fuel rest (0x0A :: seen)
    | character :: rest =>
      templateFrom fuel rest ((Units.ofCode character.toNat).reverse ++ seen)

def templatePart (input : List Char) : Scanned (Token × List Char) :=
  templateFrom (input.length + 1) input []

/-! ## Regular expressions -/

/-- The source of a regular expression behind its slash. -/
def regexBody : List Char → Bool → List Char → Scanned (List Char × List Char)
  | [], _, _ => refuse "unterminated regular expression"
  | '\\' :: character :: rest, inClass, seen =>
    if isLineEnd character then refuse "unterminated regular expression"
    else regexBody rest inClass (character :: '\\' :: seen)
  | character :: rest, inClass, seen =>
    if isLineEnd character then refuse "unterminated regular expression"
    else if character = '/' && !inClass then .ok (seen.reverse, rest)
    else
      let inClass := if character = '[' then true else if character = ']' then false else inClass
      regexBody rest inClass (character :: seen)

/-- Source, flags, and what follows. -/
def regex (input : List Char) : Scanned (Units × Units × List Char) := do
  let (body, rest) ← regexBody input false []
  let flags := rest.takeWhile isWordPart
  return (Units.ofChars body, Units.ofChars flags, rest.drop flags.length)

/-! ## Signs -/

/-- Longer signs come before those they begin with. -/
def signs : List String :=
  [">>>=", "...", "===", "!==", "**=", "<<=", ">>=", ">>>", "&&=", "||=", "??=",
   "=>", "==", "!=", "<=", ">=", "&&", "||", "??", "?.", "++", "--", "+=", "-=", "*=", "/=",
   "%=", "&=", "|=", "^=", "<<", ">>", "**",
   "\x7b", "\x7d", "(", ")", "[", "]", ".", ";", ",", "<", ">", "+", "-", "*", "/", "%", "&",
   "|", "^", "!", "~", "?", ":", "=", "@", "#"]

/-- A question mark before a fraction is no optional access. -/
def sign? (input : List Char) : Option (String × List Char) :=
  match signs.find? fun sign => sign.toList.isPrefixOf input with
  | some "?." =>
    if (input.drop 2).head?.any Numeral.isDigit then some ("?", input.drop 1)
    else some ("?.", input.drop 2)
  | some sign => some (sign, input.drop sign.length)
  | none => none

/-- The token at the start of a text without white space there. -/
def next (input : List Char) : Scanned (Token × List Char) :=
  match input with
  | [] => .ok (.ended, [])
  | '"' :: rest => quoted '"' (rest.length + 1) rest [] false
  | '\x27' :: rest => quoted '\x27' (rest.length + 1) rest [] false
  | '\x60' :: rest => templatePart rest
  | first :: rest =>
    if Numeral.isDigit first || (first == '.' && rest.head?.any Numeral.isDigit) then number input
    else if isWordStart first || first == '\\' then wordFrom (input.length + 1) [] input false
    else
      match sign? input with
      | some (sign, rest) => .ok (.sign sign, rest)
      | none => refuse "unexpected character"

end Scan

end TemplateBuild.JavaScript

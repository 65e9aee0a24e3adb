import TemplateBuild.JavaScript.Library.Lists
import TemplateBuild.JavaScript.Library.Objects

/-!
# Values as JSON

Writing asks values for what stands for them, passes over functions and what is undefined, and
escapes lone surrogates.  Reading gives plain objects and arrays.
-/

set_option autoImplicit false

namespace TemplateBuild.JavaScript.Library.Json

open Action hiding pure bind

/-! ## Writing -/

def lowerHex (digit : Nat) : UInt16 :=
  UInt16.ofNat (if digit < 10 then 0x30 + digit else 0x57 + digit)

def unicodeEscape (code : Nat) : List UInt16 :=
  [0x5C, 0x75, lowerHex (code / 0x1000 % 16), lowerHex (code / 0x100 % 16),
    lowerHex (code / 0x10 % 16), lowerHex (code % 16)]

def escapedCode (code : Nat) : List UInt16 :=
  if code = 0x22 then [0x5C, 0x22]
  else if code = 0x5C then [0x5C, 0x5C]
  else if code = 0x08 then [0x5C, 0x62]
  else if code = 0x09 then [0x5C, 0x74]
  else if code = 0x0A then [0x5C, 0x6E]
  else if code = 0x0C then [0x5C, 0x66]
  else if code = 0x0D then [0x5C, 0x72]
  else if code < 0x20 ∨ Units.isSurrogate code then unicodeEscape code
  else Units.ofCode code

def quoted (text : Units) : Units :=
  ((0x22 :: (Units.codes text.toList).flatMap escapedCode) ++ [0x22]).toArray

structure Style where
  replacer : Value
  /-- The keys that are written, if they are given. -/
  keys : Option (List Units)
  gap : Units

def comma : Units := Units.ofString ","

def surrounded (style : Style) (indent : Units) (opening closing : String)
    (pieces : List Units) : Units :=
  if pieces.isEmpty then Units.ofString opening ++ Units.ofString closing
  else if style.gap.isEmpty then
    Units.ofString opening ++ Lists.joined comma pieces ++ Units.ofString closing
  else
    let inner := #[0x0A] ++ indent ++ style.gap
    Units.ofString opening ++ inner ++ Lists.joined (comma ++ inner) pieces ++ #[0x0A] ++ indent ++
      Units.ofString closing

/-- What stands for a value in its holder. -/
def represented (i : Interpreter) (style : Style) (holder : Value) (key : Units)
    (value : Value) : Action Value := do
  let value ← match value with
    | .object _ =>
      let method ← Access.getNamed i value "toJSON"
      if ← Access.isCallable method then i.call method value [.text key] else pure value
    | value => pure value
  let value ← match style.replacer with
    | .undefined => pure value
    | function => i.call function holder [.text key, value]
  match value with
  | .object address =>
    match (← objectAt address).kind with
    | .boxed plain => return plain
    | _ => return value
  | value => return value

mutual

/-- The text of a value, or nothing where it has none. -/
def write (i : Interpreter) (style : Style) :
    Nat → Value → Units → Value → Units → List Nat → Action (Option Units)
  | 0, _, _, _, _, _ => exhausted
  | depth + 1, holder, key, value, indent, around => do
    match ← represented i style holder key value with
    | .undefined => return none
    | .null => return some (Units.ofString "null")
    | .boolean flag => return some (Units.ofString (if flag then "true" else "false"))
    | .number number =>
      if Numeral.isNaN number || number.abs == Numeral.infinity then
        return some (Units.ofString "null")
      return some (Units.ofString (Numeral.text number))
    | .text text => return some (quoted text)
    | .object address =>
      if ← Access.isCallable (.object address) then return none
      if around.contains address then typeFault "cyclic object value"
      let inner := indent ++ style.gap
      if Property.isArrayKind (← objectAt address).kind then
        let items ← Lists.itemsOf i (.object address)
        let pieces ← writeItems i style depth (.object address) 0 items inner (address :: around)
        return some (surrounded style indent "[" "]" pieces)
      else
        let keys ← match style.keys with
          | some keys => pure keys
          | none => Objects.listed address
        let pieces ← writeMembers i style depth (.object address) keys inner (address :: around)
        return some (surrounded style indent "\x7b" "\x7d" pieces)
termination_by structural depth => depth

def writeItems (i : Interpreter) (style : Style) :
    Nat → Value → Nat → List Value → Units → List Nat → Action (List Units)
  | 0, _, _, _, _, _ => exhausted
  | depth + 1, holder, index, items, indent, around => do
    match items with
    | [] => return []
    | item :: rest =>
      let piece ← write i style depth holder (Units.ofNat index) item indent around
      let others ← writeItems i style depth holder (index + 1) rest indent around
      return piece.getD (Units.ofString "null") :: others
termination_by structural depth => depth

def writeMembers (i : Interpreter) (style : Style) :
    Nat → Value → List Units → Units → List Nat → Action (List Units)
  | 0, _, _, _, _ => exhausted
  | depth + 1, holder, keys, indent, around => do
    match keys with
    | [] => return []
    | key :: rest =>
      let piece ← write i style depth holder key (← Access.get i holder key) indent around
      let others ← writeMembers i style depth holder rest indent around
      match piece with
      | none => return others
      | some piece =>
        let colon := Units.ofString (if style.gap.isEmpty then ":" else ": ")
        return (quoted key ++ colon ++ piece) :: others
termination_by structural depth => depth

end

/-- Values are nested at most so deep, and have at most so many members. -/
def deepest : Nat := 1000000

/-- A number asks for blanks, a text for itself. -/
def gapOf (value : Value) : Action Units := do
  let plain ← match value with
    | .object address =>
      match (← objectAt address).kind with
      | .boxed plain => pure plain
      | _ => pure .undefined
    | value => pure value
  match plain with
  | .number number =>
    let count := min 10 (Numeral.towardZero number).toNat
    return (List.replicate count (0x20 : UInt16)).toArray
  | .text text => return text.extract 0 10
  | _ => return #[]

def styleOf (i : Interpreter) (replacer space : Value) : Action Style := do
  let gap ← gapOf space
  match replacer with
  | .object address =>
    if ← Access.isCallable replacer then return ⟨replacer, none, gap⟩
    if Property.isArrayKind (← objectAt address).kind then
      let keys ← (← Lists.itemsOf i replacer).mapM (Operator.toText i)
      return ⟨.undefined, some keys.eraseDups, gap⟩
    return ⟨.undefined, none, gap⟩
  | _ => return ⟨.undefined, none, gap⟩

def stringify : Builtin := fun i call => do
  let style ← styleOf i (call.argument 1) (call.argument 2)
  let holder ← newPlain
  storeProperty holder #[] (.plain (call.argument 0))
  match ← write i style deepest (.object holder) #[] (call.argument 0) #[] [] with
  | some text => return .text text
  | none => return .undefined

/-! ## Reading -/

def malformed {α : Type} : Action α :=
  raiseError .ofSyntax "invalid JSON"

def skipSpace (input : List UInt16) : List UInt16 :=
  input.dropWhile fun unit => unit == 0x20 || unit == 0x09 || unit == 0x0A || unit == 0x0D

def hexValue? (digits : List UInt16) : Option Nat :=
  let characters := digits.map fun unit => Char.ofNat unit.toNat
  if characters.length = 4 ∧ characters.all (Numeral.isDigitIn 16) then
    some (Numeral.valueIn 16 characters)
  else none

def readText : Nat → List UInt16 → List UInt16 → Action (Units × List UInt16)
  | 0, _, _ => malformed
  | fuel + 1, input, seen => do
    match input with
    | [] => malformed
    | 0x22 :: rest => return (seen.reverse.toArray, rest)
    | 0x5C :: 0x75 :: rest =>
      match hexValue? (rest.take 4) with
      | some code => readText fuel (rest.drop 4) (UInt16.ofNat code :: seen)
      | none => malformed
    | 0x5C :: mark :: rest =>
      let unit? : Option UInt16 := match Char.ofNat mark.toNat with
        | '"' => some 0x22
        | '\\' => some 0x5C
        | '/' => some 0x2F
        | 'b' => some 0x08
        | 'f' => some 0x0C
        | 'n' => some 0x0A
        | 'r' => some 0x0D
        | 't' => some 0x09
        | _ => none
      match unit? with
      | some unit => readText fuel rest (unit :: seen)
      | none => malformed
    | unit :: rest => if unit < 0x20 then malformed else readText fuel rest (unit :: seen)

def isNumberUnit (unit : UInt16) : Bool :=
  (0x30 ≤ unit && unit ≤ 0x39) || [0x2B, 0x2D, 0x2E, 0x45, 0x65].contains unit

/-- A number has digits before a point and behind it, and no zero before other digits. -/
def numberOf? (text : List Char) : Option Float :=
  let (negative, digits) := match text with
    | '-' :: rest => (true, rest)
    | rest => (false, rest)
  let (whole, behind) := digits.span Numeral.isDigit
  let wellFormed := !whole.isEmpty && (whole.length = 1 || whole.head? != some '0') &&
    (match behind with
     | '.' :: next :: _ => Numeral.isDigit next
     | ['.'] => false
     | _ => true)
  if !wellFormed then none
  else
    match Numeral.decimal? digits with
    | some (value, []) => some (if negative then -value else value)
    | _ => none

mutual

def readValue : Nat → List UInt16 → Action (Value × List UInt16)
  | 0, _ => exhausted
  | depth + 1, input => do
    let input := skipSpace input
    let wordAt := fun (word : String) => (Units.ofString word).toList.isPrefixOf input
    match input with
    | 0x22 :: rest =>
      let (text, rest) ← readText (rest.length + 1) rest []
      return (.text text, rest)
    | 0x5B :: rest =>
      match skipSpace rest with
      | 0x5D :: rest => return (← newArray [], rest)
      | _ =>
        let (items, rest) ← readItems depth rest
        return (← newArray items, rest)
    | 0x7B :: rest =>
      let address ← newPlain
      match skipSpace rest with
      | 0x7D :: rest => return (.object address, rest)
      | _ => return (.object address, ← readMembers depth address rest)
    | _ =>
      if wordAt "null" then return (.null, input.drop 4)
      if wordAt "true" then return (.boolean true, input.drop 4)
      if wordAt "false" then return (.boolean false, input.drop 5)
      let digits := input.takeWhile isNumberUnit
      match numberOf? (digits.map fun unit => Char.ofNat unit.toNat) with
      | some number => return (.number number, input.drop digits.length)
      | none => malformed
termination_by structural depth => depth

def readItems : Nat → List UInt16 → Action (List Value × List UInt16)
  | 0, _ => exhausted
  | depth + 1, input => do
    let (value, rest) ← readValue depth input
    match skipSpace rest with
    | 0x5D :: rest => return ([value], rest)
    | 0x2C :: rest =>
      let (values, rest) ← readItems depth rest
      return (value :: values, rest)
    | _ => malformed
termination_by structural depth => depth

def readMembers : Nat → Nat → List UInt16 → Action (List UInt16)
  | 0, _, _ => exhausted
  | depth + 1, address, input => do
    match skipSpace input with
    | 0x22 :: rest =>
      let (key, rest) ← readText (rest.length + 1) rest []
      match skipSpace rest with
      | 0x3A :: rest =>
        let (value, rest) ← readValue depth rest
        storeProperty address key (.plain value)
        match skipSpace rest with
        | 0x7D :: rest => return rest
        | 0x2C :: rest => readMembers depth address rest
        | _ => malformed
      | _ => malformed
    | _ => malformed
termination_by structural depth => depth

end

/-- Hands every value to a function that may replace it, the inner ones first. -/
def revive (i : Interpreter) (function : Value) : Nat → Value → Units → Action Value
  | 0, _, _ => exhausted
  | depth + 1, holder, key => do
    let value ← Access.get i holder key
    match value with
    | .object address =>
      (← Objects.listed address).forM fun inner => do
        match ← revive i function depth value inner with
        | .undefined =>
          let _ ← Access.delete address inner
        | replaced => Access.putOwn address inner replaced
    | _ => pure ()
    i.call function holder [.text key, value]

def parseText : Builtin := fun i call => do
  let text ← textArgument i call 0
  let (value, rest) ← readValue (2 * text.size + 16) text.toList
  if !(skipSpace rest).isEmpty then malformed
  if ← Access.isCallable (call.argument 1) then
    let holder ← newPlain
    storeProperty holder #[] (.plain value)
    revive i (call.argument 1) deepest (.object holder) #[]
  else return value

def statics : Group := ⟨"JSON", [("parse", parseText), ("stringify", stringify)]⟩

end TemplateBuild.JavaScript.Library.Json

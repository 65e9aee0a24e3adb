import TemplateBuild.JavaScript.Library.Regexes

/-!
# Functions on texts

Places are counted in units of sixteen bits.
-/

set_option autoImplicit false

namespace TemplateBuild.JavaScript.Library.Texts

open Action hiding pure bind

def textThis (i : Interpreter) (call : Invocation) : Action Units := do
  if call.this.isNothing then Access.nothingFault
  Operator.toText i call.this

def construct : Builtin := fun i call => do
  let text ← match call.arguments with
    | [] => pure #[]
    | value :: _ => Operator.toText i value
  match call.newTarget with
  | none => return .text text
  | some _ => return .object (← Operator.toObject (.text text))

/-- The text that a text or the object of a text is. -/
def plainThis : Builtin := fun _ call => do
  match call.this with
  | .text text => return .text text
  | .object address =>
    match (← objectAt address).kind with
    | .boxed (.text text) => return .text text
    | _ => typeFault "not a string"
  | _ => typeFault "not a string"

def fromUnits (i : Interpreter) : List Value → Action (List UInt16)
  | [] => return []
  | value :: rest => do
    let unit := Numeral.word (← Operator.toNumber i value)
    return UInt16.ofNat (unit.toNat % 0x10000) :: (← fromUnits i rest)

def fromCharCode : Builtin := fun i call => do
  return .text (← fromUnits i call.arguments).toArray

def fromCodes (i : Interpreter) : List Value → Action (List UInt16)
  | [] => return []
  | value :: rest => do
    let number ← Operator.toNumber i value
    let code := Numeral.towardZero number
    if code < 0 ∨ 0x10FFFF < code ∨ Float.ofInt code != number then
      raiseError .range "invalid code point"
    return Units.ofCode code.toNat ++ (← fromCodes i rest)

def fromCodePoint : Builtin := fun i call => do
  return .text (← fromCodes i call.arguments).toArray

/-! ## Single characters -/

def placeOf (i : Interpreter) (call : Invocation) : Action Int :=
  Operator.toWhole i (call.argument 0)

def unitAt? (text : Units) (place : Int) : Option UInt16 :=
  if place < 0 then none else text[place.toNat]?

def charAt : Builtin := fun i call => do
  let text ← textThis i call
  match unitAt? text (← placeOf i call) with
  | some unit => return .text #[unit]
  | none => return .text #[]

def charCodeAt : Builtin := fun i call => do
  let text ← textThis i call
  match unitAt? text (← placeOf i call) with
  | some unit => return .ofNat unit.toNat
  | none => return .number Numeral.notANumber

def codePointAt : Builtin := fun i call => do
  let text ← textThis i call
  let place ← placeOf i call
  match unitAt? text place with
  | some _ =>
    match Units.codes (text.extract place.toNat (place.toNat + 2)).toList with
    | code :: _ => return .ofNat code
    | [] => return .undefined
  | none => return .undefined

def at_ : Builtin := fun i call => do
  let text ← textThis i call
  let place ← placeOf i call
  match unitAt? text (if place < 0 then place + text.size else place) with
  | some unit => return .text #[unit]
  | none => return .undefined

/-! ## Pieces -/

def slice : Builtin := fun i call => do
  let text ← textThis i call
  let start ← placeArgument i call 0 text.size 0
  let last ← placeArgument i call 1 text.size text.size
  return .text (text.extract start last)

def clamped (i : Interpreter) (call : Invocation) (number length default : Nat) : Action Nat := do
  match call.argument number with
  | .undefined => return default
  | value => return min (← Operator.toWhole i value).toNat length

def substring : Builtin := fun i call => do
  let text ← textThis i call
  let first ← clamped i call 0 text.size 0
  let second ← clamped i call 1 text.size text.size
  return .text (text.extract (min first second) (max first second))

def substr : Builtin := fun i call => do
  let text ← textThis i call
  let start ← placeArgument i call 0 text.size 0
  let count ← match call.argument 1 with
    | .undefined => pure text.size
    | value => pure (← Operator.toWhole i value).toNat
  return .text (text.extract start (start + min count text.size))

def concat : Builtin := fun i call => do
  let text ← textThis i call
  let others ← call.arguments.mapM (Operator.toText i)
  return .text (others.foldl (· ++ ·) text)

def repeat_ : Builtin := fun i call => do
  let text ← textThis i call
  let number ← numberArgument i call 0
  let count := Numeral.towardZero number
  if count < 0 ∨ number == Numeral.infinity then raiseError .range "invalid repeat count"
  if text.size * count.toNat > 1 <<< 29 then raiseError .range "string too long"
  return .text (Nat.repeat (· ++ text) count.toNat #[])

def padding (i : Interpreter) (call : Invocation) (length : Nat) : Action Units := do
  let wanted := (← Operator.toWhole i (call.argument 0)).toNat
  let filler ← match call.argument 1 with
    | .undefined => pure (Units.ofString " ")
    | value => Operator.toText i value
  if wanted ≤ length ∨ filler.isEmpty then return #[]
  if wanted > 1 <<< 29 then raiseError .range "string too long"
  let missing := wanted - length
  return (Nat.repeat (· ++ filler) (missing / filler.size + 1) #[]).extract 0 missing

def padStart : Builtin := fun i call => do
  let text ← textThis i call
  return .text ((← padding i call text.size) ++ text)

def padEnd : Builtin := fun i call => do
  let text ← textThis i call
  return .text (text ++ (← padding i call text.size))

/-! ## Searching -/

def indexValue : Option Nat → Value
  | some place => .ofNat place
  | none => .ofInt (-1)

def indexOf : Builtin := fun i call => do
  let text ← textThis i call
  let piece ← textArgument i call 0
  return indexValue (text.find? piece (← clamped i call 1 text.size 0))

def lastIndexOf : Builtin := fun i call => do
  let text ← textThis i call
  let piece ← textArgument i call 0
  let number ← numberArgument i call 1
  let last := if Numeral.isNaN number then text.size
    else min (Numeral.towardZero number).toNat text.size
  return indexValue (text.findLast? piece last)

/-- A piece to look for may not be a regular expression. -/
def pieceArgument (i : Interpreter) (call : Invocation) : Action Units := do
  match ← Regexes.regular? (call.argument 0) with
  | some _ => typeFault "first argument must not be a regular expression"
  | none => textArgument i call 0

def includes : Builtin := fun i call => do
  let text ← textThis i call
  let piece ← pieceArgument i call
  return .boolean (text.find? piece (← clamped i call 1 text.size 0)).isSome

def startsWith : Builtin := fun i call => do
  let text ← textThis i call
  let piece ← pieceArgument i call
  return .boolean (text.hasAt piece (← clamped i call 1 text.size 0))

def endsWith : Builtin := fun i call => do
  let text ← textThis i call
  let piece ← pieceArgument i call
  let last ← clamped i call 1 text.size text.size
  return .boolean (piece.size ≤ last && text.hasAt piece (last - piece.size))

/-! ## Case and white space -/

def mapCodes (change : Nat → List Nat) (text : Units) : Units :=
  ((Units.codes text.toList).flatMap fun code => (change code).flatMap Units.ofCode).toArray

def toUpper : Builtin := fun i call => do
  return .text (mapCodes Text.upperCodes (← textThis i call))

def toLower : Builtin := fun i call => do
  return .text (mapCodes (fun code => [Text.lowerCode code]) (← textThis i call))

def isSpaceUnit (unit : UInt16) : Bool :=
  Regex.Kind.space.contains unit.toNat

def trimStartUnits (text : Units) : Units :=
  (text.toList.dropWhile isSpaceUnit).toArray

def trimEndUnits (text : Units) : Units :=
  (text.toList.reverse.dropWhile isSpaceUnit).reverse.toArray

def trim : Builtin := fun i call => do
  return .text (trimEndUnits (trimStartUnits (← textThis i call)))

def trimStart : Builtin := fun i call => do
  return .text (trimStartUnits (← textThis i call))

def trimEnd : Builtin := fun i call => do
  return .text (trimEndUnits (← textThis i call))

def localeCompare : Builtin := fun i call => do
  let left ← textThis i call
  let right ← textArgument i call 0
  if left == right then return .ofInt 0
  return .ofInt (if Units.before left.toList right.toList then -1 else 1)

/-! ## Replacing -/

/-- A match, for replacements: its place, its text, its captures and its groups. -/
structure Found where
  place : Nat
  piece : Units
  captures : List Value
  groups : Value

def captureText (value : Value) : Units :=
  match value with
  | .text text => text
  | _ => #[]

def digitOf? (unit : UInt16) : Option Nat :=
  if 0x30 ≤ unit ∧ unit ≤ 0x39 then some (unit.toNat - 0x30) else none

/-- A replacement with its references to the match, to what is around it, and to captures. -/
def expand (i : Interpreter) (text : Units) (found : Found) :
    Nat → List UInt16 → Action (List UInt16)
  | 0, _ => return []
  | fuel + 1, input => do
    match input with
    | [] => return []
    | 0x24 :: 0x24 :: rest => return 0x24 :: (← expand i text found fuel rest)
    | 0x24 :: 0x26 :: rest => return found.piece.toList ++ (← expand i text found fuel rest)
    | 0x24 :: 0x60 :: rest =>
      return (text.extract 0 found.place).toList ++ (← expand i text found fuel rest)
    | 0x24 :: 0x27 :: rest =>
      return (text.extract (found.place + found.piece.size) text.size).toList ++
        (← expand i text found fuel rest)
    | 0x24 :: 0x3C :: rest =>
      let name := rest.takeWhile (· ≠ 0x3E)
      if found.groups.isUndefined || name.length = rest.length then
        return 0x24 :: 0x3C :: (← expand i text found fuel rest)
      let value ← match ← Access.get i found.groups name.toArray with
        | .undefined => pure #[]
        | value => Operator.toText i value
      return value.toList ++ (← expand i text found fuel (rest.drop (name.length + 1)))
    | 0x24 :: first :: rest =>
      let one := (digitOf? first).getD 0
      let two := (rest.head?.bind digitOf?).map fun digit => one * 10 + digit
      match two with
      | some number =>
        if (digitOf? first).isSome ∧ 1 ≤ number ∧ number ≤ found.captures.length then
          return (captureText ((found.captures[number - 1]?).getD .undefined)).toList ++
            (← expand i text found fuel (rest.drop 1))
        else single i text found fuel first one rest
      | none => single i text found fuel first one rest
    | unit :: rest => return unit :: (← expand i text found fuel rest)
where
  single (i : Interpreter) (text : Units) (found : Found) (fuel : Nat) (first : UInt16)
      (number : Nat) (rest : List UInt16) : Action (List UInt16) := do
    if 1 ≤ number ∧ number ≤ found.captures.length then
      return (captureText ((found.captures[number - 1]?).getD .undefined)).toList ++
        (← expand i text found fuel rest)
    else return 0x24 :: (← expand i text found fuel (first :: rest))

/-- What is put in place of a match. -/
def replacement (i : Interpreter) (text : Units) (found : Found) (value : Value) :
    Action Units := do
  if ← Access.isCallable value then
    let groups := if found.groups.isUndefined then [] else [found.groups]
    Operator.toText i (← i.call value .undefined
      (.text found.piece :: found.captures ++ [.ofNat found.place, .text text] ++ groups))
  else
    let pattern ← Operator.toText i value
    return (← expand i text found (pattern.size + 1) pattern.toList).toArray

/-- Puts replacements in place of matches that follow one another. -/
def replaceAll_ (i : Interpreter) (text : Units) (value : Value) :
    Nat → List Found → Action Units
  | start, [] => return text.extract start text.size
  | start, found :: rest => do
    let piece ← replacement i text found value
    let others ← replaceAll_ i text value (found.place + found.piece.size) rest
    return text.extract start found.place ++ piece ++ others

def foundBy (regular : Regexes.Regular) (text : Units) (captures : Array Regex.Capture) :
    Action Found := do
  let (first, last) := Regexes.wholeOf captures
  return ⟨first, text.extract first last, (captures.toList.drop 1).map (Regexes.pieceOf text),
    ← Regexes.namedGroups regular text captures⟩

/-- The places of a piece, which do not overlap. -/
def placesOf (text piece : Units) : Nat → Nat → List Nat
  | 0, _ => []
  | fuel + 1, start =>
    match text.find? piece start with
    | some place => place :: placesOf text piece fuel (place + max 1 piece.size)
    | none => []

/-- A replacement that is no function is turned into a text once. -/
def settled (i : Interpreter) (value : Value) : Action Value := do
  if ← Access.isCallable value then return value
  return .text (← Operator.toText i value)

def replaceWith (every : Bool) : Builtin := fun i call => do
  let text ← textThis i call
  match ← Regexes.regular? (call.argument 0) with
  | some regular =>
    if every && !regular.pattern.flags.isGlobal then
      typeFault "replaceAll needs a global regular expression"
    let value ← settled i (call.argument 1)
    let found ← (← Regexes.matchesOf i regular text).mapM (foundBy regular text)
    return .text (← replaceAll_ i text value 0 found)
  | none =>
    let piece ← textArgument i call 0
    let value ← settled i (call.argument 1)
    let places := placesOf text piece (text.size + 1) 0
    let chosen := if every then places else places.take 1
    return .text (← replaceAll_ i text value 0
      (chosen.map fun place => ⟨place, piece, [], .undefined⟩))

/-! ## Splitting and matching -/

/-- The pieces between separators, which may not be empty unless they move on. -/
def splitByPiece (text separator : Units) : List Units :=
  if separator.isEmpty then text.toList.map fun unit => #[unit]
  else
    let places := placesOf text separator (text.size + 1) 0
    let starts := 0 :: places.map (· + separator.size)
    (starts.zip (places ++ [text.size])).map fun (first, last) => text.extract first last

/-- Goes on splitting from a place; `start` is where the current piece begins. -/
def splitByRegex (regular : Regexes.Regular) (text : Units) :
    Nat → Nat → Nat → List Value
  | 0, start, _ => [.text (text.extract start text.size)]
  | fuel + 1, start, place =>
    if place ≥ text.size then [.text (text.extract start text.size)]
    else
      match Regex.matchAt regular.pattern text place with
      | some captures =>
        let (_, last) := Regexes.wholeOf captures
        if last = start then splitByRegex regular text fuel start (place + 1)
        else
          .text (text.extract start place) ::
            (captures.toList.drop 1).map (Regexes.pieceOf text) ++
            splitByRegex regular text fuel last last
      | none => splitByRegex regular text fuel start (place + 1)

def split : Builtin := fun i call => do
  let text ← textThis i call
  let limit ← match call.argument 1 with
    | .undefined => pure (UInt32.size - 1)
    | value => pure (Numeral.word (← Operator.toNumber i value)).toNat
  match ← Regexes.regular? (call.argument 0) with
  | some regular =>
    let pieces :=
      if text.isEmpty then
        if (Regex.matchAt regular.pattern text 0).isSome then [] else [.text text]
      else splitByRegex regular text (2 * text.size + 2) 0 0
    newArray (pieces.take limit)
  | none =>
    match call.argument 0 with
    | .undefined => newArray ([Value.text text].take limit)
    | value =>
      let separator ← Operator.toText i value
      newArray (((splitByPiece text separator).map Value.text).take limit)

def regularArgument (i : Interpreter) (call : Invocation) (flags : String) :
    Action Regexes.Regular := do
  match ← Regexes.regular? (call.argument 0) with
  | some regular => return regular
  | none =>
    let source ← match call.argument 0 with
      | .undefined => pure (Units.ofString "(?:)")
      | value => Operator.toText i value
    Regexes.regularThis (← Step.newRegex source (Units.ofString flags))

def matchText : Builtin := fun i call => do
  let text ← textThis i call
  let regular ← regularArgument i call ""
  if regular.pattern.flags.isGlobal then
    match ← Regexes.allMatches i regular text with
    | [] => return .null
    | found =>
      newArray (found.map fun captures => Regexes.pieceOf text (some (Regexes.wholeOf captures)))
  else
    match ← Regexes.matchNext i regular text with
    | some captures => Regexes.matchObject regular text captures
    | none => return .null

def matchAll : Builtin := fun i call => do
  let text ← textThis i call
  let regular ← regularArgument i call "g"
  if !regular.pattern.flags.isGlobal then typeFault "matchAll needs a global regular expression"
  newArray (← (← Regexes.allMatches i regular text).mapM (Regexes.matchObject regular text))

def search : Builtin := fun i call => do
  let text ← textThis i call
  let regular ← regularArgument i call ""
  match Regex.search regular.pattern text (text.size + 1) 0 with
  | some captures => return .ofNat (Regexes.wholeOf captures).1
  | none => return .ofInt (-1)

def statics : Group := ⟨"String",
  [("fromCharCode", fromCharCode), ("fromCodePoint", fromCodePoint)]⟩

def methods : Group := ⟨"String.prototype",
  [("at", at_), ("charAt", charAt), ("charCodeAt", charCodeAt), ("codePointAt", codePointAt),
   ("concat", concat), ("endsWith", endsWith), ("includes", includes), ("indexOf", indexOf),
   ("lastIndexOf", lastIndexOf), ("localeCompare", localeCompare), ("match", matchText),
   ("matchAll", matchAll), ("padEnd", padEnd), ("padStart", padStart), ("repeat", repeat_),
   ("replace", replaceWith false), ("replaceAll", replaceWith true), ("search", search),
   ("slice", slice), ("split", split), ("startsWith", startsWith), ("substr", substr),
   ("substring", substring), ("toLocaleLowerCase", toLower), ("toLocaleUpperCase", toUpper),
   ("toLowerCase", toLower), ("toString", plainThis), ("toUpperCase", toUpper), ("trim", trim),
   ("trimEnd", trimEnd), ("trimLeft", trimStart), ("trimRight", trimEnd),
   ("trimStart", trimStart), ("valueOf", plainThis)]⟩

end TemplateBuild.JavaScript.Library.Texts

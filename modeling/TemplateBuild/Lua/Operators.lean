import TemplateBuild.Decimal.Remainder
import TemplateBuild.Lua.Action

/-!
# Operators

What operators do with values, their metatables included.  Calling handlers is left to an
interpreter, which is also how the functions of the library call back.
-/

set_option autoImplicit false

namespace TemplateBuild.Lua

/-- How a statement ended. -/
inductive Flow where
  | next (scope : Scope)
  | broke
  | jumped (label : Bytes)
  | returned (values : List Value)
  /-- The result is that of one more call, for which the running function is not needed. -/
  | continued (function : Value) (arguments : List Value) (called : Option CallName)

/-- Running the parts of a script, for those that are given an interpreter of lesser depth. -/
structure Interpreter where
  one : Scope → Expr → Action Value
  many : Scope → Expr → Action (List Value)
  statement : Scope → Statement → Action Flow
  call : Value → List Value → Option CallName → Action (List Value)

/-- What an operator does not know about its operand, the message says. -/
def described : Option CallName → String
  | some ⟨kind, name⟩ => " (" ++ kind ++ " '" ++ Bytes.toStringLossy name ++ "')"
  | none => ""

namespace Operator

open Action

def typeFault {α : Type} (doing : String) (value : Value) (name : Option CallName) : Action α := do
  fault ("attempt to " ++ doing ++ " a " ++ (← shownType value) ++ " value" ++ described name)

/-- The first of the values, or nil. -/
def firstOf : List Value → Value
  | value :: _ => value
  | [] => .nil

/-- Calls a handler and takes its first result. -/
def callOne (i : Interpreter) (function : Value) (arguments : List Value) : Action Value := do
  return firstOf (← i.call function arguments none)

/-! ## Numbers -/

def numberOf? : Value → Option Number
  | .integer value => some (.integer value)
  | .float value => some (.float value)
  | _ => none

/-- Texts that spell numbers count as numbers in arithmetic. -/
def coerced? : Value → Option Number
  | .text text => Numeral.number? text
  | value => numberOf? value

def asFloat : Number → Float
  | .integer value => floatOf value
  | .float value => value

def asWhole? : Number → Option Int64
  | .integer value => some value
  | .float value => wholeOf? value

def eventName : BinaryOp → String
  | .add => "add"
  | .sub => "sub"
  | .mul => "mul"
  | .div => "div"
  | .idiv => "idiv"
  | .mod => "mod"
  | .pow => "pow"
  | .band => "band"
  | .bor => "bor"
  | .bxor => "bxor"
  | .shl => "shl"
  | .shr => "shr"
  | .concat => "concat"
  | .eq => "eq"
  | .ne => "eq"
  | .lt => "lt"
  | .le => "le"
  | .gt => "lt"
  | .ge => "le"

def isBitwise : BinaryOp → Bool
  | .band | .bor | .bxor | .shl | .shr => true
  | _ => false

/-- Division rounds down. -/
def floorDivide (left right : Int64) : Int64 :=
  Int64.ofInt (Int.fdiv left.toInt right.toInt)

def floorModulo (left right : Int64) : Int64 :=
  Int64.ofInt (Int.fmod left.toInt right.toInt)

/-- The result has the sign of the divisor. -/
def floatModulo (left right : Float) : Float :=
  let rest := Binary64.remainder left right
  if (if rest > 0.0 then right < 0.0 else rest < 0.0 && right != rest && right > 0.0) then
    rest + right
  else rest

def wholeArithmetic (op : BinaryOp) (left right : Int64) : Except String Number :=
  match op with
  | .add => .ok (.integer (left + right))
  | .sub => .ok (.integer (left - right))
  | .mul => .ok (.integer (left * right))
  | .idiv =>
    if right = 0 then .error "attempt to perform 'n//0'"
    else .ok (.integer (floorDivide left right))
  | .mod =>
    if right = 0 then .error "attempt to perform 'n%%0'"
    else .ok (.integer (floorModulo left right))
  | .pow => .ok (.float (Float.pow (floatOf left) (floatOf right)))
  | _ => .ok (.float (floatOf left / floatOf right))

def floatArithmetic (op : BinaryOp) (left right : Float) : Number :=
  .float <| match op with
    | .add => left + right
    | .sub => left - right
    | .mul => left * right
    | .idiv => (left / right).floor
    | .mod => floatModulo left right
    | .pow => Float.pow left right
    | _ => left / right

def arithmetic (op : BinaryOp) (left right : Number) : Except String Number :=
  match left, right with
  | .integer left, .integer right => wholeArithmetic op left right
  | _, _ => .ok (floatArithmetic op (asFloat left) (asFloat right))

/-- Bits that are shifted out are lost, and zeros come in; a negative count shifts the other
way. -/
def shiftLeft (value : Int64) (count : Int) : Int64 :=
  if count ≥ 64 ∨ count ≤ -64 then 0
  else if count ≥ 0 then (value.toUInt64 <<< UInt64.ofNat count.toNat).toInt64
  else (value.toUInt64 >>> UInt64.ofNat (-count).toNat).toInt64

def bitwise (op : BinaryOp) (left right : Int64) : Int64 :=
  match op with
  | .band => (left.toUInt64 &&& right.toUInt64).toInt64
  | .bor => (left.toUInt64 ||| right.toUInt64).toInt64
  | .bxor => (left.toUInt64 ^^^ right.toUInt64).toInt64
  | .shl => shiftLeft left right.toInt
  | _ => shiftLeft left (-right.toInt)

/-- The handler of an operator, from the left operand or else from the right one. -/
def binaryHandler (left right : Value) (event : String) : Action Value := do
  let own ← handler left event
  if own.isNil then handler right event else return own

def isText : Value → Bool
  | .text _ => true
  | _ => false

/-- Where the operands are no numbers: a handler, or the error. -/
def arithmeticFallback (i : Interpreter) (op : BinaryOp) (left right : Value)
    (leftName rightName : Option CallName) : Action Value := do
  let event := eventName op
  let found ← binaryHandler left right ("__" ++ event)
  if !found.isNil then callOne i found [left, right]
  else if isText left || isText right then
    fault ("attempt to " ++ event ++ " a '" ++ left.typeName ++ "' with a '" ++
      right.typeName ++ "'")
  else if (numberOf? left).isNone then typeFault "perform arithmetic on" left leftName
  else typeFault "perform arithmetic on" right rightName

def bitwiseFallback (i : Interpreter) (op : BinaryOp) (left right : Value)
    (leftName rightName : Option CallName) : Action Value := do
  let found ← binaryHandler left right ("__" ++ eventName op)
  if !found.isNil then callOne i found [left, right]
  else if (numberOf? left).isNone then typeFault "perform bitwise operation on" left leftName
  else if (numberOf? right).isNone then typeFault "perform bitwise operation on" right rightName
  else
    let name := if ((numberOf? left).bind asWhole?).isNone then leftName else rightName
    fault ("number" ++ described name ++ " has no integer representation")

def binaryArithmetic (i : Interpreter) (op : BinaryOp) (left right : Value)
    (leftName rightName : Option CallName) : Action Value := do
  if isBitwise op then
    match (coerced? left).bind asWhole?, (coerced? right).bind asWhole? with
    | some left, some right => return .integer (bitwise op left right)
    | _, _ => bitwiseFallback i op left right leftName rightName
  else
    match coerced? left, coerced? right with
    | some leftNumber, some rightNumber =>
      match arithmetic op leftNumber rightNumber with
      | .ok result => return .ofNumber result
      | .error message => fault message
    | _, _ => arithmeticFallback i op left right leftName rightName

/-! ## Order and equality -/

/-- Compares a whole number with a floating-point number by their exact values. -/
def compareMixed (left : Int64) (right : Float) : Option Ordering :=
  match Binary64.ofFloat right with
  | .nan => none
  | .infinite negative => some (if negative then .gt else .lt)
  | .finite negative mantissa exponent =>
    let ratio := Ratio.ofPower mantissa exponent
    let numerator : Int := ratio.numerator
    some (compare (left.toInt * ratio.denominator) (if negative then -numerator else numerator))

def compareFloats (left right : Float) : Option Ordering :=
  if left < right then some .lt
  else if left > right then some .gt
  else if left == right then some .eq
  else none

/-- None where the numbers cannot be ordered. -/
def compareNumbers : Number → Number → Option Ordering
  | .integer left, .integer right => some (compare left.toInt right.toInt)
  | .float left, .float right => compareFloats left right
  | .integer left, .float right => compareMixed left right
  | .float left, .integer right => (compareMixed right left).map Ordering.swap

def compareBytes : Bytes → Bytes → Ordering
  | [], [] => .eq
  | [], _ :: _ => .lt
  | _ :: _, [] => .gt
  | left :: leftRest, right :: rightRest =>
    if left < right then .lt else if right < left then .gt else compareBytes leftRest rightRest

/-- Equality without handlers. -/
def rawEqual (left right : Value) : Bool :=
  match left, right with
  | .nil, .nil => true
  | .boolean left, .boolean right => left == right
  | .text left, .text right => left == right
  | .table left, .table right => left == right
  | .function left, .function right => left == right
  | .thread left, .thread right => left == right
  | .object left, .object right => left == right
  | left, right =>
    match numberOf? left, numberOf? right with
    | some left, some right => compareNumbers left right == some .eq
    | _, _ => false

def equal (i : Interpreter) (left right : Value) : Action Bool := do
  if rawEqual left right then return true
  match left, right with
  | .table _, .table _ =>
    let found ← binaryHandler left right "__eq"
    if found.isNil then return false
    return (← callOne i found [left, right]).isTrue
  | _, _ => return false

def orderFault {α : Type} (left right : Value) : Action α := do
  let leftType ← shownType left
  let rightType ← shownType right
  if leftType == rightType then fault ("attempt to compare two " ++ leftType ++ " values")
  else fault ("attempt to compare " ++ leftType ++ " with " ++ rightType)

/-- Whether the left value comes before the right one, or may be equal to it as well. -/
def ordered (i : Interpreter) (orEqual : Bool) (left right : Value) : Action Bool := do
  let accept := fun (order : Option Ordering) =>
    order == some .lt || (orEqual && order == some .eq)
  match left, right with
  | .text left, .text right => return accept (some (compareBytes left right))
  | _, _ =>
    match numberOf? left, numberOf? right with
    | some left, some right => return accept (compareNumbers left right)
    | _, _ =>
      let found ← binaryHandler left right (if orEqual then "__le" else "__lt")
      if found.isNil then orderFault left right
      return (← callOne i found [left, right]).isTrue

/-! ## Texts and lengths -/

def textOf? : Value → Option Bytes
  | .text text => some text
  | value => (numberOf? value).map fun number => Bytes.ofString number.text

def concatenate (i : Interpreter) (left right : Value)
    (leftName rightName : Option CallName) : Action Value := do
  match textOf? left, textOf? right with
  | some left, some right => return .text (left ++ right)
  | leftText, _ =>
    let found ← binaryHandler left right "__concat"
    if !found.isNil then callOne i found [left, right]
    else if leftText.isNone then typeFault "concatenate" left leftName
    else typeFault "concatenate" right rightName

def length (i : Interpreter) (value : Value) (name : Option CallName) : Action Value := do
  match value with
  | .text text => return .integer (Int64.ofNat text.length)
  | _ =>
    let found ← handler value "__len"
    if !found.isNil then callOne i found [value, value]
    else
      match value with
      | .table address => return .integer (Int64.ofNat (← rawLength address))
      | _ => typeFault "get length of" value name

def negate (i : Interpreter) (value : Value) (name : Option CallName) : Action Value := do
  match coerced? value with
  | some (.integer number) => return .integer (-number)
  | some (.float number) => return .float (-number)
  | none =>
    let found ← handler value "__unm"
    if !found.isNil then callOne i found [value, value]
    else if isText value then fault "attempt to unm a 'string' with a 'string'"
    else typeFault "perform arithmetic on" value name

def complement (i : Interpreter) (value : Value) (name : Option CallName) : Action Value := do
  match (coerced? value).bind asWhole? with
  | some number => return .integer (number.toUInt64 ^^^ 0xFFFFFFFFFFFFFFFF).toInt64
  | none =>
    let found ← handler value "__bnot"
    if !found.isNil then callOne i found [value, value]
    else if (numberOf? value).isSome then
      fault ("number" ++ described name ++ " has no integer representation")
    else typeFault "perform bitwise operation on" value name

/-! ## Indexing and calling -/

/-- Chains of tables that refer to one another are followed so far. -/
def longestChain : Nat := 2000

/-- Raises an error of the host. -/
def hostFault {α : Type} (message : String) : Action α := do
  raise (← newObject (.failure message))

def refuseHelperName {α : Type} (kind reason : String) : Action α :=
  hostFault ("bad argument #2 to \x60HelperGate.__index\x60: error converting Lua " ++ kind ++
    " to String (" ++ reason ++ ")")

/-- A gate answers for every text and number whether it is the name of a known helper. -/
def askGate (gate : HelperGate) (key : Value) : Action Value := do
  match textOf? key with
  | none => refuseHelperName key.typeName "expected string or number"
  | some name =>
    match Utf8.decode name with
    | .ok text => return .boolean (gate.isKnown (String.ofList text))
    | .error broken => refuseHelperName "string" broken.message

def index (i : Interpreter) (object key : Value) (name : Option CallName) : Action Value :=
  iterate (fun object => do
    match object with
    | .table address =>
      let value ← rawGet address key
      if !value.isNil then return .inr value
      let found ← handler object "__index"
      match found with
      | .nil => return .inr .nil
      | .function _ => return .inr (← callOne i found [object, key])
      | next => return .inl next
    | .object address =>
      match ← objectAt address with
      | .gate gate => return .inr (← askGate gate key)
      | .failure _ => typeFault "index" object name
      | .stream _ =>
        match key with
        | .text method =>
          return .inr (← newBuiltin ("stream." ++ Bytes.toStringLossy method) [])
        | _ => return .inr .nil
    | _ =>
      let found ← handler object "__index"
      match found with
      | .nil => typeFault "index" object name
      | .function _ => return .inr (← callOne i found [object, key])
      | next => return .inl next) longestChain object

/-- Stores without handlers; nil and what differs from itself are no keys. -/
def rawSet (address : Nat) (key value : Value) : Action Unit := do
  match key.toKey? with
  | some key => rawSetKey address key value
  | none => fault (if key.isNil then "table index is nil" else "table index is NaN")

def setIndex (i : Interpreter) (object key value : Value) (name : Option CallName) :
    Action Unit :=
  iterate (fun object => do
    match object with
    | .table address =>
      let present := !(← rawGet address key).isNil
      let found : Value ← if present then Action.pure Value.nil else handler object "__newindex"
      match found with
      | .nil =>
        rawSet address key value
        return .inr ()
      | .function _ =>
        let _ ← i.call found [object, key, value] none
        return .inr ()
      | next => return .inl next
    | _ =>
      let found ← handler object "__newindex"
      match found with
      | .nil => typeFault "index" object name
      | .function _ =>
        let _ ← i.call found [object, key, value] none
        return .inr ()
      | next => return .inl next) longestChain object

/-! ## Texts of values -/

/-- An address as text.  It tells objects apart and means nothing else. -/
def addressText (address : Nat) : String :=
  let digits := Nat.toDigits 16 (0x5500000000 + 32 * address)
  "0x" ++ String.ofList (Digits.padded 14 digits)

def plainText (value : Value) : Action Bytes := do
  match value with
  | .nil => return Bytes.ofString "nil"
  | .boolean value => return Bytes.ofString (if value then "true" else "false")
  | .text text => return text
  | .table address => return Bytes.ofString ((← shownType value) ++ ": " ++ addressText address)
  | .function address =>
    match ← functionAt address with
    | .builtin _ _ => return Bytes.ofString ("function: builtin: " ++ addressText address)
    | .closure _ _ _ => return Bytes.ofString ("function: " ++ addressText address)
  | .thread address => return Bytes.ofString ("thread: " ++ addressText address)
  | .object address =>
    match ← objectAt address with
    | .failure message => return Bytes.ofString message
    | .stream _ => return Bytes.ofString ("file (" ++ addressText address ++ ")")
    | .gate _ => return Bytes.ofString ((← shownType value) ++ ": " ++ addressText address)
  | value => return (textOf? value).getD []

/-- The text of a value, by its own handler if it has one. -/
def display (i : Interpreter) (value : Value) : Action Bytes := do
  let found ← handler value "__tostring"
  if found.isNil then plainText value
  else
    match ← callOne i found [value] with
    | .text text => return text
    | result =>
      match textOf? result with
      | some text => return text
      | none => callerFault "'__tostring' must return a string"

end Operator

end TemplateBuild.Lua

import TemplateBuild.JavaScript.Objects

/-!
# Conversions and operators

Objects become plain values through their own methods; texts and numbers are turned into one
another.
-/

set_option autoImplicit false

namespace TemplateBuild.JavaScript.Operator

open Action hiding pure bind

/-! ## Conversions -/

/-- Which plain value of an object is wanted. -/
inductive Wish where
  | any
  | number
  | text
deriving DecidableEq, Repr

def methodNames : Wish → List String
  | .text => ["toString", "valueOf"]
  | _ => ["valueOf", "toString"]

def tryMethods (i : Interpreter) (value : Value) : List String → Action Value
  | [] => typeFault "cannot convert object to primitive value"
  | name :: rest => do
    let method ← Access.getNamed i value name
    if ← Access.isCallable method then
      match ← i.call method value [] with
      | .object _ => tryMethods i value rest
      | plain => return plain
    else tryMethods i value rest

def toPlain (i : Interpreter) (wish : Wish) (value : Value) : Action Value :=
  match value with
  | .object _ => tryMethods i value (methodNames wish)
  | value => return value

def toBoolean : Value → Bool
  | .undefined => false
  | .null => false
  | .boolean value => value
  | .number value => !(Numeral.isNaN value || value == 0.0)
  | .text units => units.size != 0
  | .object _ => true

/-- The text of a value that is no object. -/
def plainText : Value → Units
  | .undefined => Units.ofString "undefined"
  | .null => Units.ofString "null"
  | .boolean value => Units.ofString (if value then "true" else "false")
  | .number value => Units.ofString (Numeral.text value)
  | .text units => units
  | .object _ => #[]

def toText (i : Interpreter) (value : Value) : Action Units := do
  return plainText (← toPlain i .text value)

/-- Lone surrogates spell no number. -/
def charsOf (units : Units) : List Char :=
  (Units.codes units.toList).map fun code =>
    if Units.isSurrogate code then '\uFFFD' else Char.ofNat code

def plainNumber : Value → Float
  | .undefined => Numeral.notANumber
  | .null => 0.0
  | .boolean value => if value then 1.0 else 0.0
  | .number value => value
  | .text units => Numeral.read (charsOf units)
  | .object _ => Numeral.notANumber

def toNumber (i : Interpreter) (value : Value) : Action Float := do
  return plainNumber (← toPlain i .number value)

/-- The whole part of the number that a value is. -/
def toWhole (i : Interpreter) (value : Value) : Action Int := do
  return Numeral.towardZero (← toNumber i value)

def toKey (i : Interpreter) (value : Value) : Action Units :=
  toText i value

/-- The object that stands for a plain value. -/
def toObject (value : Value) : Action Nat := do
  let prototypes := (← machine).prototypes
  match value with
  | .object address => return address
  | .text units => newObject (.boxed (.text units)) (some prototypes.text)
  | .number number => newObject (.boxed (.number number)) (some prototypes.number)
  | .boolean flag => newObject (.boxed (.boolean flag)) (some prototypes.boolean)
  | _ => Access.nothingFault

def typeName (value : Value) : Action String := do
  match value with
  | .undefined => return "undefined"
  | .null => return "object"
  | .boolean _ => return "boolean"
  | .number _ => return "number"
  | .text _ => return "string"
  | .object _ => return if ← Access.isCallable value then "function" else "object"

/-! ## Equality and order -/

def identical (left right : Value) : Bool :=
  match left, right with
  | .undefined, .undefined => true
  | .null, .null => true
  | .boolean left, .boolean right => left == right
  | .number left, .number right => left == right
  | .text left, .text right => left == right
  | .object left, .object right => left == right
  | _, _ => false

/-- Like `identical`, but what is no number is the same as itself. -/
def sameValue (left right : Value) : Bool :=
  match left, right with
  | .number left, .number right =>
    left == right || (Numeral.isNaN left && Numeral.isNaN right)
  | _, _ => identical left right

def isPlain : Value → Bool
  | .object _ => false
  | _ => true

/-- Equality after conversions. -/
def equal (i : Interpreter) (left right : Value) : Action Bool := do
  match left, right with
  | .undefined, other => return other.isNothing
  | .null, other => return other.isNothing
  | other, .undefined => return other.isNothing
  | other, .null => return other.isNothing
  | .object _, .object _ => return identical left right
  | .object _, plain => return plainEqual (← toPlain i .any left) plain
  | plain, .object _ => return plainEqual plain (← toPlain i .any right)
  | _, _ => return plainEqual left right
where
  plainEqual (left right : Value) : Bool :=
    match left, right with
    | .text left, .text right => left == right
    | .undefined, other => other.isNothing
    | .null, other => other.isNothing
    | other, .undefined => other.isNothing
    | other, .null => other.isNothing
    | _, _ => plainNumber left == plainNumber right

/-- Whether plain values are in order; what is no number is in no order. -/
def plainOrdered (accept : Ordering → Bool) (left right : Value) : Bool :=
  match left, right with
  | .text left, .text right =>
    if left == right then accept .eq
    else accept (if Units.before left.toList right.toList then .lt else .gt)
  | _, _ =>
    let left := plainNumber left
    let right := plainNumber right
    if left < right then accept .lt
    else if left > right then accept .gt
    else if left == right then accept .eq
    else false

def ordered (i : Interpreter) (accept : Ordering → Bool) (left right : Value) : Action Bool := do
  let left ← toPlain i .number left
  let right ← toPlain i .number right
  return plainOrdered accept left right

/-! ## Arithmetic -/

def isText : Value → Bool
  | .text _ => true
  | _ => false

def add (i : Interpreter) (left right : Value) : Action Value := do
  let left ← toPlain i .any left
  let right ← toPlain i .any right
  if isText left || isText right then return .text (plainText left ++ plainText right)
  return .number (plainNumber left + plainNumber right)

/-- One and no number have no power. -/
def power (base exponent : Float) : Float :=
  if Numeral.isNaN exponent then Numeral.notANumber
  else if base.abs == 1.0 && exponent.abs == Numeral.infinity then Numeral.notANumber
  else Float.pow base exponent

def shiftCount (value : Float) : UInt32 :=
  Numeral.word value &&& 31

def arithmetic (op : BinaryOp) (left right : Float) : Float :=
  match op with
  | .add => left + right
  | .subtract => left - right
  | .multiply => left * right
  | .divide => left / right
  | .modulo => Binary64.remainder left right
  | .power => power left right
  | .bitAnd => Numeral.ofSignedWord (Numeral.word left &&& Numeral.word right).toInt32
  | .bitOr => Numeral.ofSignedWord (Numeral.word left ||| Numeral.word right).toInt32
  | .bitXor => Numeral.ofSignedWord (Numeral.word left ^^^ Numeral.word right).toInt32
  | .shiftLeft => Numeral.ofSignedWord (Numeral.word left <<< shiftCount right).toInt32
  | .shiftRight =>
    Numeral.ofSignedWord (Numeral.signedWord left >>> (shiftCount right).toInt32)
  | .shiftRightUnsigned => Numeral.ofWord (Numeral.word left >>> shiftCount right)
  | _ => Numeral.notANumber

/-- Whether an object inherits from another one. -/
def inherits (objects : Array Object) (wanted : Nat) : Nat → Nat → Bool
  | 0, _ => false
  | fuel + 1, address =>
    match objects[address]? with
    | none => false
    | some object =>
      match object.prototype with
      | none => false
      | some parent => parent == wanted || inherits objects wanted fuel parent

/-- The function that a bound one stands for. -/
def boundTarget? (value : Value) : Action (Option Value) := do
  match value with
  | .object address =>
    match (← objectAt address).kind with
    | .builtin "bound" (target :: _) => return some target
    | _ => return none
  | _ => return none

def instanceOf (i : Interpreter) (value function : Value) : Action Bool := do
  if !(← Access.isCallable function) then
    typeFault "right-hand side of 'instanceof' is not callable"
  let function := (← boundTarget? function).getD function
  match value with
  | .object address =>
    match ← Access.getNamed i function "prototype" with
    | .object prototype =>
      return inherits (← machine).objects prototype Access.longestChain address
    | _ => typeFault "function has non-object prototype in instanceof check"
  | _ => return false

def memberOf (i : Interpreter) (key object : Value) : Action Bool := do
  match object with
  | .object address => Access.has address (← toKey i key)
  | _ => typeFault "right-hand side of 'in' should be an object"

def binary (i : Interpreter) (op : BinaryOp) (left right : Value) : Action Value := do
  match op with
  | .add => add i left right
  | .equal => return .boolean (← equal i left right)
  | .unequal => return .boolean (!(← equal i left right))
  | .identical => return .boolean (identical left right)
  | .distinct => return .boolean (!identical left right)
  | .less => return .boolean (← ordered i (· == .lt) left right)
  | .greater => return .boolean (← ordered i (· == .gt) left right)
  | .atMost => return .boolean (← ordered i (· != .gt) left right)
  | .atLeast => return .boolean (← ordered i (· != .lt) left right)
  | .instanceOf => return .boolean (← instanceOf i left right)
  | .memberOf => return .boolean (← memberOf i left right)
  | op =>
    let left ← toNumber i left
    let right ← toNumber i right
    return .number (arithmetic op left right)

end TemplateBuild.JavaScript.Operator

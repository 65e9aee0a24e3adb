import TemplateBuild.Lua.Library.Basic

/-!
# Functions on numbers

Whole numbers stay whole where the result is one.  Random numbers come from four words of state
that are shifted and rotated.
-/

set_option autoImplicit false

namespace TemplateBuild.Lua.Library.Mathematics

open Action

/-- A function of one floating-point number. -/
def ofFloat (function : Float → Float) : Builtin := fun _ _ arguments => do
  return [.float (function (← Argument.float arguments 1))]

/-- The whole number that a rounded number is, if it is small enough for one. -/
def wholeOrFloat (value : Float) : Value :=
  match wholeOf? value with
  | some whole => .integer whole
  | none => .float value

def absolute : Builtin := fun _ _ arguments => do
  match ← Argument.number arguments 1 with
  | .integer value => return [.integer (if value < 0 then -value else value)]
  | .float value => return [.float value.abs]

def rounded (round : Float → Float) : Builtin := fun _ _ arguments => do
  match ← Argument.number arguments 1 with
  | .integer value => return [.integer value]
  | .float value => return [wholeOrFloat (round value)]

def numbersFrom (arguments : List Value) : Nat → Nat → Action (List Number)
  | 0, _ => return []
  | count + 1, position => do
    let number ← Argument.number arguments position
    return number :: (← numbersFrom arguments count (position + 1))

/-- The number that is ahead of all others in an order; the first one of equal ones. -/
def extreme (wanted : Ordering) : Builtin := fun _ _ arguments => do
  let first ← Argument.number arguments 1
  let others ← numbersFrom arguments (arguments.length - 1) 2
  let best := others.foldl (fun best number =>
    if Operator.compareNumbers number best == some wanted then number else best) first
  return [.ofNumber best]

/-- The rest of a division that rounds toward zero. -/
def remainder : Builtin := fun _ _ arguments => do
  match ← Argument.number arguments 1, ← Argument.number arguments 2 with
  | .integer left, .integer right =>
    if right = 0 then Argument.refuse 2 "zero"
    return [.integer (Int64.ofInt (Int.tmod left.toInt right.toInt))]
  | left, right =>
    return [.float (Binary64.remainder (Operator.asFloat left) (Operator.asFloat right))]

/-- The whole part, as a floating-point number, and the rest. -/
def parts : Builtin := fun _ _ arguments => do
  match ← Argument.number arguments 1 with
  | .integer value => return [.float (floatOf value), .float 0.0]
  | .float value =>
    let whole := if value < 0.0 then value.ceil else value.floor
    return [.float whole, .float (if value == whole then 0.0 else value - whole)]

def logarithm : Builtin := fun _ _ arguments => do
  let value ← Argument.float arguments 1
  if Argument.isAbsent arguments 2 then return [.float value.log]
  let base ← Argument.float arguments 2
  if base == 2.0 then return [.float value.log2]
  else if base == 10.0 then return [.float value.log10]
  else return [.float (value.log / base.log)]

def arcTangent : Builtin := fun _ _ arguments => do
  let y ← Argument.float arguments 1
  let x ← if Argument.isAbsent arguments 2 then Action.pure 1.0 else Argument.float arguments 2
  return [.float (Float.atan2 y x)]

def pi : Float := 3.141592653589793

def toInteger : Builtin := fun _ _ arguments => do
  let value ← Argument.any arguments 1
  match (Operator.coerced? value).bind Operator.asWhole? with
  | some whole => return [.integer whole]
  | none => return [.nil]

def kind : Builtin := fun _ _ arguments => do
  match ← Argument.any arguments 1 with
  | .integer _ => return [.string "integer"]
  | .float _ => return [.string "float"]
  | _ => return [.nil]

def belowUnsigned : Builtin := fun _ _ arguments => do
  let left := Int64.ofInt (← Argument.integer arguments 1)
  let right := Int64.ofInt (← Argument.integer arguments 2)
  return [.boolean (left.toUInt64 < right.toUInt64)]

/-! ## Random numbers -/

def rotate (word count : UInt64) : UInt64 :=
  (word <<< count) ||| (word >>> (64 - count))

abbrev RandomState := UInt64 × UInt64 × UInt64 × UInt64

/-- The next word and the state behind it. -/
def nextWord : RandomState → UInt64 × RandomState
  | (first, second, third, fourth) =>
    let mixedThird := third ^^^ first
    let mixedFourth := fourth ^^^ second
    (rotate (second * 5) 7 * 9,
      (first ^^^ mixedFourth, second ^^^ mixedThird, mixedThird ^^^ (second <<< 17),
        rotate mixedFourth 45))

def seeded (low high : UInt64) : RandomState :=
  let start : RandomState := (low, 0xFF, high, 0)
  (List.range 16).foldl (fun state _ => (nextWord state).2) start

def randomWord : Action UInt64 := do
  let (word, state) := nextWord (← machine).random
  change fun machine => { machine with random := state }
  return word

/-- The least number of the form `2 ^ k - 1` that is not below a limit. -/
def maskFor (limit : Nat) : Nat :=
  if limit = 0 then 0 else 1 <<< (Nat.log2 limit + 1) - 1

/-- A word brought below a limit; those that are too large are drawn again. -/
def project (word : UInt64) (limit : Nat) : Action Nat :=
  iterate (fun (word : UInt64) => do
    let value := word.toNat &&& maskFor limit
    if value ≤ limit then return .inr value else return .inl (← randomWord)) endless word

def randomBetween (word : UInt64) (low high : Int) : Action (List Value) := do
  let value ← project word (high - low).toNat
  return [.integer (Int64.ofInt (low + value))]

def random : Builtin := fun _ _ arguments => do
  let word ← randomWord
  match arguments with
  | [] => return [.float (Float.ofScientific (word >>> 11).toNat false 0 / 9007199254740992.0)]
  | [_] =>
    let high ← Argument.integer arguments 1
    if high = 0 then return [.integer word.toInt64]
    if high < 1 then Argument.refuse 1 "interval is empty"
    randomBetween word 1 high
  | [_, _] =>
    let low ← Argument.integer arguments 1
    let high ← Argument.integer arguments 2
    if high < low then Argument.refuse 2 "interval is empty"
    randomBetween word low high
  | _ => callerFault "wrong number of arguments"

def randomSeed : Builtin := fun _ _ arguments => do
  let low ← match arguments with
    | [] => Action.pure 0
    | _ =>
      match ← Argument.number arguments 1 with
      | .integer value => Action.pure value.toInt
      | .float value => Action.pure value.toBits.toNat
  let high ← Argument.integerOr arguments 2 0
  change fun machine => { machine with
    random := seeded (Int64.ofInt low).toUInt64 (Int64.ofInt high).toUInt64 }
  return []

def functions : Functions :=
  [("abs", absolute), ("acos", ofFloat Float.acos), ("asin", ofFloat Float.asin),
   ("atan", arcTangent), ("ceil", rounded Float.ceil), ("cos", ofFloat Float.cos),
   ("deg", ofFloat fun value => value * (180.0 / pi)), ("exp", ofFloat Float.exp),
   ("floor", rounded Float.floor), ("fmod", remainder), ("log", logarithm),
   ("max", extreme .gt), ("min", extreme .lt), ("modf", parts),
   ("rad", ofFloat fun value => value * (pi / 180.0)), ("random", random),
   ("randomseed", randomSeed), ("sin", ofFloat Float.sin), ("sqrt", ofFloat Float.sqrt),
   ("tan", ofFloat Float.tan), ("tointeger", toInteger), ("type", kind),
   ("ult", belowUnsigned)]

def constants : List (String × Value) :=
  [("huge", .float (1.0 / 0.0)), ("maxinteger", .integer Int64.maxValue),
   ("mininteger", .integer Int64.minValue), ("pi", .float pi)]

end TemplateBuild.Lua.Library.Mathematics

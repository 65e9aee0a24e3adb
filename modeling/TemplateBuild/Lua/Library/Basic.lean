import TemplateBuild.Lua.Library.Arguments

/-!
# Basic functions

Errors, metatables, iteration, and the kinds and texts of values.
-/

set_option autoImplicit false

namespace TemplateBuild.Lua.Library

open Action

/-- A library: its functions by name. -/
abbrev Functions := List (String × Builtin)

namespace Basic

/-- Raises a value; a text is told where, unless the level is zero. -/
def raiseAt (value : Value) (level : Int) : Action (List Value) := do
  match value with
  | .text text =>
    if level > 0 then raise (.text ((← position level.toNat) ++ text)) else raise value
  | _ => raise value

def error : Builtin := fun _ _ arguments => do
  let level ← Argument.integerOr arguments 2 1
  raiseAt (Argument.value arguments 1) level

def assert : Builtin := fun _ _ arguments => do
  let condition ← Argument.any arguments 1
  if condition.isTrue then return arguments
  raiseAt ((Argument.given arguments 2).getD (.string "assertion failed!")) 1

def getMetatable : Builtin := fun _ _ arguments => do
  let value ← Argument.any arguments 1
  match value with
  | .object _ => return [.boolean false]
  | _ =>
    match ← metatableOf value with
    | none => return [.nil]
    | some address =>
      let guard ← rawGetNamed address "__metatable"
      return [if guard.isNil then .table address else guard]

def setMetatable : Builtin := fun _ _ arguments => do
  let address ← Argument.table arguments 1
  let metatable ← match Argument.given arguments 2 with
    | some .nil => Action.pure none
    | some (.table metatable) => Action.pure (some metatable)
    | _ => Argument.expected arguments 2 "nil or table"
  if !(← handler (.table address) "__metatable").isNil then
    callerFault "cannot change a protected metatable"
  change fun machine => { machine with
    tables := machine.tables.modify address fun object => { object with metatable := metatable } }
  return [.table address]

/-- The entry behind a key: first along the array part, then along the nodes. -/
def nextEntry (entries : ValueTable) (key : Option (Key ObjectKey)) :
    Option (Option (Key ObjectKey × Value)) :=
  let start := match key with
    | none => some 0
    | some key =>
      match entries.slot? key with
      | some slot => some (slot + 1)
      | none => (entries.nodeAt? key).map fun node => entries.array.size + node + 1
  start.map fun start => find start (entries.array.size + entries.nodes.size + 1 - start)
where
  find (place : Nat) : Nat → Option (Key ObjectKey × Value)
    | 0 => none
    | fuel + 1 =>
      if place < entries.array.size then
        match entries.array[place]? with
        | some (some value) => some (.index (place + 1 : Nat), value)
        | _ => find (place + 1) fuel
      else
        match entries.nodes[place - entries.array.size]? with
        | some (key, some value) => some (key, value)
        | some (_, none) => find (place + 1) fuel
        | none => none

def next : Builtin := fun _ _ arguments => do
  let address ← Argument.table arguments 1
  let entries := (← tableAt address).entries
  let key := Argument.value arguments 2
  if !key.isNil && key.toKey?.isNone then callerFault "invalid key to 'next'"
  match nextEntry entries key.toKey? with
  | none => callerFault "invalid key to 'next'"
  | some none => return [.nil]
  | some (some (key, value)) => return [.ofKey key, value]

def pairs : Builtin := fun i _ arguments => do
  let value ← Argument.any arguments 1
  let found ← handler value "__pairs"
  if found.isNil then return [← newBuiltin "next" [], value, .nil]
  let results ← i.call found [value] none
  return [Argument.value results 1, Argument.value results 2, Argument.value results 3]

def ipairs : Builtin := fun _ _ arguments => do
  let value ← Argument.any arguments 1
  return [← newBuiltin "ipairs next" [], value, .integer 0]

def ipairsNext : Builtin := fun i _ arguments => do
  let count ← Argument.integer arguments 2
  let key := Value.integer (Int64.ofInt (count + 1))
  let value ← Operator.index i (Argument.value arguments 1) key none
  return if value.isNil then [.nil] else [key, value]

/-- Errors become results. -/
def protectedCall : Builtin := fun i _ arguments => do
  match arguments with
  | [] => raise (.string "not enough arguments to pcall")
  | function :: arguments =>
    match ← attempt (i.call function arguments none) with
    | .ok values => return .boolean true :: values
    | .error error => return [.boolean false, error]

/-- Errors are handed to a function, whose first result counts. -/
def protectedCallWith : Builtin := fun i _ arguments => do
  match arguments with
  | function :: handler :: arguments =>
    match ← attempt (i.call function arguments none) with
    | .ok values => return .boolean true :: values
    | .error error => return [.boolean false, ← Operator.callOne i handler [error]]
  | _ => raise (.string "not enough arguments to xpcall")

def displayAll (i : Interpreter) : List Value → Action (List Bytes)
  | [] => return []
  | value :: rest => do
    let text ← Operator.display i value
    return text :: (← displayAll i rest)

def write (text : Bytes) : Action Unit :=
  change fun machine => { machine with written := text :: machine.written }

def complain (text : Bytes) : Action Unit :=
  change fun machine => { machine with complained := text :: machine.complained }

def print : Builtin := fun i _ arguments => do
  let texts ← displayAll i arguments
  write (List.intercalate [0x09] texts ++ [0x0A])
  return []

def rawEqual : Builtin := fun _ _ arguments => do
  return [.boolean
    (Operator.rawEqual (← Argument.any arguments 1) (← Argument.any arguments 2))]

def rawLengthOf : Builtin := fun _ _ arguments => do
  match Argument.value arguments 1 with
  | .table address => return [.integer (Int64.ofNat (← rawLength address))]
  | .text text => return [.integer (Int64.ofNat text.length)]
  | _ => Argument.refuse 1 "table or string expected"

def rawGetOf : Builtin := fun _ _ arguments => do
  let address ← Argument.table arguments 1
  return [← rawGet address (← Argument.any arguments 2)]

def rawSetOf : Builtin := fun _ _ arguments => do
  let address ← Argument.table arguments 1
  let key ← Argument.any arguments 2
  let value ← Argument.any arguments 3
  match key.toKey? with
  | some key => rawSetKey address key value
  | none => callerFault (if key.isNil then "table index is nil" else "table index is NaN")
  return [.table address]

def select : Builtin := fun _ _ arguments => do
  match Argument.value arguments 1 with
  | .text [0x23] => return [.integer (Int64.ofNat (arguments.length - 1))]
  | _ =>
    let number ← Argument.integer arguments 1
    let rest := arguments.drop 1
    if number < 0 then
      if (-number).toNat > rest.length then Argument.refuse 1 "index out of range"
      return rest.drop (rest.length - (-number).toNat)
    else if number = 0 then Argument.refuse 1 "index out of range"
    else return rest.drop (number.toNat - 1)

/-- Digits of any base up to 36, with a sign. -/
def numberInBase (base : Nat) (text : Bytes) : Option Int64 :=
  let (negative, digits) := Numeral.signOf (Numeral.trim text)
  let valid := fun digit => match Numeral.digitValue? digit with
    | some value => value < base
    | none => false
  if digits.isEmpty || !digits.all valid || text.contains 0x2B then none
  else
    let size := Int64.ofNat (Numeral.valueOf base digits)
    some (if negative then -size else size)

def toNumber : Builtin := fun _ _ arguments => do
  if Argument.isAbsent arguments 2 then
    match ← Argument.any arguments 1 with
    | .text text => return [((Numeral.number? text).map Value.ofNumber).getD .nil]
    | value => return [((Operator.numberOf? value).map Value.ofNumber).getD .nil]
  else
    let base ← Argument.integer arguments 2
    match Argument.value arguments 1 with
    | .text text =>
      if base < 2 ∨ 36 < base then Argument.refuse 2 "base out of range"
      return [((numberInBase base.toNat text).map Value.integer).getD .nil]
    | _ => Argument.expected arguments 1 "string"

def toText : Builtin := fun i _ arguments => do
  let value ← Argument.any arguments 1
  return [.text (← Operator.display i value)]

def typeOf : Builtin := fun _ _ arguments => do
  return [.string (← Argument.any arguments 1).typeName]

def warn : Builtin := fun _ _ arguments => do
  let _ ← Argument.text arguments 1
  return []

def functions : Functions :=
  [("assert", assert), ("error", error), ("getmetatable", getMetatable), ("ipairs", ipairs),
   ("next", next), ("pairs", pairs), ("pcall", protectedCall), ("print", print),
   ("rawequal", rawEqual), ("rawget", rawGetOf), ("rawlen", rawLengthOf), ("rawset", rawSetOf),
   ("select", select), ("setmetatable", setMetatable), ("tonumber", toNumber),
   ("tostring", toText), ("type", typeOf), ("warn", warn), ("xpcall", protectedCallWith)]

end Basic

end TemplateBuild.Lua.Library

import TemplateBuild.Environment
import TemplateBuild.FileTree.Failure
import TemplateBuild.HelperGate
import TemplateBuild.Lua.Numeral
import TemplateBuild.Lua.Syntax
import TemplateBuild.Lua.Table

/-!
# Lua values and the machine

Tables, functions, threads and objects of the host live on the machine and are known by their
addresses.  So do local variables, which functions capture: a scope maps the names in sight
to cells.  The frames tell which functions are running and at which lines.
-/

set_option autoImplicit false

namespace TemplateBuild.Lua

inductive Value where
  | nil
  | boolean (value : Bool)
  | integer (value : Int64)
  | float (value : Float)
  | text (value : Bytes)
  | table (address : Nat)
  | function (address : Nat)
  | thread (address : Nat)
  | object (address : Nat)

instance : Inhabited Value := ⟨.nil⟩

/-- What can be a key without being a whole number. -/
inductive ObjectKey where
  | boolean (value : Bool)
  | float (bits : UInt64)
  | text (value : Bytes)
  | table (address : Nat)
  | function (address : Nat)
  | thread (address : Nat)
  | object (address : Nat)
deriving DecidableEq

abbrev ValueTable := Table ObjectKey Value

namespace Value

def string (value : String) : Value :=
  .text (Bytes.ofString value)

def isNil : Value → Bool
  | .nil => true
  | _ => false

/-- Everything but nil and false counts as true. -/
def isTrue : Value → Bool
  | .nil => false
  | .boolean value => value
  | _ => true

def typeName : Value → String
  | .nil => "nil"
  | .boolean _ => "boolean"
  | .integer _ => "number"
  | .float _ => "number"
  | .text _ => "string"
  | .table _ => "table"
  | .function _ => "function"
  | .thread _ => "thread"
  | .object _ => "userdata"

def ofNumber : Number → Value
  | .integer value => .integer value
  | .float value => .float value

end Value

/-- The whole number that a floating-point number is, if it is one of 64 bits. -/
def wholeOf? (value : Float) : Option Int64 :=
  if value ≥ -9223372036854775808.0 ∧ value < 9223372036854775808.0 ∧ value.floor == value then
    match Binary64.ofFloat value with
    | .finite negative mantissa exponent =>
      let ratio := Ratio.ofPower mantissa exponent
      let size : Int := (ratio.numerator / ratio.denominator : Nat)
      some (Int64.ofInt (if negative then -size else size))
    | _ => none
  else none

def floatOf (value : Int64) : Float :=
  Float.ofInt value.toInt

/-- The key that a value is; nil is none, nor is what differs from itself. -/
def Value.toKey? : Value → Option (Key ObjectKey)
  | .nil => none
  | .boolean value => some (.other (.boolean value))
  | .integer value => some (.index value.toInt)
  | .float value =>
    match wholeOf? value with
    | some whole => some (.index whole.toInt)
    | none => if value == value then some (.other (.float value.toBits)) else none
  | .text value => some (.other (.text value))
  | .table address => some (.other (.table address))
  | .function address => some (.other (.function address))
  | .thread address => some (.other (.thread address))
  | .object address => some (.other (.object address))

def Value.ofKey : Key ObjectKey → Value
  | .index number => .integer (Int64.ofInt number)
  | .other (.boolean value) => .boolean value
  | .other (.float bits) => .float (Float.ofBits bits)
  | .other (.text value) => .text value
  | .other (.table address) => .table address
  | .other (.function address) => .function address
  | .other (.thread address) => .thread address
  | .other (.object address) => .object address

def textKey (name : String) : Key ObjectKey :=
  .other (.text (Bytes.ofString name))

structure TableObject where
  entries : ValueTable
  metatable : Option Nat

/-- Names in sight with their cells, the innermost first, and the surplus arguments. -/
structure Scope where
  names : List (Bytes × Nat)
  surplus : List Value

inductive FunctionObject where
  /-- A function of a script, with the name of the script as messages show it. -/
  | closure (body : Body) (scope : Scope) (chunk : Bytes)
  /-- A function of the library, with the cells in which it keeps what it remembers. -/
  | builtin (name : String) (cells : List Nat)

/-- Objects that scripts can hold but not look into. -/
inductive HostObject where
  | gate (gate : HelperGate)
  /-- An error that the host raised. -/
  | failure (message : String)
  /-- One of the standard streams. -/
  | stream (isError : Bool)

/-- How a function was called: what kind of name it had there, and the name. -/
structure CallName where
  kind : String
  name : Bytes

structure Frame where
  /-- The script, or none for a function of the library. -/
  chunk : Option Bytes
  line : Nat
  called : Option CallName

inductive ThreadStatus where
  | suspended
  | running
  | waiting
  | dead
deriving DecidableEq

structure ThreadObject where
  function : Value
  status : ThreadStatus

/-- What the script reaches outside itself. -/
structure Surroundings where
  environment : Environment
  readFile : Bytes → Except FileFailure Bytes

structure Machine where
  tables : Array TableObject
  functions : Array FunctionObject
  threads : Array ThreadObject
  objects : Array HostObject
  cells : Array Value
  frames : List Frame
  /-- The threads that are running or waiting for one another, the innermost first. -/
  running : List Nat
  globals : Nat
  /-- The metatable of all texts. -/
  textMetatable : Option Nat
  /-- What was written to the standard output and to the error output. -/
  written : List Bytes
  complained : List Bytes
  random : UInt64 × UInt64 × UInt64 × UInt64
  surroundings : Surroundings

end TemplateBuild.Lua

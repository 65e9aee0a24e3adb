import TemplateBuild.Lua.Interpreter
import TemplateBuild.Sandbox.Error
import TemplateBuild.Sandbox.Output

/-!
# Scripts and their host

The host loads scripts, calls their functions, and takes texts from them.  What goes wrong
becomes a message, and the machine stays as the script left it.
-/

set_option autoImplicit false

namespace TemplateBuild.Lua.Host

open Action

/-- What follows the message of an error that came up while functions were running.  Which
ones they were is not told. -/
def callers : String :=
  "\nstack traceback:\n\t[C]: in ?"

/-- A step that the host has the machine take. -/
abbrev Step (α : Type) := ExceptT String (StateM Machine) α

/-- The text of a raised error, as far as a zero byte. -/
def faultText (error : Value) (machine : Machine) : String × Machine :=
  let shown := fun (text : Bytes) =>
    "runtime error: " ++ Bytes.toStringLossy (text.takeWhile (· ≠ 0)) ++ callers
  let host := match error with
    | .object address =>
      match machine.objects[address]? with
      | some (.failure message) => some (message ++ callers ++ "\n")
      | _ => none
    | _ => none
  match host with
  | some message => (message, machine)
  | none =>
    match machine.run fun i => do return [.text (← Operator.display i error)] with
    | (.done [.text text], machine) => (shown text, machine)
    | (_, machine) => (shown [], machine)

/-- Runs an action; an error of any kind becomes a message. -/
def perform (action : Interpreter → Action (List Value)) : Step (List Value) :=
  fun machine =>
    match machine.run action with
    | (.done values, machine) => (.ok values, machine)
    | (.raised error, machine) =>
      let (message, machine) := faultText error machine
      (.error message, machine)
    | (.exhausted, machine) => (.error "runtime error: not enough memory", machine)

/-- The first result of an action. -/
def ask (action : Interpreter → Action Value) : Step Value := do
  return Operator.firstOf (← perform fun i => do return [← action i])

/-- Calls a script whose body has been read. -/
def runBody (body : Body) (chunk : Bytes) : Step (List Value) :=
  perform fun i => do
    i.call (← newFunction (.closure body ⟨[], []⟩ chunk)) [] none

def syntaxText (chunk : Bytes) (fault : SyntaxFault) : String :=
  "syntax error: " ++ Bytes.toStringLossy (Library.Scripts.faultText chunk fault)

/-- Runs a script as statements. -/
def execute (source : Bytes) (name : Bytes) : Step (List Value) :=
  let chunk := Chunk.ofFile name
  match parse source with
  | .ok body => runBody body chunk
  | .error fault => throw (syntaxText chunk fault)

/-- Runs a script as an expression if it is one, else as statements. -/
def evaluate (source : Bytes) (name : Bytes) : Step (List Value) :=
  match parse (Bytes.ofString "return " ++ source) with
  | .ok body => runBody body (Chunk.ofFile name)
  | .error _ => execute source name

/-- What the machine's scripts have written, and the machine with nothing written. -/
def takeOutput (machine : Machine) : ScriptOutput × Machine :=
  (⟨machine.written.reverse.flatten, machine.complained.reverse.flatten⟩,
    { machine with written := [], complained := [] })

/-! ## Conversions -/

/-- The name of a type for the host, which tells whole numbers from others. -/
def hostKind : Value → String
  | .integer _ => "integer"
  | value => value.typeName

def refuse {α : Type} (value : Value) (wanted : String) : Step α :=
  throw ("error converting Lua " ++ hostKind value ++ " to " ++ wanted)

/-- A result has to be a text or a number. -/
def toText (value : Value) : Step String :=
  match Operator.textOf? value with
  | none => refuse value "String (expected string or number)"
  | some text =>
    match Utf8.decode text with
    | .ok characters => return String.ofList characters
    | .error fault => refuse value ("String (" ++ fault.message ++ ")")

def toTable (value : Value) : Step Value :=
  match value with
  | .table _ => return value
  | _ => refuse value "table"

def toFunction (value : Value) : Step Value :=
  match value with
  | .function _ => return value
  | _ => refuse value "function"

/-! ## Engines -/

/-- The global object of the engine, which may come from a metatable. -/
def entry : Step Value :=
  ask fun i => do Operator.index i (.table (← machine).globals) (.string entryObject) none

/-- What a table has under the name of the entry function. -/
def entryMember (object : Value) : Step Value :=
  ask fun i => Operator.index i object (.string entryFunction) none

def hasEntry : Step Bool := do
  match ← entry with
  | .table address =>
    match ← entryMember (.table address) with
    | .function _ => return true
    | _ => return false
  | _ => return false

/-- The options that an engine is given: the gate, and a mark if unknown helpers are errors. -/
def options (gate : HelperGate) : Action Value := do
  let object ← newTable Table.empty
  if let .table address := object then
    rawSetNamed address "knownHelpers" (← newObject (.gate gate))
    if gate.strictOnly then rawSetNamed address "knownHelpersOnly" (.boolean true)
  return object

/-- Runs an engine's script and makes sure that it defines the entry function. -/
def load (engine : String) (source : Bytes) : Except SandboxError Unit × Machine :=
  let attempt : Step Bool := do
    let _ ← execute source (Bytes.ofString engine)
    hasEntry
  match attempt.run Machine.restricted with
  | (.ok true, machine) => (.ok (), machine)
  | (.ok false, machine) => (.error (.missingEntry engine), machine)
  | (.error fault, machine) => (.error (.load engine fault), machine)

/-- Compiles a template to a fragment. -/
def compile (template : String) (gate : HelperGate) : Step String := do
  let object ← toTable (← entry)
  let function ← toFunction (← entryMember object)
  let results ← perform fun i => do
    i.call function [.string template, ← options gate] none
  toText (Operator.firstOf results)

end TemplateBuild.Lua.Host

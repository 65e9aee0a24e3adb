import TemplateBuild.JavaScript.Library.Basic

/-!
# Functions on functions, and errors

Calling with a given `this`, binding arguments, and making functions from texts.
-/

set_option autoImplicit false

namespace TemplateBuild.JavaScript.Library.Functions

open Action hiding pure bind

def call : Builtin := fun i call =>
  i.call call.this (call.argument 0) (call.arguments.drop 1)

/-- The elements of a list of arguments. -/
def spread (i : Interpreter) (value : Value) : Action (List Value) := do
  match value with
  | .undefined => return []
  | .null => return []
  | .object address =>
    match Property.elementsOf? (← objectAt address).kind with
    | some elements => return elements.toList.map (·.getD .undefined)
    | none =>
      let length ← Operator.toWhole i (← Access.get i value Property.lengthKey)
      Access.listFrom i value length.toNat 0
  | _ => typeFault "arguments list is not an object"

def apply : Builtin := fun i call => do
  i.call call.this (call.argument 0) (← spread i (call.argument 1))

/-- The name under which bound functions are known. -/
def boundName : String := "bound"

def bind_ : Builtin := fun _ call => do
  let function ← callback call.this
  newBuiltin boundName (function :: call.argument 0 :: call.arguments.drop 1)

/-- Runs a bound function: its own arguments come first. -/
def bound : Builtin := fun i call =>
  match call.held with
  | function :: this :: first => i.call function this (first ++ call.arguments)
  | _ => Step.notCallable

def toText : Builtin := fun _ call => do
  match call.this with
  | .object address =>
    match (← objectAt address).kind with
    | .closure code _ _ _ =>
      return .text (Units.ofString "function " ++ code.name.getD #[] ++
        Units.ofString "() \x7b [native code] \x7d")
    | .builtin _ _ => return .string "function () \x7b [native code] \x7d"
    | _ => typeFault "not a function"
  | _ => typeFault "not a function"

def joined (i : Interpreter) : List Value → Action Units
  | [] => return #[]
  | [last] => Operator.toText i last
  | first :: rest => do
    let text ← Operator.toText i first
    return text ++ Units.ofString "," ++ (← joined i rest)

/-- Makes a function from the texts of its parameters and of its body. -/
def construct : Builtin := fun i call => do
  let parameters ← joined i call.arguments.dropLast
  let body ← match call.arguments.getLast? with
    | some value => Operator.toText i value
    | none => pure #[]
  let source := Units.ofString "(function anonymous(" ++ parameters ++ Units.ofString "\n) \x7b\n" ++
    body ++ Units.ofString "\n\x7d)"
  Step.evaluateText i ⟨globalScope, globalScope, false⟩ source

def nothing : Builtin := fun _ _ => return .undefined

def methods : Group := ⟨"Function.prototype",
  [("apply", apply), ("bind", bind_), ("call", call), ("toString", toText)]⟩

/-! ## Errors -/

def errorConstruct (kind : ErrorKind) : Builtin := fun i call => do
  let fallback ← errorPrototype kind
  let prototype ← match call.newTarget with
    | some target => Step.prototypeFor i target fallback
    | none => pure fallback
  let address ← newObject .failure (some prototype)
  match call.argument 0 with
  | .undefined => pure ()
  | value => storeHidden address "message" (.text (← Operator.toText i value))
  match call.argument 1 with
  | .object options =>
    if ← Access.has options (Units.ofString "cause") then
      storeHidden address "cause" (← Access.getNamed i (.object options) "cause")
  | _ => pure ()
  return .object address

def textOr (i : Interpreter) (value : Value) (default : String) : Action Units :=
  match value with
  | .undefined => return Units.ofString default
  | value => Operator.toText i value

/-- Name and message with a colon between them, if neither is empty. -/
def errorText : Builtin := fun i call => do
  let _ ← objectArgument call.this
  let name ← textOr i (← Access.getNamed i call.this "name") "Error"
  let message ← textOr i (← Access.getNamed i call.this "message") ""
  if name.isEmpty then return .text message
  else if message.isEmpty then return .text name
  else return .text (name ++ Units.ofString ": " ++ message)

def errorMethods : Group := ⟨"Error.prototype", [("toString", errorText)]⟩

end TemplateBuild.JavaScript.Library.Functions

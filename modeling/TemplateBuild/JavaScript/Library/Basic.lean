import TemplateBuild.JavaScript.Evaluation

/-!
# Arguments of library functions

Functions of the library are known by the name of their owner and their own.
-/

set_option autoImplicit false

namespace TemplateBuild.JavaScript

def Invocation.argument (invocation : Invocation) (number : Nat) : Value :=
  (invocation.arguments[number]?).getD .undefined

namespace Library

open Action hiding pure bind

/-- The functions of an owner by name. -/
structure Group where
  owner : String
  functions : List (String × Builtin)

def Group.qualified (group : Group) : List (String × Builtin) :=
  group.functions.map fun (name, function) => (group.owner ++ "." ++ name, function)

/-- A place in a list of some length; negative places count from the end. -/
def placeFrom (place : Int) (length : Nat) : Nat :=
  if place < 0 then (place + length).toNat else min place.toNat length

/-- The place that an argument gives, or a default where it is missing. -/
def placeArgument (i : Interpreter) (invocation : Invocation) (number length default : Nat) :
    Action Nat := do
  match invocation.argument number with
  | .undefined => return default
  | value => return placeFrom (← Operator.toWhole i value) length

def textArgument (i : Interpreter) (invocation : Invocation) (number : Nat) : Action Units :=
  Operator.toText i (invocation.argument number)

def numberArgument (i : Interpreter) (invocation : Invocation) (number : Nat) : Action Float :=
  Operator.toNumber i (invocation.argument number)

/-- A function that is to be called back. -/
def callback (value : Value) : Action Value := do
  if ← Access.isCallable value then return value
  typeFault "argument is not a function"

/-- The object of the invocation, whatever kind it was called on. -/
def objectArgument (value : Value) : Action Nat := do
  match value with
  | .object address => return address
  | _ => typeFault "argument is not an object"

end Library

end TemplateBuild.JavaScript

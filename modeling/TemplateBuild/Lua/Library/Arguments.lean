import TemplateBuild.Lua.Evaluation

/-!
# Arguments of library functions

Reading arguments by position, with the messages for those of a wrong kind.  Numbers pass for
texts and texts that spell numbers for numbers.
-/

set_option autoImplicit false

namespace TemplateBuild.Lua.Argument

open Action

/-- Raises the message that an argument is bad.  A method does not count its object. -/
def refuse {α : Type} (number : Nat) (reason : String) : Action α := do
  let called := match (← machine).frames with
    | frame :: _ => frame.called
    | [] => none
  match called with
  | some ⟨"method", name⟩ =>
    if number = 1 then callerFault ("calling '" ++ name.toStringLossy ++ "' on bad self")
    else callerFault ("bad argument #" ++ toString (number - 1) ++ " to '" ++
      name.toStringLossy ++ "' (" ++ reason ++ ")")
  | some ⟨_, name⟩ =>
    callerFault ("bad argument #" ++ toString number ++ " to '" ++ name.toStringLossy ++
      "' (" ++ reason ++ ")")
  | none => callerFault ("bad argument #" ++ toString number ++ " to '?' (" ++ reason ++ ")")

def given (arguments : List Value) (number : Nat) : Option Value :=
  arguments[number - 1]?

def value (arguments : List Value) (number : Nat) : Value :=
  (given arguments number).getD .nil

def isAbsent (arguments : List Value) (number : Nat) : Bool :=
  (value arguments number).isNil

def expected {α : Type} (arguments : List Value) (number : Nat) (wanted : String) : Action α := do
  match given arguments number with
  | none => refuse number (wanted ++ " expected, got no value")
  | some value => refuse number (wanted ++ " expected, got " ++ (← shownType value))

def any (arguments : List Value) (number : Nat) : Action Value := do
  match given arguments number with
  | some value => return value
  | none => refuse number "value expected"

def number (arguments : List Value) (position : Nat) : Action Number := do
  match Operator.coerced? (value arguments position) with
  | some number => return number
  | none => expected arguments position "number"

def float (arguments : List Value) (position : Nat) : Action Float := do
  return Operator.asFloat (← number arguments position)

def integer (arguments : List Value) (position : Nat) : Action Int := do
  match Operator.coerced? (value arguments position) with
  | some number =>
    match Operator.asWhole? number with
    | some whole => return whole.toInt
    | none => refuse position "number has no integer representation"
  | none => expected arguments position "number"

def integerOr (arguments : List Value) (position : Nat) (default : Int) : Action Int :=
  if isAbsent arguments position then return default else integer arguments position

def text (arguments : List Value) (position : Nat) : Action Bytes := do
  match Operator.textOf? (value arguments position) with
  | some text => return text
  | none => expected arguments position "string"

def textOr (arguments : List Value) (position : Nat) (default : Bytes) : Action Bytes :=
  if isAbsent arguments position then return default else text arguments position

/-- The address of a table. -/
def table (arguments : List Value) (position : Nat) : Action Nat := do
  match value arguments position with
  | .table address => return address
  | _ => expected arguments position "table"

def function (arguments : List Value) (position : Nat) : Action Value := do
  match value arguments position with
  | .function address => return .function address
  | _ => expected arguments position "function"

end TemplateBuild.Lua.Argument

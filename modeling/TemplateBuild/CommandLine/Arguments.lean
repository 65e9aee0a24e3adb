import TemplateBuild.CommandLine.UsageError

/-!
# Reading arguments

Arguments are read one after the other.  A setting takes its value from its own argument or
from the next one; an argument that begins with a dash is never a value.  A value is checked
when the next parameter begins or the arguments end, so a fault of the argument itself comes
before a fault of the value before it.
-/

set_option autoImplicit false

namespace TemplateBuild.CommandLine

/-- What arguments are read against. -/
structure Scope where
  parameters : List Parameter
  /-- The commands that may be named. -/
  commands : List String
deriving DecidableEq, Repr

namespace Scope

def named? (scope : Scope) (name : String) : Option Parameter :=
  scope.parameters.find? fun parameter => parameter.name == name

def lettered? (scope : Scope) (letter : Char) : Option Parameter :=
  scope.parameters.find? fun parameter => parameter.letter == some letter

def command? (scope : Scope) (argument : Bytes) : Option String :=
  argument.toString?.filter scope.commands.contains

end Scope

/-- A setting whose value has not been checked, or has not been seen. -/
structure Pending where
  parameter : Parameter
  value : Option Bytes
deriving DecidableEq, Repr

structure ReadState where
  given : List Given
  pending : Option Pending
deriving DecidableEq, Repr

namespace ReadState

def initial : ReadState :=
  ⟨[], none⟩

/-- Whether the next argument may be a value. -/
def awaitsValue (state : ReadState) : Bool :=
  match state.pending with
  | some pending => pending.value.isNone
  | none => false

def isGiven (state : ReadState) (parameter : Parameter) : Bool :=
  state.given.any fun given => given.parameter == parameter

end ReadState

/-- Where reading ends. -/
inductive ReadEnd where
  | complete (given : List Given)
  | command (name : String) (given : List Given) (rest : List Bytes)
  | help
  | version

abbrev Reading (α : Type) := Except UsageError α

/-! ## Values -/

def readText (value : Bytes) : Reading String :=
  match value.toString? with
  | some text => .ok text
  | none => .error .notText

def readValue (parameter : Parameter) (value : Bytes) : ValueForm → Reading ParameterValue
  | .text => (readText value).map .text
  | .path => if value.isEmpty then .error (.missingValue parameter) else .ok (.path ⟨value⟩)
  | .duration => do
    let text ← readText value
    match Duration.read text with
    | .ok duration => return .duration duration
    | .error fault => throw (.malformedDuration text parameter fault)
  | .format => do
    let text ← readText value
    match OutputFormat.ofLabel? text with
    | some format => return .format format
    | none => throw (.refusedValue text parameter)

/-! ## Parameters -/

/-- Adds a parameter with its value, unless it is there already and may not be repeated. -/
def addGiven (state : ReadState) (parameter : Parameter) (value : Reading ParameterValue) :
    Reading ReadState := do
  if state.isGiven parameter && !parameter.isRepeatable then throw (.repeated parameter)
  return { state with given := state.given ++ [⟨parameter, ← value⟩] }

def addSetting (state : ReadState) (parameter : Parameter) (value : Bytes) :
    Reading ReadState :=
  match parameter.meaning with
  | .setting _ form _ => addGiven state parameter (readValue parameter value form)
  | _ => .error (.unexpectedValue value.toStringLossy parameter)

/-- Checks the pending value. -/
def settle (state : ReadState) : Reading ReadState :=
  match state.pending with
  | none => .ok state
  | some ⟨parameter, none⟩ => .error (.missingValue parameter)
  | some ⟨parameter, some value⟩ => addSetting { state with pending := none } parameter value

/-- A setting that begins, perhaps with its value. -/
def beginSetting (state : ReadState) (parameter : Parameter) (value : Option Bytes) :
    Reading ReadState := do
  let state ← settle state
  match value with
  | some value => addSetting state parameter value
  | none => return { state with pending := some ⟨parameter, none⟩ }

/-- What a parameter without a value leads to. -/
inductive Reaction where
  | proceed (state : ReadState)
  | finish (outcome : ReadEnd)

def react (state : ReadState) (parameter : Parameter) : Reading Reaction := do
  let state ← settle state
  match parameter.meaning with
  | .help => return .finish .help
  | .version => return .finish .version
  | _ => return .proceed (← addGiven state parameter (.ok .mark))

/-! ## Arguments -/

def dash : UInt8 := 0x2D

def equalsSign : UInt8 := 0x3D

/-- The name and the attached value of an argument that begins with two dashes. -/
def longForm? : Bytes → Option (Bytes × Option Bytes)
  | first :: second :: name :: rest =>
    if first = dash ∧ second = dash then
      match (name :: rest).span (· ≠ equalsSign) with
      | (name, _ :: value) => some (name, some value)
      | (name, []) => some (name, none)
    else none
  | _ => none

/-- The letters of an argument that begins with one dash. -/
def shortForm? : Bytes → Option Bytes
  | first :: second :: rest =>
    if first = dash ∧ second ≠ dash then some (second :: rest) else none
  | _ => none

def isSeparator (argument : Bytes) : Bool :=
  argument = [dash, dash]

def readLong (scope : Scope) (state : ReadState) (name : Bytes) (value : Option Bytes) :
    Reading Reaction :=
  match name.toString?.bind scope.named? with
  | none => .error (.unexpectedArgument ("--" ++ name.toStringLossy))
  | some parameter =>
    match parameter.meaning, value with
    | .setting _ _ _, value => (beginSetting state parameter value).map .proceed
    | _, some value => .error (.unexpectedValue value.toStringLossy parameter)
    | _, none => react state parameter

/-- The value behind a letter, without an equals sign that comes first. -/
def attachedValue (rest : Bytes) : Option Bytes :=
  match rest with
  | [] => none
  | first :: others => if first = equalsSign then some others else some rest

/-- Letters up to the first that takes a value; what follows that one is its value. -/
def readLetters (scope : Scope) (state : ReadState) (broken : Bytes) :
    List Char → Reading Reaction
  | [] =>
    if broken.isEmpty then .ok (.proceed state)
    else .error (.unexpectedArgument ("-" ++ broken.toStringLossy))
  | letter :: rest =>
    match scope.lettered? letter with
    | none => .error (.unexpectedArgument ("-" ++ String.ofList [letter]))
    | some parameter =>
      match parameter.meaning with
      | .setting _ _ _ =>
        let value := attachedValue (Bytes.ofString (String.ofList rest) ++ broken)
        (beginSetting state parameter value).map .proceed
      | _ => do
        match ← react state parameter with
        | .finish outcome => return .finish outcome
        | .proceed state => readLetters scope state broken rest

/-- The characters that a text begins with, and the bytes from the first fault on. -/
def splitBroken (bytes : Bytes) : List Char × Bytes :=
  match Utf8.decode bytes with
  | .ok characters => (characters, [])
  | .error fault =>
    match Utf8.decode (bytes.take fault.offset) with
    | .ok characters => (characters, bytes.drop fault.offset)
    | .error _ => ([], bytes)

/-- An argument that is neither a parameter nor a value. -/
def stray (scope : Scope) (argument : Bytes) (isLast : Bool) : UsageError :=
  if scope.commands.isEmpty || isLast && (scope.command? argument).isSome then
    .unexpectedArgument argument.toStringLossy
  else .unknownCommand argument.toStringLossy

/-- Reads an argument that is not the name of a command. -/
def readArgument (scope : Scope) (state : ReadState) (argument : Bytes) : Reading Reaction :=
  match longForm? argument, shortForm? argument with
  | some (name, value), _ => readLong scope state name value
  | none, some letters =>
    let (characters, broken) := splitBroken letters
    readLetters scope state broken characters
  | none, none =>
    match state.pending with
    | some ⟨parameter, none⟩ =>
      .ok (.proceed { state with pending := some ⟨parameter, some argument⟩ })
    | _ => .error (stray scope argument false)

/-- Nothing may follow the separator. -/
def readAfterSeparator (scope : Scope) (state : ReadState) : List Bytes → Reading ReadEnd
  | [] => do return .complete (← settle state).given
  | argument :: _ => .error (stray scope argument true)

def readArguments (scope : Scope) (state : ReadState) : List Bytes → Reading ReadEnd
  | [] => do return .complete (← settle state).given
  | argument :: rest =>
    match if state.awaitsValue then none else scope.command? argument with
    | some name => do return .command name (← settle state).given rest
    | none =>
      if isSeparator argument then readAfterSeparator scope state rest
      else
        match readArgument scope state argument with
        | .error error => .error error
        | .ok (.finish outcome) => .ok outcome
        | .ok (.proceed state) => readArguments scope state rest

end TemplateBuild.CommandLine

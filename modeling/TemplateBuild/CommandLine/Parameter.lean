import TemplateBuild.Duration
import TemplateBuild.Path

/-!
# Parameters of commands

A parameter has a long name, perhaps a letter, and a meaning: a switch, a counter, a request
for help or for the version, or a setting with a value.
-/

set_option autoImplicit false

namespace TemplateBuild.CommandLine

/-- How results are shown. -/
inductive OutputFormat where
  | text
  | json
deriving DecidableEq, Repr

namespace OutputFormat

def label : OutputFormat → String
  | .text => "text"
  | .json => "json"

def ofLabel? (label : String) : Option OutputFormat :=
  if label = "text" then some .text else if label = "json" then some .json else none

end OutputFormat

/-- What a value is read as. -/
inductive ValueForm where
  | text
  | path
  | duration
  | format
deriving DecidableEq, Repr

inductive Meaning where
  /-- Given or not. -/
  | switch
  /-- Counts how often it is given. -/
  | counter
  | help
  | version
  /-- Takes a value, shown under a name; may be given again if it is a list. -/
  | setting (valueName : String) (form : ValueForm) (isList : Bool)
deriving DecidableEq, Repr

structure Parameter where
  name : String
  letter : Option Char
  meaning : Meaning
  summary : String
deriving DecidableEq, Repr

namespace Parameter

/-- The parameter as messages show it. -/
def shown (parameter : Parameter) : String :=
  match parameter.meaning with
  | .setting valueName _ _ => "--" ++ parameter.name ++ " <" ++ valueName ++ ">"
  | .counter => "--" ++ parameter.name ++ "..."
  | _ => "--" ++ parameter.name

/-- Whether the parameter may be given more than once. -/
def isRepeatable (parameter : Parameter) : Bool :=
  match parameter.meaning with
  | .setting _ _ isList => isList
  | .counter => true
  | _ => false

end Parameter

/-- A value as it was read. -/
inductive ParameterValue where
  /-- The parameter was given, and takes no value. -/
  | mark
  | text (value : String)
  | path (value : Path)
  | duration (value : Duration)
  | format (value : OutputFormat)
deriving DecidableEq, Repr

/-- A parameter that was given. -/
structure Given where
  parameter : Parameter
  value : ParameterValue
deriving DecidableEq, Repr

end TemplateBuild.CommandLine

import TemplateBuild.CommandLine.Parameter
import TemplateBuild.Duration.Reading

/-!
# Why arguments are not understood
-/

set_option autoImplicit false

namespace TemplateBuild.CommandLine

inductive UsageError where
  /-- Nothing was given where a command is needed. -/
  | noArguments
  /-- Parameters were given, but no command. -/
  | missingCommand (program : String)
  | unknownCommand (name : String)
  | unexpectedArgument (argument : String)
  | missingValue (parameter : Parameter)
  | unexpectedValue (value : String) (parameter : Parameter)
  /-- A value that is none of those allowed. -/
  | refusedValue (value : String) (parameter : Parameter)
  | malformedDuration (value : String) (parameter : Parameter) (fault : DurationFault)
  | repeated (parameter : Parameter)
  | conflict (first second : Parameter)
  /-- An argument that has to be text and is not UTF-8. -/
  | notText
deriving DecidableEq, Repr

def UsageError.message : UsageError → String
  | .noArguments => "a command is needed"
  | .missingCommand program =>
    "'" ++ program ++ "' requires a subcommand but one was not provided"
  | .unknownCommand name => "unrecognized subcommand '" ++ name ++ "'"
  | .unexpectedArgument argument => "unexpected argument '" ++ argument ++ "' found"
  | .missingValue parameter =>
    "a value is required for '" ++ parameter.shown ++ "' but none was supplied"
  | .unexpectedValue value parameter =>
    "unexpected value '" ++ value ++ "' for '" ++ parameter.shown ++
      "' found; no more were expected"
  | .refusedValue value parameter =>
    if value = "" then
      "a value is required for '" ++ parameter.shown ++ "' but none was supplied"
    else "invalid value '" ++ value ++ "' for '" ++ parameter.shown ++ "'"
  | .malformedDuration value parameter fault =>
    "invalid value '" ++ value ++ "' for '" ++ parameter.shown ++ "': " ++ fault.message
  | .repeated parameter =>
    "the argument '" ++ parameter.shown ++ "' cannot be used multiple times"
  | .conflict first second =>
    "the argument '" ++ first.shown ++ "' cannot be used with '" ++ second.shown ++ "'"
  | .notText => "invalid UTF-8 was detected in one or more arguments"

end TemplateBuild.CommandLine

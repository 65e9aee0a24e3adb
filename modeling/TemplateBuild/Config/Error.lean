import TemplateBuild.FileTree.Failure
import TemplateBuild.Path

/-!
# Errors of configuration
-/

set_option autoImplicit false

namespace TemplateBuild

inductive ConfigError where
  | notFound (path : Path)
  | unreadable (path : Path) (failure : FileFailure)
  /-- The script failed; `fault` is the interpreter's message. -/
  | evaluation (path : Path) (fault : String)
  | notATable (path : Path)
  | unknownKey (key : String)
  /-- `fault` is the reason together with what the interpreter said, if it did. -/
  | invalidValue (key : String) (fault : String)
  | unknownEncoding (label : String)
  | missingSource
  | conflictingRemote
  | invalidUrlTemplate (template : String)
  /-- Seconds that exceed what a duration can hold. -/
  | durationOverflow
deriving DecidableEq, Repr

namespace ConfigError

def message : ConfigError → String
  | .notFound path => "config file not found: " ++ path.display
  | .unreadable path failure =>
    "failed to read config file " ++ path.display ++ ": " ++ failure.message
  | .evaluation path fault => "failed to evaluate config file " ++ path.display ++ ": " ++ fault
  | .notATable path => "config file " ++ path.display ++ " must return a table"
  | .unknownKey key => "unknown config key '" ++ key ++ "'"
  | .invalidValue key fault => "invalid value for '" ++ key ++ "': " ++ fault
  | .unknownEncoding label => "unknown encoding '" ++ label ++ "'"
  | .missingSource => "no source directory configured"
  | .conflictingRemote => "engineUrl and engineUrlTemplate are mutually exclusive"
  | .invalidUrlTemplate template =>
    "engine URL template '" ++ template ++ "' has no \x7bname\x7d placeholder"
  | .durationOverflow =>
    "cannot convert float seconds to Duration: value is either too big or NaN"

/-- What lies behind the error. -/
def causes : ConfigError → List String
  | .unreadable _ failure => [failure.message]
  | _ => []

end ConfigError

end TemplateBuild

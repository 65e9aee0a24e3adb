import TemplateBuild.FileTree.Failure
import TemplateBuild.Path

/-!
# Why a template is not reached or not read
-/

set_option autoImplicit false

namespace TemplateBuild

inductive WalkError where
  | traverse (path : Path) (failure : FileFailure)
  | listing (path : Path) (failure : FileFailure)
  | unreadable (path : Path) (failure : FileFailure)
  /-- The file is not in the encoding of this name. -/
  | undecodable (path : Path) (encoding : String)
deriving DecidableEq, Repr

namespace WalkError

def operationText (path : Path) (failure : FileFailure) : String :=
  "IO error for operation on " ++ path.display ++ ": " ++ failure.message

def message : WalkError → String
  | .traverse path failure =>
    "failed to traverse " ++ path.display ++ ": " ++ operationText path failure
  | .listing path failure =>
    "failed to list directory " ++ path.display ++ ": " ++ failure.message
  | .unreadable path failure =>
    "failed to read template " ++ path.display ++ ": " ++ failure.message
  | .undecodable path encoding => "template " ++ path.display ++ " is not valid " ++ encoding

/-- What lies behind the error, from the outer to the inner. -/
def causes : WalkError → List String
  | .traverse path failure => [operationText path failure, failure.message]
  | .listing _ failure => [failure.message]
  | .unreadable _ failure => [failure.message]
  | .undecodable _ _ => []

end WalkError

end TemplateBuild

import TemplateBuild.Engine.Error
import TemplateBuild.Module.Writer
import TemplateBuild.Sandbox.Error
import TemplateBuild.Walk.Error

/-!
# Why a run fails
-/

set_option autoImplicit false

namespace TemplateBuild

/-- A template that the engine rejected; `fault` is the engine's message. -/
structure CompileFailure where
  template : Path
  bundle : Path
  fault : String
deriving DecidableEq, Repr

inductive RunError where
  | source (path : Path) (failure : FileFailure)
  | notDirectory (path : Path)
  | output (path : Path) (failure : FileFailure)
  | provision (engine : String) (error : ProvisionError)
  | sandbox (error : SandboxError)
  | walk (error : WalkError)
  | rejected (engine : String) (failure : CompileFailure)
  | failures (failures : List CompileFailure)
  | assemble (error : AssembleError)
  | cancelled
deriving DecidableEq, Repr

namespace RunError

def message : RunError → String
  | .source path failure =>
    "source directory " ++ path.display ++ " is not accessible: " ++ failure.message
  | .notDirectory path => "source path " ++ path.display ++ " is not a directory"
  | .output path failure =>
    "failed to create output directory " ++ path.display ++ ": " ++ failure.message
  | .provision engine error =>
    "failed to provision engine '" ++ engine ++ "': " ++ error.message
  | .sandbox error => error.message
  | .walk error => error.message
  | .rejected engine failure =>
    "engine '" ++ engine ++ "' failed to compile " ++ failure.template.display ++ ": " ++
      failure.fault
  | .failures rejections => toString rejections.length ++ " template(s) failed to compile"
  | .assemble error => error.message
  | .cancelled => "precompilation cancelled"

/-- What lies behind the error, from the outer to the inner. -/
def causes : RunError → List String
  | .source _ failure => [failure.message]
  | .output _ failure => [failure.message]
  | .provision _ error => error.message :: error.causes
  | .sandbox (.unreadable _ failure) => [failure.message]
  | .walk error => error.causes
  | .rejected _ failure => [failure.fault]
  | .assemble error => error.causes
  | _ => []

end RunError

end TemplateBuild

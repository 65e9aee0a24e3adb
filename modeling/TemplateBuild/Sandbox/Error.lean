import TemplateBuild.FileTree.Failure
import TemplateBuild.Path

/-!
# Why an engine cannot be used
-/

set_option autoImplicit false

namespace TemplateBuild

/-- What engines have to define: an object, and in it a function. -/
def entryObject : String := "Handlebars"

def entryFunction : String := "precompile"

inductive SandboxError where
  | unreadable (path : Path) (failure : FileFailure)
  /-- The script failed while it was loaded; `fault` is the interpreter's message. -/
  | load (engine fault : String)
  | missingEntry (engine : String)
deriving DecidableEq, Repr

def SandboxError.message : SandboxError → String
  | .unreadable path failure =>
    "failed to read engine script " ++ path.display ++ ": " ++ failure.message
  | .load engine fault => "failed to load engine '" ++ engine ++ "': " ++ fault
  | .missingEntry engine =>
    "engine '" ++ engine ++ "' does not define " ++ entryObject ++ "." ++ entryFunction

end TemplateBuild

import TemplateBuild.Encoding.Encode
import TemplateBuild.Module.Text
import TemplateBuild.Walk.Bundle
import TemplateBuild.World

/-!
# Writing modules

A module is written in the configured encoding, to a temporary file in the directory of the
output file that then takes its place.  Directories that are missing are created.
-/

set_option autoImplicit false

namespace TemplateBuild

inductive AssembleError where
  | directory (path : Path) (failure : FileFailure)
  | write (path : Path) (failure : FileFailure)
  /-- The module has characters that the encoding of this name has not. -/
  | unencodable (path : Path) (encoding : String)
deriving DecidableEq, Repr

namespace AssembleError

def message : AssembleError → String
  | .directory path failure =>
    "failed to create output directory " ++ path.display ++ ": " ++ failure.message
  | .write path failure =>
    "failed to write output file " ++ path.display ++ ": " ++ failure.message
  | .unencodable path encoding =>
    "output file " ++ path.display ++ " contains characters not representable in " ++ encoding

/-- What lies behind the error. -/
def causes : AssembleError → List String
  | .directory _ failure => [failure.message]
  | .write _ failure => [failure.message]
  | .unencodable _ _ => []

end AssembleError

/-- A module that was written, or would have been. -/
structure AssembledModule where
  path : Path
  /-- The names in the order in which they are registered. -/
  templates : List String
deriving DecidableEq, Repr

namespace AssembledModule

def of (bundle : Bundle) (templates : List CompiledTemplate) : AssembledModule :=
  ⟨bundle.outputFile, templates.map (·.logicalName)⟩

end AssembledModule

namespace ModuleText

/-- Writes a text to a path in an encoding. -/
def write (path : Path) (text : String) (encoding : Encoding) : Effect AssembleError Unit := do
  match encoding.encode text.toList with
  | none => throw (.unencodable path encoding.name)
  | some content =>
    let directory := path.directory
    Effect.change (.directory directory) fun files => files.makeDirectories directory
    Effect.change (.write path) fun files => files.replaceFile directory path content

/-- Writes the module of a bundle. -/
def assemble (bundle : Bundle) (templates : List CompiledTemplate) (encoding : Encoding) :
    Effect AssembleError AssembledModule := do
  write bundle.outputFile (render templates) encoding
  return AssembledModule.of bundle templates

end ModuleText

end TemplateBuild

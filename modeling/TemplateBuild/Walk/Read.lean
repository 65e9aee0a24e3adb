import TemplateBuild.Encoding.Decode
import TemplateBuild.FileTree.Reading
import TemplateBuild.Walk.Bundle
import TemplateBuild.Walk.Error

/-!
# Reading templates
-/

set_option autoImplicit false

namespace TemplateBuild.TemplateSource

/-- The text of a template; a file that is not in the encoding is an error. -/
def readText (source : TemplateSource) (files : FileTree) (encoding : Encoding) :
    Except WalkError String :=
  match files.contentOf source.path with
  | .error failure => .error (.unreadable source.path failure)
  | .ok content =>
    match encoding.decode content with
    | none => .error (.undecodable source.path encoding.name)
    | some text => .ok (String.ofList text)

end TemplateBuild.TemplateSource

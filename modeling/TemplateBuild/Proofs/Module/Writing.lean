import TemplateBuild.Proofs.Encoding.RoundTrip
import TemplateBuild.Proofs.FileTree.Above
import TemplateBuild.Proofs.Module.Encoded

/-!
# Writing all of a module or nothing

Whatever step of writing a module fails, for whatever reason, what was there is as before.  Where
none fails, the module lies where its path led.
-/

set_option autoImplicit false

namespace TemplateBuild.ModuleText

open FileTree

/-- What writing a text may come to, if the system may refuse any step of it. -/
inductive Writes (path : Path) (text : String) (encoding : Encoding) (before : FileTree) :
    Except AssembleError Unit → FileTree → Prop
  | unencodable : encoding.encode text.toList = none →
      Writes path text encoding before (.error (.unencodable path encoding.name)) before
  | noDirectory {content : Bytes} {failure : FileFailure} {after : FileTree} :
      encoding.encode text.toList = some content →
      before.Makes path.directory (.error failure) after →
      Writes path text encoding before (.error (.directory path.directory failure)) after
  | replaces {content : Bytes} {middle after : FileTree} {result : Except FileFailure Unit} :
      encoding.encode text.toList = some content → before.Makes path.directory (.ok ()) middle →
      middle.Replaces path.directory path content result after →
      Writes path text encoding before (result.mapError (.write path)) after

/-- The directory is reached by a link that has the name of the module. -/
def linkedFiles : FileTree :=
  ⟨[([.ofString "c"], .directory), ([.ofString "c", .ofString "e.js"], .link (.ofString "."))], []⟩

end TemplateBuild.ModuleText

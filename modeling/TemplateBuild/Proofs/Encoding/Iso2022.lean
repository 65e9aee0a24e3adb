import TemplateBuild.Proofs.Encoding.Pairs
import TemplateBuild.Proofs.Text.Bytes

/-!
# Text that shifts between sets

Every character is written in the set that the text has reached by then, behind the escape to that
set where it is another one.  The bytes of a character are no escape, so there are never two escapes
in a row.
-/

set_option autoImplicit false

namespace TemplateBuild.Encoding

/-! ## Reading -/

end TemplateBuild.Encoding

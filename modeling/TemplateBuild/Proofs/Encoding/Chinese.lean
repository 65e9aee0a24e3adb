import TemplateBuild.Proofs.Encoding.Characters

/-!
# Characters of two or four bytes

The mainland Chinese encodings read alike.  Some private code points are still written with the
bytes of the characters that they used to stand for, and are read as these.
-/

set_option autoImplicit false

namespace TemplateBuild.Encoding

/-! ## Reading -/

end TemplateBuild.Encoding

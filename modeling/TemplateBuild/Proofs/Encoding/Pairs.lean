import TemplateBuild.Proofs.Encoding.Characters

/-!
# Characters of two bytes

The two bytes of a character spell its pointer, so they are read with the index that it was written
with.  The Japanese encodings write three characters as others: the yen sign and the overline take
the places of the backslash and the tilde, and the minus sign is widened.
-/

set_option autoImplicit false

namespace TemplateBuild.Encoding

/-! ## Reading -/

section

variable {single : UInt8 → Option Char} {pair : UInt8 → UInt8 → Option Char}

end

/-! ## Korean -/

section

variable {pointer : Nat} (small : pointer < 8836)

include small

end

end TemplateBuild.Encoding

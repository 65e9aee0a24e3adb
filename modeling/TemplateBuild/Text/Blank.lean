/-!
# Blank characters

The characters that Unicode counts as white space, and text without them at its ends.
-/

set_option autoImplicit false

namespace TemplateBuild.Text

def isBlank (character : Char) : Bool :=
  let code := character.toNat
  (0x09 ≤ code && code ≤ 0x0D) || code == 0x20 || code == 0x85 || code == 0xA0 ||
    code == 0x1680 || (0x2000 ≤ code && code ≤ 0x200A) || code == 0x2028 || code == 0x2029 ||
    code == 0x202F || code == 0x205F || code == 0x3000

def trimBlankStart (text : List Char) : List Char :=
  text.dropWhile isBlank

def trimBlankEnd (text : List Char) : List Char :=
  (text.reverse.dropWhile isBlank).reverse

def trimBlank (text : List Char) : List Char :=
  trimBlankEnd (trimBlankStart text)

end TemplateBuild.Text

import TemplateBuild.Encoding.CodePage

/-!
# Encodings

The encodings in which templates can be read and modules written, as the registry of
encodings for documents names them.
-/

set_option autoImplicit false

namespace TemplateBuild

inductive Encoding where
  | utf8
  | codePage (page : Encoding.CodePage)
  | gbk
  | gb18030
  | big5
  | eucJp
  | iso2022Jp
  | shiftJis
  | eucKr
  | replacement
  | utf16BigEndian
  | utf16LittleEndian
  | userDefined
deriving DecidableEq, Repr

namespace Encoding

def name : Encoding → String
  | .utf8 => "UTF-8"
  | .codePage page => page.name
  | .gbk => "GBK"
  | .gb18030 => "gb18030"
  | .big5 => "Big5"
  | .eucJp => "EUC-JP"
  | .iso2022Jp => "ISO-2022-JP"
  | .shiftJis => "Shift_JIS"
  | .eucKr => "EUC-KR"
  | .replacement => "replacement"
  | .utf16BigEndian => "UTF-16BE"
  | .utf16LittleEndian => "UTF-16LE"
  | .userDefined => "x-user-defined"

/-- The encoding in which text is written.  The ones that can only be read are written as
UTF-8. -/
def output : Encoding → Encoding
  | .replacement => .utf8
  | .utf16BigEndian => .utf8
  | .utf16LittleEndian => .utf8
  | encoding => encoding

end Encoding

end TemplateBuild

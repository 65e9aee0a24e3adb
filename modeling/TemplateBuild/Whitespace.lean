/-!
# White space of templates

Whether newlines, carriage returns and tabs are taken out of a template before it is
compiled.  No other white space is touched.
-/

set_option autoImplicit false

namespace TemplateBuild

inductive WhitespacePolicy where
  | keep
  | purge
deriving DecidableEq, Repr

namespace WhitespacePolicy

def isPurged (character : Char) : Bool :=
  character == '\n' || character == '\r' || character == '\t'

def apply (policy : WhitespacePolicy) (text : String) : String :=
  match policy with
  | .keep => text
  | .purge => String.ofList (text.toList.filter fun character => !isPurged character)

end WhitespacePolicy

end TemplateBuild

import TemplateBuild.Text.Utf8

/-!
# What scripts say

Scripts may write to the standard streams.  What they write is kept apart from what the
program itself has to say.
-/

set_option autoImplicit false

namespace TemplateBuild

structure ScriptOutput where
  standard : Bytes
  error : Bytes
deriving DecidableEq, Repr

namespace ScriptOutput

def none : ScriptOutput :=
  ⟨[], []⟩

def append (earlier later : ScriptOutput) : ScriptOutput :=
  ⟨earlier.standard ++ later.standard, earlier.error ++ later.error⟩

instance : Append ScriptOutput :=
  ⟨append⟩

end ScriptOutput

end TemplateBuild

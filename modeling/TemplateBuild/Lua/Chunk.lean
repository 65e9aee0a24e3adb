import TemplateBuild.Text.Utf8

/-!
# Names of scripts

Messages begin with the name of a script.  A long name is cut, and a script without a name
shows the beginning of its first line.
-/

set_option autoImplicit false

namespace TemplateBuild.Lua.Chunk

/-- At most this many bytes of a script's name are shown. -/
def shownLength : Nat := 59

/-- Of a file's name the end is shown. -/
def ofFile (name : Bytes) : Bytes :=
  if name.length ≤ shownLength then name
  else Bytes.ofString "..." ++ name.drop (name.length - (shownLength - 3))

/-- Of any other name the beginning is shown. -/
def ofName (name : Bytes) : Bytes :=
  name.take shownLength

/-- The first line stands for a script that has no name. -/
def ofSource (source : Bytes) : Bytes :=
  let room := shownLength - 14
  let line := source.takeWhile (· ≠ 0x0A)
  let shown :=
    if line.length = source.length ∧ source.length < room then source
    else line.take room ++ Bytes.ofString "..."
  Bytes.ofString "[string \"" ++ shown ++ Bytes.ofString "\"]"

/-- The first byte of a given name tells of which kind it is. -/
def ofGiven : Bytes → Bytes
  | 0x40 :: name => ofFile name
  | 0x3D :: name => ofName name
  | source => ofSource source

end TemplateBuild.Lua.Chunk

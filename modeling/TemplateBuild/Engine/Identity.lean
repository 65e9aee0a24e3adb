import TemplateBuild.Path

/-!
# Engines and where they are found

An engine is named by a plain file name, and its name tells which language the script is
written in.  A resolved engine also knows where its script lies.
-/

set_option autoImplicit false

namespace TemplateBuild

inductive ScriptLanguage where
  | javaScript
  | lua
deriving DecidableEq, Repr

namespace ScriptLanguage

/-- Names that end in `.lua` are Lua; all others are JavaScript. -/
def ofEngine (engine : String) : ScriptLanguage :=
  if ".lua".toList.isSuffixOf engine.toList then .lua else .javaScript

def label : ScriptLanguage → String
  | .javaScript => "javascript"
  | .lua => "lua"

end ScriptLanguage

/-- How a script came to be available: shipped with the installation, in the cache from
before, or downloaded into the cache just now. -/
inductive Availability where
  | bundled
  | cached
  | fetched
deriving DecidableEq, Repr

def Availability.label : Availability → String
  | .bundled => "bundled"
  | .cached => "cached"
  | .fetched => "fetched"

structure EngineLocation where
  availability : Availability
  path : Path
deriving DecidableEq, Repr

def EngineLocation.display (location : EngineLocation) : String :=
  location.availability.label ++ " (" ++ location.path.display ++ ")"

structure Engine where
  name : String
  location : EngineLocation
deriving DecidableEq, Repr

namespace Engine

/-- A name that stays in the directory it is joined to: not empty, not a dot component, and
without a slash, a backslash or a zero. -/
def isPlainName (name : String) : Bool :=
  !(name.isEmpty || name == "." || name == ".." ||
    name.toList.any fun character =>
      character == '/' || character == '\\' || character == '\u0000')

end Engine

end TemplateBuild

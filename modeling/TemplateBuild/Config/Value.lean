import TemplateBuild.Decimal.Binary64
import TemplateBuild.Lua.Table
import TemplateBuild.Text.Utf8

/-!
# Values of a configuration script

What a configuration script may return, as far as reading it is concerned.  Functions and
other opaque values are known by the name of their type only.
-/

set_option autoImplicit false

namespace TemplateBuild

/-- Keys of a table that are not whole numbers. -/
inductive ConfigKey where
  | text (bytes : Bytes)
  | kind (name : String)
deriving DecidableEq, Repr

inductive ConfigValue where
  | nil
  | boolean (value : Bool)
  | integer (value : Int)
  | number (value : Binary64)
  | text (bytes : Bytes)
  | table (entries : Lua.Table ConfigKey ConfigValue)
  | opaqueKind (name : String)
deriving Inhabited

abbrev ConfigTable := Lua.Table ConfigKey ConfigValue

namespace ConfigValue

def kind : ConfigValue → String
  | .nil => "nil"
  | .boolean _ => "boolean"
  | .integer _ => "integer"
  | .number _ => "number"
  | .text _ => "string"
  | .table _ => "table"
  | .opaqueKind name => name

end ConfigValue

end TemplateBuild

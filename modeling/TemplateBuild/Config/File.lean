import TemplateBuild.Config.Table
import TemplateBuild.FileTree.Reading
import TemplateBuild.Lua.Host

/-!
# Configuration files

A configuration file is a Lua script that returns a table.  It is looked for under its usual
name unless a path is given, and relative paths in it start at its own directory.
-/

set_option autoImplicit false

namespace TemplateBuild.ConfigFile

def usualName : String := "tmplc.lua"

/-- The file to load, if there is one; a path that is given has to lead to a file. -/
def find (tree : FileTree) (given : Option Path) : Except ConfigError (Option Path) :=
  match given with
  | some path => if tree.isFile path then .ok (some path) else .error (.notFound path)
  | none =>
    let path := (Path.ofString ".").join (Path.ofString usualName)
    .ok (if tree.isFile path then some path else none)

/-! ## What a script has returned -/

def keyOf : Lua.Key Lua.ObjectKey → Lua.Key ConfigKey
  | .index number => .index number
  | .other key =>
    match key with
    | .text text => .other (.text text)
    | .boolean _ => .other (.kind "boolean")
    | .float _ => .other (.kind "number")
    | .table _ => .other (.kind "table")
    | .function _ => .other (.kind "function")
    | .thread _ => .other (.kind "thread")
    | .object _ => .other (.kind "userdata")

/-- A table with the same division between its parts. -/
def tableOf {κ ν κ' ν' : Type} (key : Lua.Key κ → Lua.Key κ') (value : ν → ν')
    (table : Lua.Table κ ν) : Lua.Table κ' ν' :=
  ⟨table.array.map (·.map value), table.limit,
    table.nodes.map fun (name, held) => (key name, held.map value), table.capacity⟩

/-- A value of a script; tables are followed to a depth. -/
def valueOf (tables : Array Lua.TableObject) : Nat → Lua.Value → ConfigValue
  | _, .nil => .nil
  | _, .boolean value => .boolean value
  | _, .integer value => .integer value.toInt
  | _, .float value => .number (Binary64.ofFloat value)
  | _, .text value => .text value
  | depth + 1, .table address =>
    match tables[address]? with
    | some object => .table (tableOf keyOf (valueOf tables depth) object.entries)
    | none => .table Lua.Table.empty
  | 0, .table _ => .table Lua.Table.empty
  | _, .function _ => .opaqueKind "function"
  | _, .thread _ => .opaqueKind "thread"
  | _, .object _ => .opaqueKind "userdata"

/-- Settings are values or lists of values. -/
def settingDepth : Nat := 2

/-- Asks a table for the values at some keys, which may run functions of the script. -/
def answersFor (table : Lua.Value) : List String → Lua.Machine →
    List (String × Except String ConfigValue) × Lua.Machine
  | [], machine => ([], machine)
  | key :: rest, machine =>
    let question := Lua.Host.ask fun i => Lua.Operator.index i table (.string key) none
    let (result, machine) := question.run machine
    let answer := result.map (valueOf machine.tables settingDepth)
    let (answers, machine) := answersFor table rest machine
    ((key, answer) :: answers, machine)

def listedKeys (machine : Lua.Machine) (table : Lua.Value) : List (Lua.Key ConfigKey) :=
  match table with
  | .table address =>
    match machine.tables[address]? with
    | some object => object.entries.entries.map fun (key, _) => keyOf key
    | none => []
  | _ => []

/-- The layer in a value that a script has returned. -/
def layerOf (path : Path) (value : Lua.Value) (machine : Lua.Machine) :
    Except ConfigError ConfigLayer × Lua.Machine :=
  match value with
  | .table _ =>
    let listed := listedKeys machine value
    let (answers, machine) := answersFor value ConfigTable.keys machine
    let view : ConfigTable.View :=
      ⟨listed, fun key => (answers.lookup key).getD (.ok .nil)⟩
    (ConfigTable.readView view path.directory, machine)
  | _ => (.error (.notATable path), machine)

/-- What a script may reach: the variables of the environment and the files of the tree. -/
def surroundings (environment : Environment) (tree : FileTree) : Lua.Surroundings :=
  ⟨environment, fun path => tree.contentOf ⟨path⟩⟩

/-- Loads a layer, and gives what the script has written. -/
def load (environment : Environment) (tree : FileTree) (path : Path) :
    Except ConfigError ConfigLayer × ScriptOutput :=
  match tree.textOf path with
  | .error failure => (.error (.unreadable path failure), ScriptOutput.none)
  | .ok source =>
    let machine := Lua.Machine.unrestricted (surroundings environment tree)
    let script := Lua.Host.evaluate (Bytes.ofString source) (Bytes.ofString path.display)
    match script.run machine with
    | (.error fault, machine) =>
      (.error (.evaluation path fault), (Lua.Host.takeOutput machine).1)
    | (.ok values, machine) =>
      let (layer, machine) := layerOf path (Lua.Operator.firstOf values) machine
      (layer, (Lua.Host.takeOutput machine).1)

end TemplateBuild.ConfigFile

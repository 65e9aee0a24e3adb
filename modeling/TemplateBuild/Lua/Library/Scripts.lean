import TemplateBuild.Lua.Chunk
import TemplateBuild.Lua.Library.Texts
import TemplateBuild.Lua.Parser

/-!
# Functions that load scripts

A script is read from a text, from the pieces that a function gives, or from a file.  Modules
are looked for along the path of the table of packages.
-/

set_option autoImplicit false

namespace TemplateBuild.Lua.Library.Scripts

open Action

def faultText (chunk : Bytes) (fault : SyntaxFault) : Bytes :=
  chunk ++ Bytes.ofString (":" ++ toString fault.line ++ ": " ++ fault.detail)

/-- The function that a script is, with an environment or that of the machine. -/
def compile (source chunk : Bytes) (environment : Option Value) : Action (Except Bytes Value) := do
  match parse source with
  | .error fault => return .error (faultText chunk fault)
  | .ok body =>
    let names ← match environment with
      | none => Action.pure []
      | some value => Action.pure [(Step.environmentName, ← newCell value)]
    return .ok (← newFunction (.closure body ⟨names, []⟩ chunk))

/-- The pieces that a function gives until it gives none. -/
def gather (i : Interpreter) (reader : Value) : Action Bytes :=
  iterate (fun (pieces : List Bytes) => do
    match ← Operator.callOne i reader [] with
    | .nil => return .inr pieces.reverse.flatten
    | .text [] => return .inr pieces.reverse.flatten
    | .text piece => return .inl (piece :: pieces)
    | _ => callerFault "reader function must return a string") endless []

def asResults (result : Except Bytes Value) : List Value :=
  match result with
  | .ok function => [function]
  | .error message => [.nil, .text message]

def load : Builtin := fun i _ arguments => do
  let environment := Argument.given arguments 4
  match Operator.textOf? (Argument.value arguments 1) with
  | some source =>
    let name ← Argument.textOr arguments 2 source
    return asResults (← compile source (Chunk.ofGiven name) environment)
  | none =>
    let reader ← Argument.function arguments 1
    let name ← Argument.textOr arguments 2 (Bytes.ofString "=(load)")
    match ← attempt (gather i reader) with
    | .ok source => return asResults (← compile source (Chunk.ofGiven name) environment)
    | .error error => return [.nil, error]

/-- A first line that begins with a number sign is no part of a script in a file. -/
def withoutFirstComment (source : Bytes) : Bytes :=
  let text := if (Bytes.ofString "\uFEFF").isPrefixOf source then source.drop 3 else source
  match text with
  | 0x23 :: rest => rest.dropWhile (· ≠ 0x0A)
  | text => text

def readScript (path : Bytes) : Action (Except Bytes Bytes) := do
  match (← machine).surroundings.readFile path with
  | .ok source => return .ok (withoutFirstComment source)
  | .error failure =>
    return .error (Bytes.ofString "cannot open " ++ path ++
      Bytes.ofString (": " ++ failure.reason.1))

def loadFile : Builtin := fun _ _ arguments => do
  let path ← Argument.text arguments 1
  match ← readScript path with
  | .error message => return [.nil, .text message]
  | .ok source =>
    return asResults (← compile source (Chunk.ofFile path) (Argument.given arguments 3))

def doFile : Builtin := fun i _ arguments => do
  let path ← Argument.text arguments 1
  match ← readScript path with
  | .error message => raise (.text message)
  | .ok source =>
    match ← compile source (Chunk.ofFile path) none with
    | .error message => raise (.text message)
    | .ok function => i.call function [] none

/-! ## Modules -/

def fieldOf (table : Value) (name : String) : Action Value := do
  match table with
  | .table address => rawGetNamed address name
  | _ => return .nil

def splitOn (separator : UInt8) (text : Bytes) : List Bytes :=
  text.foldr (fun byte pieces =>
    if byte = separator then [] :: pieces
    else
      match pieces with
      | first :: rest => (byte :: first) :: rest
      | [] => [[byte]]) [[]]

/-- The files that may hold a module: the name stands for the question marks, and its dots for
slashes. -/
def candidates (path name : Bytes) : List Bytes :=
  let place := name.map fun byte => if byte = 0x2E then 0x2F else byte
  ((splitOn 0x3B path).filter (!·.isEmpty)).map fun template =>
    template.flatMap fun byte => if byte = 0x3F then place else [byte]

def findModule (files : List Bytes) : Action (Option (Bytes × Bytes)) := do
  let read := (← machine).surroundings.readFile
  return files.findSome? fun file =>
    match read file with
    | .ok source => some (file, withoutFirstComment source)
    | .error _ => none

def notFound (name : Bytes) (files : List Bytes) : Bytes :=
  let quote := fun (text : Bytes) => [0x27] ++ text ++ [0x27]
  Bytes.ofString "module " ++ quote name ++ Bytes.ofString " not found:\n\tno field package.preload[" ++
    quote name ++ [0x5D] ++
    files.flatMap fun file => Bytes.ofString "\n\tno file " ++ quote file

/-- Runs what loads a module, and keeps what it gives. -/
def runLoader (i : Interpreter) (loaded : Value) (name : Bytes) (loader origin : Value) :
    Action (List Value) := do
  let value ← Operator.callOne i loader [.text name, origin]
  match loaded with
  | .table address =>
    let key := Key.other (ObjectKey.text name)
    if !value.isNil then rawSetKey address key value
    if (← rawGet address (.text name)).isNil then rawSetKey address key (.boolean true)
    return [← rawGet address (.text name), origin]
  | _ => return [value, origin]

def require : Builtin := fun i _ arguments => do
  let name ← Argument.text arguments 1
  let package ← rawGetNamed (← machine).globals "package"
  let loaded ← fieldOf package "loaded"
  let present ← match loaded with
    | .table address => rawGet address (.text name)
    | _ => Action.pure .nil
  if present.isTrue then return [present]
  let preload ← fieldOf package "preload"
  let loader ← match preload with
    | .table address => rawGet address (.text name)
    | _ => Action.pure .nil
  if !loader.isNil then return ← runLoader i loaded name loader (.string ":preload:")
  match ← fieldOf package "path" with
  | .text path =>
    let files := candidates path name
    match ← findModule files with
    | none => raise (.text ((← position 1) ++ notFound name files))
    | some (file, source) =>
      match ← compile source (Chunk.ofFile file) none with
      | .ok function => runLoader i loaded name function (.text file)
      | .error message =>
        let quote := fun (text : Bytes) => [0x27] ++ text ++ [0x27]
        raise (.text ((← position 1) ++ Bytes.ofString "error loading module " ++ quote name ++
          Bytes.ofString " from file " ++ quote file ++ Bytes.ofString ":\n\t" ++ message))
  | _ => callerFault "'package.path' must be a string"

def defaultPath : String :=
  "/usr/local/share/lua/5.4/?.lua;/usr/local/share/lua/5.4/?/init.lua;" ++
    "/usr/local/lib/lua/5.4/?.lua;/usr/local/lib/lua/5.4/?/init.lua;./?.lua;./?/init.lua"

end TemplateBuild.Lua.Library.Scripts

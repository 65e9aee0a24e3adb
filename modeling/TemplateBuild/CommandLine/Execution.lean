import TemplateBuild.CommandLine.Completion
import TemplateBuild.Config.File
import TemplateBuild.Run.Basic
import TemplateBuild.Sandbox.Basic

/-!
# Executing commands

The layer of the parameters goes on top of the configuration file, if there is one; then the
command does its work.  An error is told with what the program was about.
-/

set_option autoImplicit false

namespace TemplateBuild

/-- Engines are scripts, loaded into a sandbox of their language. -/
def Compiler.sandboxed : Compiler Sandbox :=
  ⟨Sandbox.load, fun template gate sandbox => sandbox.compile template gate⟩

namespace CommandLine

/-- Messages from the outermost to the innermost. -/
abbrev Messages := List String

/-- The layer of a configuration file. -/
def fileLayer (environment : Environment) (path : Path) : Effect Messages ConfigLayer := do
  let (result, said) := ConfigFile.load environment (← Effect.files) path
  Effect.say said
  match result with
  | .ok layer => return layer
  | .error error =>
    throw (("Failed to load config file " ++ path.display) :: error.message :: error.causes)

/-- The parameters on top of the configuration file. -/
def layered (environment : Environment) (order : Order) : Effect Messages ConfigLayer := do
  match ConfigFile.find (← Effect.files) order.configPath with
  | .error error => throw [error.message]
  | .ok none => return ConfigLayer.empty.merge order.layer
  | .ok (some path) => return (← fileLayer environment path).merge order.layer

def validated {α : Type} (result : Except ConfigError α) : Effect Messages α :=
  match result with
  | .ok value => return value
  | .error error => throw ("Invalid configuration" :: error.message :: error.causes)

def runPrecompile (environment : Environment) (order : Order) :
    Effect Messages Completion := do
  let layer ← layered environment order
  let settings ← validated (layer.resolve environment)
  match (precompile Compiler.sandboxed settings Cancellation.never).run (← get) with
  | (.ok report, world) =>
    set world
    return .precompiled report order.format
  | (.error (.failures failures), world) =>
    set world
    return .rejected failures order.format
  | (.error error, world) =>
    set world
    throw ("Precompilation failed" :: error.message :: error.causes)

def runFetch (environment : Environment) (order : Order) : Effect Messages Completion := do
  let layer ← layered environment order
  let provisioning ← validated (layer.provisioning environment)
  let engine ← Effect.mapError
    (fun (error : ProvisionError) =>
      ("Failed to provision engine '" ++ layer.engine ++ "'") :: error.message :: error.causes)
    (provisioning.resolve layer.engine)
  return .fetched engine order.format

def runOrder (environment : Environment) (order : Order) : Effect Messages Completion :=
  match order.command with
  | .precompile => runPrecompile environment order
  | .fetch => runFetch environment order

/-- Does what the arguments ask for. -/
def execute (environment : Environment) (arguments : List Bytes) (world : World) :
    Completion × World :=
  match readInvocation arguments with
  | .error error => (.misused error, world)
  | .ok (.help command) => (.help command, world)
  | .ok .version => (.version, world)
  | .ok (.order order) =>
    match (runOrder environment order).run world with
    | (.ok completion, world) => (completion, world)
    | (.error messages, world) => (.failed messages, world)

end CommandLine

end TemplateBuild

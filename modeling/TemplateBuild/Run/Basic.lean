import TemplateBuild.Engine.Provision
import TemplateBuild.Run.Error
import TemplateBuild.Walk.Read
import TemplateBuild.Walk.Visit

/-!
# A run

The engine is found and loaded once, then the source tree is walked, and every bundle becomes a
module.  What compiles is a parameter: a run knows of an engine only how it is loaded, and how
it compiles one template after the other.
-/

set_option autoImplicit false

namespace TemplateBuild

/-- A way of loading engines and compiling with them; what the engine remembers goes from one
template to the next. -/
structure Compiler (σ : Type) where
  load : (engine source : String) → Except SandboxError σ × ScriptOutput
  compile : (template : String) → HelperGate → σ → Except String String × ScriptOutput × σ

/-- Whether a run is to stop, by how often it has asked before and how many templates the
engine has accepted. -/
abbrev Cancellation := (polls accepted : Nat) → Bool

namespace Cancellation

def never : Cancellation :=
  fun _ _ => false

/-- From when so many templates have been accepted. -/
def after (count : Nat) : Cancellation :=
  fun _ accepted => count ≤ accepted

end Cancellation

structure Report where
  engine : Engine
  modules : List AssembledModule
  templatesCompiled : Nat
  dryRun : Bool
deriving DecidableEq, Repr

/-- How far a run has come. -/
structure Progress (σ : Type) where
  engineState : σ
  modules : List AssembledModule
  failures : List CompileFailure
  templatesCompiled : Nat
  /-- Templates accepted so far, those of the bundle at hand included. -/
  accepted : Nat
  polls : Nat

abbrev RunStep (σ α : Type) := StateT (Progress σ) (ExceptT RunError (StateM World)) α

namespace Run

variable {σ : Type}

def lift {ε α : Type} (onError : ε → RunError) (effect : Effect ε α) : RunStep σ α :=
  StateT.lift (Effect.mapError onError effect)

def checkCancelled (cancelled : Cancellation) : RunStep σ Unit := do
  let progress ← get
  set { progress with polls := progress.polls + 1 }
  if cancelled progress.polls progress.accepted then throw .cancelled

/-- Compiles a template, and tells what the engine said. -/
def compileText (compiler : Compiler σ) (gate : HelperGate) (text : String) :
    RunStep σ (Except String String) := do
  let progress ← get
  let (result, said, engineState) := compiler.compile text gate progress.engineState
  let accepted := if result.toBool then progress.accepted + 1 else progress.accepted
  set { progress with engineState := engineState, accepted := accepted }
  StateT.lift (Effect.say said)
  return result

/-- What the failure policy makes of a rejected template. -/
def reject (settings : Settings) (engine : Engine) (failure : CompileFailure) :
    RunStep σ Unit :=
  match settings.failurePolicy with
  | .failFast => throw (.rejected engine.name failure)
  | .collectAll => do
    StateT.lift (Effect.warn (.rejected failure.template failure.fault))
    modify fun progress => { progress with failures := progress.failures ++ [failure] }

def compileTemplate (compiler : Compiler σ) (settings : Settings) (engine : Engine)
    (bundle : Bundle) (template : TemplateSource) : RunStep σ (Option CompiledTemplate) := do
  let files ← StateT.lift Effect.files
  match template.readText files settings.encoding with
  | .error error => throw (.walk error)
  | .ok text =>
    match ← compileText compiler settings.gate (settings.whitespace.apply text) with
    | .ok fragment => return some ⟨template.logicalName, fragment⟩
    | .error fault =>
      reject settings engine ⟨template.path, bundle.sourceDirectory, fault⟩
      return none

/-- Compiles templates in order; rejected ones are left out. -/
def compileAll (compiler : Compiler σ) (settings : Settings) (cancelled : Cancellation)
    (engine : Engine) (bundle : Bundle) : List TemplateSource → RunStep σ (List CompiledTemplate)
  | [] => return []
  | template :: rest => do
    checkCancelled cancelled
    let compiled ← compileTemplate compiler settings engine bundle template
    let others ← compileAll compiler settings cancelled engine bundle rest
    return compiled.toList ++ others

/-- Writes the module of a bundle, unless nothing is to be written. -/
def assemble (settings : Settings) (bundle : Bundle) (templates : List CompiledTemplate) :
    RunStep σ AssembledModule :=
  if settings.dryRun then return AssembledModule.of bundle templates
  else lift .assemble (ModuleText.assemble bundle templates settings.encoding)

/-- A bundle without an accepted template leaves no module. -/
def processBundle (compiler : Compiler σ) (settings : Settings) (cancelled : Cancellation)
    (engine : Engine) (bundle : Bundle) : RunStep σ Unit := do
  let compiled ← compileAll compiler settings cancelled engine bundle bundle.templates
  if compiled.isEmpty then return ()
  modify fun progress =>
    { progress with templatesCompiled := progress.templatesCompiled + compiled.length }
  let written ← assemble settings bundle compiled
  modify fun progress => { progress with modules := progress.modules ++ [written] }

/-- Takes what the walk yields: bundles are processed, errors end the run. -/
def visitor (compiler : Compiler σ) (settings : Settings) (cancelled : Cancellation)
    (engine : Engine) : Walk.Visitor (StateT (Progress σ) (ExceptT RunError (StateM World))) where
  files := StateT.lift Effect.files
  warn := fun warnings => StateT.lift (Effect.warnAll warnings)
  visit := fun item => do
    checkCancelled cancelled
    match item with
    | .ok bundle => processBundle compiler settings cancelled engine bundle
    | .error error => throw (.walk error)

/-! ## From the start -/

/-- The source directory as an absolute path without links. -/
def sourceRoot (settings : Settings) : Effect RunError Path := do
  let files ← Effect.files
  match files.canonical settings.sourceDirectory with
  | .error failure => throw (.source settings.sourceDirectory failure)
  | .ok root =>
    if files.isDirectory root then return root else throw (.notDirectory root)

def createOutput (settings : Settings) : Effect RunError Unit :=
  if settings.dryRun then return ()
  else
    Effect.change (.output settings.outputDirectory) fun files =>
      files.makeDirectories settings.outputDirectory

def provision (settings : Settings) : Effect RunError Engine :=
  Effect.mapError (.provision settings.engine) (settings.provisioning.resolve settings.engine)

def load (compiler : Compiler σ) (engine : Engine) : Effect RunError σ := do
  match engine.source (← Effect.files) with
  | .error failure => throw (.sandbox (.unreadable engine.location.path failure))
  | .ok source =>
    let (result, said) := compiler.load engine.name source
    Effect.say said
    match result with
    | .error error => throw (.sandbox error)
    | .ok state => return state

end Run

/-- Compiles all templates of the source tree, and writes the modules. -/
def precompile {σ : Type} (compiler : Compiler σ) (settings : Settings)
    (cancelled : Cancellation) : Effect RunError Report := do
  let root ← Run.sourceRoot settings
  Run.createOutput settings
  let engine ← Run.provision settings
  let engineState ← Run.load compiler engine
  let walk := Walk.of root settings.templateExtensions settings.layout
  let start : Progress σ := ⟨engineState, [], [], 0, 0, 0⟩
  let (_, progress) ← (walk.visitAll (Run.visitor compiler settings cancelled engine)).run start
  if !progress.failures.isEmpty then throw (.failures progress.failures)
  return ⟨engine, progress.modules, progress.templatesCompiled, settings.dryRun⟩

end TemplateBuild

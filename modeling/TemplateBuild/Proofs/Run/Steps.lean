import TemplateBuild.Proofs.Walk.Agenda
import TemplateBuild.Proofs.World
import TemplateBuild.Run.Basic

/-!
# What the steps of a run do

Each step is described by what it gives, by the progress that it makes and by the world that it
leaves, or by the error with which it ends the run.
-/

set_option autoImplicit false

namespace TemplateBuild

/-- The parts of a run, each of which ends with errors of its own. -/
inductive Phase where
  | preparing
  | walking
  | reporting
deriving DecidableEq, Repr

/-- The part of a run that ends with an error. -/
def RunError.phase : RunError → Phase
  | .source _ _ | .notDirectory _ | .output _ _ | .provision _ _ | .sandbox _ => .preparing
  | .walk _ | .rejected _ _ | .assemble _ | .cancelled => .walking
  | .failures _ => .reporting

namespace Run

open Effect

variable {σ α : Type}

/-- How the steps of a run are run; an error leaves the world as it is then. -/
def steps : Walk.Runner (RunStep σ) (Progress σ × World) (RunError × World) where
  run step state :=
    match Effect.run (StateT.run step state.1) state.2 with
    | (.ok (value, progress), world) => .ok (value, progress, world)
    | (.error error, world) => .error (error, world)
  run_pure _ _ := rfl
  run_bind first next state := by
    simp only [StateT.run_bind, Effect.run_bind]
    cases Effect.run (StateT.run first state.1) state.2 with
    | mk result world => cases result <;> rfl

section Equations

variable (progress : Progress σ) (world : World)

@[simp]
theorem run_get : steps.run (get : RunStep σ (Progress σ)) (progress, world) =
    .ok (progress, progress, world) := rfl

@[simp]
theorem run_set (later : Progress σ) : steps.run (set later : RunStep σ PUnit) (progress, world) =
    .ok ((), later, world) := rfl

@[simp]
theorem run_modify (change : Progress σ → Progress σ) :
    steps.run (modify change : RunStep σ PUnit) (progress, world) =
      .ok ((), change progress, world) := rfl

@[simp]
theorem run_throw (error : RunError) : steps.run (throw error : RunStep σ α) (progress, world) =
    .error (error, world) := rfl

theorem run_lift (effect : Effect RunError α) :
    steps.run (StateT.lift effect : RunStep σ α) (progress, world) =
      match Effect.run effect world with
      | (.ok value, later) => .ok (value, progress, later)
      | (.error error, later) => .error (error, later) := by
  simp only [steps, StateT.run_lift, Effect.run_bind]
  cases Effect.run effect world with
  | mk result later => cases result <;> rfl

/-! ## Equations of the steps -/

theorem checkCancelled_run (cancelled : Cancellation) :
    steps.run (checkCancelled cancelled) (progress, world) =
      if cancelled progress.polls progress.accepted then .error (.cancelled, world)
      else .ok ((), { progress with polls := progress.polls + 1 }, world) := by
  simp only [checkCancelled, steps.run_bind, run_get, run_set]
  split <;> rfl

/-- The progress after the engine has answered. -/
def answered (progress : Progress σ) (accepts : Bool) (engineState : σ) : Progress σ :=
  { progress with
    engineState := engineState
    accepted := if accepts then progress.accepted + 1 else progress.accepted }

theorem compileText_run (compiler : Compiler σ) (gate : HelperGate) (text : String) :
    steps.run (compileText compiler gate text) (progress, world) =
      .ok ((compiler.compile text gate progress.engineState).1,
        answered progress (compiler.compile text gate progress.engineState).1.toBool
          (compiler.compile text gate progress.engineState).2.2,
        { world with said := world.said ++
          (compiler.compile text gate progress.engineState).2.1 }) := by
  simp only [compileText, steps.run_bind, run_get, run_set, run_lift, run_say]
  rfl

/-- What becomes of a template when the engine has answered. -/
def respond (settings : Settings) (engine : Engine) (bundle : Bundle) (template : TemplateSource)
    (progress : Progress σ) (world : World) :
    Except String String → Except (RunError × World) (Option CompiledTemplate × Progress σ × World)
  | .ok fragment => .ok (some ⟨template.logicalName, fragment⟩, progress, world)
  | .error fault =>
    match settings.failurePolicy with
    | .failFast =>
      .error (.rejected engine.name ⟨template.path, bundle.sourceDirectory, fault⟩, world)
    | .collectAll =>
      .ok (none,
        { progress with
          failures := progress.failures ++ [⟨template.path, bundle.sourceDirectory, fault⟩] },
        { world with warnings := world.warnings ++ [.rejected template.path fault] })

theorem reject_run (settings : Settings) (engine : Engine) (bundle : Bundle)
    (template : TemplateSource) (fault : String) :
    steps.run (do
      reject settings engine ⟨template.path, bundle.sourceDirectory, fault⟩
      return none) (progress, world) =
      respond settings engine bundle template progress world (.error fault) := by
  rw [reject, respond]
  cases settings.failurePolicy with
  | failFast => rfl
  | collectAll => rfl

theorem compileTemplate_run (compiler : Compiler σ) (settings : Settings) (engine : Engine)
    (bundle : Bundle) (template : TemplateSource) :
    steps.run (compileTemplate compiler settings engine bundle template) (progress, world) =
      match template.readText world.files settings.encoding with
      | .error error => .error (.walk error, world)
      | .ok text =>
        let answer := compiler.compile (settings.whitespace.apply text) settings.gate
          progress.engineState
        respond settings engine bundle template
          (answered progress answer.1.toBool answer.2.2)
          { world with said := world.said ++ answer.2.1 } answer.1 := by
  rw [compileTemplate, steps.run_bind, run_lift, run_files]
  simp only
  cases template.readText world.files settings.encoding with
  | error error => rfl
  | ok text =>
      simp only [steps.run_bind, compileText_run]
      cases answer : (compiler.compile (settings.whitespace.apply text) settings.gate
          progress.engineState).1 with
      | ok fragment => rfl
      | error fault =>
          rw [← reject_run, steps.run_bind]

theorem assemble_run (settings : Settings) (bundle : Bundle) (templates : List CompiledTemplate) :
    steps.run (assemble settings bundle templates) (progress, world) =
      if settings.dryRun then .ok (AssembledModule.of bundle templates, progress, world)
      else match Effect.run (ModuleText.assemble bundle templates settings.encoding) world with
        | (.ok written, later) => .ok (written, progress, later)
        | (.error error, later) => .error (.assemble error, later) := by
  rw [assemble]
  split
  · rfl
  · rw [lift, run_lift, run_mapError]
    cases Effect.run (ModuleText.assemble bundle templates settings.encoding) world with
    | mk result later => cases result <;> rfl

end Equations

end Run

end TemplateBuild

import TemplateBuild.Proofs.Run.Steps

/-!
# What a run makes of a bundle

The templates of a bundle are judged by the engine one after the other.  Those that it accepts
go into the module, in their order; a bundle without any leaves no module.  Where a run ends
within a bundle, at most directories are new.
-/

set_option autoImplicit false

namespace TemplateBuild

open Effect

/-- A template and what the engine said to it. -/
structure Verdict where
  template : TemplateSource
  answer : Except String String

namespace Verdict

/-- The templates that were accepted, as they were compiled. -/
def accepted (verdicts : List Verdict) : List CompiledTemplate :=
  verdicts.filterMap fun verdict =>
    match verdict.answer with
    | .ok fragment => some ⟨verdict.template.logicalName, fragment⟩
    | .error _ => none

/-- The templates of a bundle that were rejected, with the engine's messages. -/
def rejected (bundle : Bundle) (verdicts : List Verdict) : List CompileFailure :=
  verdicts.filterMap fun verdict =>
    match verdict.answer with
    | .ok _ => none
    | .error fault => some ⟨verdict.template.path, bundle.sourceDirectory, fault⟩

theorem rejected_sublist (bundle : Bundle) (verdicts : List Verdict) :
    ((rejected bundle verdicts).map fun failure => failure.template).Sublist
      (verdicts.map fun verdict => verdict.template.path) := by
  induction verdicts with
  | nil => exact List.Sublist.slnil
  | cons verdict rest ih =>
      obtain ⟨template, answer⟩ := verdict
      cases answer with
      | ok fragment => exact ih.cons _
      | error fault => exact ih.cons_cons _

/-- Where nothing was rejected, all templates are accepted, in order. -/
theorem accepted_of_clean {bundle : Bundle} {verdicts : List Verdict}
    (clean : rejected bundle verdicts = []) :
    (∀ verdict ∈ verdicts, ∃ fragment, verdict.answer = .ok fragment) ∧
      (accepted verdicts).map CompiledTemplate.logicalName =
        verdicts.map fun verdict => verdict.template.logicalName := by
  induction verdicts with
  | nil => exact ⟨fun _ member => (by cases member), rfl⟩
  | cons verdict rest ih =>
      obtain ⟨template, answer⟩ := verdict
      cases answer with
      | ok fragment =>
          obtain ⟨answers, names⟩ := ih clean
          exact ⟨List.forall_mem_cons.mpr ⟨⟨fragment, rfl⟩, answers⟩,
            congrArg (List.cons template.logicalName) names⟩
      | error fault => cases clean

end Verdict

namespace Run

variable {σ : Type}

/-- What the engine says to templates that are read one after the other, and what it remembers
in the end. -/
def judge (compiler : Compiler σ) (settings : Settings) (files : FileTree) :
    σ → List TemplateSource → Except WalkError (List Verdict × σ)
  | state, [] => .ok ([], state)
  | state, template :: rest =>
    match template.readText files settings.encoding with
    | .error error => .error error
    | .ok text =>
      let answer := compiler.compile (settings.whitespace.apply text) settings.gate state
      (judge compiler settings files answer.2.2 rest).map fun (verdicts, last) =>
        (⟨template, answer.1⟩ :: verdicts, last)

/-- How the progress has changed when the templates of a bundle are judged. -/
structure Judged (compiler : Compiler σ) (settings : Settings) (files : FileTree)
    (bundle : Bundle) (templates : List TemplateSource) (before after : Progress σ)
    (verdicts : List Verdict) : Prop where
  judged : judge compiler settings files before.engineState templates =
    .ok (verdicts, after.engineState)
  failures : after.failures = before.failures ++ Verdict.rejected bundle verdicts
  modules : after.modules = before.modules
  templatesCompiled : after.templatesCompiled = before.templatesCompiled
  strict : settings.failurePolicy = .failFast → Verdict.rejected bundle verdicts = []

section Templates

variable {compiler : Compiler σ} {settings : Settings} {files : FileTree} {bundle : Bundle}

theorem judge_cons_eq_ok_iff {template : TemplateSource} {rest : List TemplateSource}
    {before after : σ} {verdicts : List Verdict} :
    judge compiler settings files before (template :: rest) = .ok (verdicts, after) ↔
      ∃ text others, template.readText files settings.encoding = .ok text ∧
        judge compiler settings files
          (compiler.compile (settings.whitespace.apply text) settings.gate before).2.2 rest =
            .ok (others, after) ∧
        verdicts = ⟨template,
          (compiler.compile (settings.whitespace.apply text) settings.gate before).1⟩ ::
            others := by
  rw [judge]
  cases template.readText files settings.encoding with
  | error error =>
      constructor
      · intro judged
        cases judged
      · rintro ⟨_, _, reads, _⟩
        cases reads
  | ok text =>
      simp only
      constructor
      · intro judged
        cases later : judge compiler settings files
            (compiler.compile (settings.whitespace.apply text) settings.gate before).2.2 rest with
        | error error =>
            rw [later] at judged
            cases judged
        | ok reached =>
            rw [later] at judged
            cases judged
            exact ⟨text, reached.1, rfl, later, rfl⟩
      · rintro ⟨_, others, reads, later, rfl⟩
        cases reads
        rw [later]
        rfl

theorem judge_append {first second : List TemplateSource} {before middle after : σ}
    {verdicts others : List Verdict}
    (judged : judge compiler settings files before first = .ok (verdicts, middle))
    (judgedToo : judge compiler settings files middle second = .ok (others, after)) :
    judge compiler settings files before (first ++ second) = .ok (verdicts ++ others, after) := by
  induction first generalizing before verdicts with
  | nil =>
      cases judged
      exact judgedToo
  | cons template rest ih =>
      obtain ⟨text, later, reads, more, rfl⟩ := judge_cons_eq_ok_iff.mp judged
      exact judge_cons_eq_ok_iff.mpr ⟨text, later ++ others, reads, ih more, rfl⟩

/-- The verdicts depend on the texts of the templates alone. -/
theorem judge_congr {other : FileTree} {templates : List TemplateSource}
    (same : ∀ template ∈ templates, template.readText files settings.encoding =
      template.readText other settings.encoding) (before : σ) :
    judge compiler settings files before templates =
      judge compiler settings other before templates := by
  induction templates generalizing before with
  | nil => rfl
  | cons template rest ih =>
      obtain ⟨first, others⟩ := List.forall_mem_cons.mp same
      rw [judge, judge, first]
      cases template.readText other settings.encoding with
      | error error => rfl
      | ok text =>
          simp only
          rw [ih others]

/-- Every template gets one verdict, in order. -/
theorem judge_templates {templates : List TemplateSource} {before after : σ}
    {verdicts : List Verdict}
    (judged : judge compiler settings files before templates = .ok (verdicts, after)) :
    verdicts.map Verdict.template = templates := by
  induction templates generalizing before verdicts with
  | nil =>
      cases judged
      rfl
  | cons template rest ih =>
      obtain ⟨_, others, _, more, rfl⟩ := judge_cons_eq_ok_iff.mp judged
      rw [List.map_cons, ih more]

namespace Judged

variable {first second : List TemplateSource} {before middle after : Progress σ}
  {verdicts others : List Verdict}

theorem append (judged : Judged compiler settings files bundle first before middle verdicts)
    (judgedToo : Judged compiler settings files bundle second middle after others) :
    Judged compiler settings files bundle (first ++ second) before after (verdicts ++ others) where
  judged := judge_append judged.judged judgedToo.judged
  failures := by
    rw [judgedToo.failures, judged.failures, Verdict.rejected, Verdict.rejected, Verdict.rejected,
      List.filterMap_append, List.append_assoc]
  modules := judgedToo.modules.trans judged.modules
  templatesCompiled := judgedToo.templatesCompiled.trans judged.templatesCompiled
  strict := by
    intro policy
    have none := judged.strict policy
    have noneToo := judgedToo.strict policy
    rw [Verdict.rejected] at none noneToo ⊢
    rw [List.filterMap_append, none, noneToo]
    rfl

/-- Asking whether to stop judges nothing. -/
theorem polled (before : Progress σ) (polls : Nat) :
    Judged compiler settings files bundle [] before { before with polls := polls } [] :=
  ⟨rfl, (List.append_nil _).symm, rfl, rfl, fun _ => rfl⟩

end Judged

variable (compiler settings bundle) (cancelled : Cancellation) (engine : Engine)

/-- What is said of a run that has come some way within a bundle: as many templates as it has
come to were judged, or it ends here. -/
def Judges (templates : List TemplateSource) (before : Progress σ) (world : World) :
    Except (RunError × World) (List CompiledTemplate × Progress σ × World) → Prop
  | .ok (compiled, after, later) => later.files = world.files ∧ ∃ verdicts,
    Judged compiler settings world.files bundle templates before after verdicts ∧
      compiled = Verdict.accepted verdicts
  | .error (error, later) => later.files = world.files ∧ error.phase = .walking

theorem compileTemplate_judges (template : TemplateSource) (progress : Progress σ)
    (world : World) : Judges compiler settings bundle [template] progress world
      ((steps.run (compileTemplate compiler settings engine bundle template)
        (progress, world)).map fun (compiled, state) => (compiled.toList, state)) := by
  rw [compileTemplate_run]
  cases reads : template.readText world.files settings.encoding with
  | error error => exact ⟨rfl, rfl⟩
  | ok text =>
      simp only
      have judged : judge compiler settings world.files progress.engineState [template] =
          .ok ([⟨template, (compiler.compile (settings.whitespace.apply text) settings.gate
            progress.engineState).1⟩], (compiler.compile (settings.whitespace.apply text)
              settings.gate progress.engineState).2.2) := by
        rw [judge, reads]
        rfl
      cases answer : (compiler.compile (settings.whitespace.apply text) settings.gate
          progress.engineState).1 with
      | ok fragment =>
          rw [answer] at judged
          refine ⟨rfl, _, ⟨judged, ?_, rfl, rfl, fun _ => rfl⟩, rfl⟩
          exact (List.append_nil _).symm
      | error fault =>
          rw [answer] at judged
          rw [respond]
          cases policy : settings.failurePolicy with
          | failFast => exact ⟨rfl, rfl⟩
          | collectAll =>
              refine ⟨rfl, _, ⟨judged, rfl, rfl, rfl, ?_⟩, rfl⟩
              intro strict
              rw [policy] at strict
              cases strict

theorem compileAll_judges : ∀ (templates : List TemplateSource) (progress : Progress σ)
    (world : World), Judges compiler settings bundle templates progress world
      (steps.run (compileAll compiler settings cancelled engine bundle templates)
        (progress, world)) := by
  intro templates
  induction templates with
  | nil =>
      intro progress world
      exact ⟨rfl, [], ⟨rfl, (List.append_nil _).symm, rfl, rfl, fun _ => rfl⟩, rfl⟩
  | cons template rest ih =>
      intro progress world
      rw [compileAll, steps.run_bind, checkCancelled_run]
      split
      · next checked =>
        split at checked
        · cases checked
        · cases checked
          have polled : Judged compiler settings world.files bundle [] progress
              { progress with polls := progress.polls + 1 } [] := .polled progress _
          have one := compileTemplate_judges compiler settings bundle engine template
            { progress with polls := progress.polls + 1 } world
          rw [steps.run_bind]
          split
          · next compiled state ran =>
            obtain ⟨middle, later⟩ := state
            rw [ran] at one
            obtain ⟨kept, verdicts, judged, accepted⟩ := one
            have more := ih middle later
            rw [steps.run_bind]
            split
            · next others state ranToo =>
              obtain ⟨after, last⟩ := state
              rw [ranToo] at more
              obtain ⟨keptToo, verdictsToo, judgedToo, acceptedToo⟩ := more
              rw [kept] at keptToo judgedToo
              refine ⟨keptToo, _, polled.append (judged.append judgedToo), ?_⟩
              rw [accepted, acceptedToo, List.nil_append, Verdict.accepted, Verdict.accepted,
                Verdict.accepted, List.filterMap_append]
            · next error ranToo =>
              rw [ranToo] at more
              exact ⟨more.1.trans kept, more.2⟩
          · next error ran =>
            rw [ran] at one
            exact one
      · next error stopped =>
        split at stopped
        · cases stopped
          exact ⟨rfl, rfl⟩
        · cases stopped

end Templates

/-! ## Modules -/

theorem write_run (path : Path) (text : String) (encoding : Encoding) (world : World) :
    Effect.run (ModuleText.write path text encoding) world =
      match encoding.encode text.toList with
      | none => (.error (.unencodable path encoding.name), world)
      | some content =>
        match world.files.makeDirectories path.directory with
        | (.error failure, prepared) =>
          (.error (.directory path.directory failure), { world with files := prepared })
        | (.ok (), prepared) =>
          match prepared.replaceFile path.directory path content with
          | (.error failure, after) => (.error (.write path failure), { world with files := after })
          | (.ok (), after) => (.ok (), { world with files := after }) := by
  rw [ModuleText.write]
  cases encoding.encode text.toList with
  | none => rfl
  | some content =>
      simp only
      rw [Effect.run_bind, Effect.run_change]
      rcases world.files.makeDirectories path.directory with ⟨failure | done, prepared⟩
      · rfl
      · simp only [Except.mapError]
        rw [Effect.run_change]
        simp only
        rcases prepared.replaceFile path.directory path content with ⟨failure | done, after⟩ <;> rfl

theorem assemble_effect_run (bundle : Bundle) (templates : List CompiledTemplate)
    (encoding : Encoding) (world : World) :
    Effect.run (ModuleText.assemble bundle templates encoding) world =
      match Effect.run (ModuleText.write bundle.outputFile (ModuleText.render templates) encoding)
        world with
      | (.ok (), later) => (.ok (AssembledModule.of bundle templates), later)
      | (.error error, later) => (.error error, later) := by
  rw [ModuleText.assemble, Effect.run_bind]
  rcases Effect.run (ModuleText.write bundle.outputFile (ModuleText.render templates) encoding)
    world with ⟨error | done, later⟩ <;> rfl

theorem write_leaves (path : Path) (text : String) (encoding : Encoding) {world : World}
    (wellFormed : world.files.WellFormed) :
    (ModuleText.write path text encoding).Leaves world world.files fun after =>
      ∃ content, encoding.encode text.toList = some content ∧
        world.files.Stores path content after := by
  rw [ModuleText.write]
  split
  · exact leaves_throw _ wellFormed (.refl _)
  · next content encoded =>
    have made := FileTree.makeDirectories_leaves wellFormed path.directory
    apply (leaves_change _ made).bind
    intro _ prepared _ stillWellFormed adds
    have written := FileTree.replaceFile_written stillWellFormed path.directory path content
    have stored :
        prepared.files.Leaves _ (prepared.files.replaceFile path.directory path content) :=
      written.leaves (.refl _)
    apply leaves_change
    apply stored.after adds
    intro after stores
    exact ⟨content, encoded, stores.after adds⟩

theorem assemble_leaves (bundle : Bundle) (templates : List CompiledTemplate)
    (encoding : Encoding) {world : World} (wellFormed : world.files.WellFormed) :
    (ModuleText.assemble bundle templates encoding).Leaves world world.files fun after =>
      ∃ content, encoding.encode (ModuleText.render templates).toList = some content ∧
        world.files.Stores bundle.outputFile content after := by
  rw [ModuleText.assemble]
  apply (write_leaves bundle.outputFile (ModuleText.render templates) encoding wellFormed).bind
  intro _ later _ stillWellFormed stored
  exact leaves_pure _ stillWellFormed stored

theorem assemble_value {bundle : Bundle} {templates : List CompiledTemplate} {encoding : Encoding}
    {world later : World} {written : AssembledModule}
    (ran : Effect.run (ModuleText.assemble bundle templates encoding) world =
      (.ok written, later)) : written = AssembledModule.of bundle templates := by
  rw [assemble_effect_run] at ran
  split at ran
  · cases ran
    rfl
  · cases ran

end Run

/-! ## Stages -/

/-- A bundle that a run has come past, with the files before and after. -/
structure Stage where
  bundle : Bundle
  before : FileTree
  verdicts : List Verdict
  after : FileTree

namespace Stage

def accepted (stage : Stage) : List CompiledTemplate :=
  Verdict.accepted stage.verdicts

def rejected (stage : Stage) : List CompileFailure :=
  Verdict.rejected stage.bundle stage.verdicts

/-- The module of the bundle, if there is one. -/
def modules (stage : Stage) : List AssembledModule :=
  if stage.accepted = [] then [] else [AssembledModule.of stage.bundle stage.accepted]

/-- The module of the accepted templates is written as a whole, and nothing else but missing
directories; without accepted templates, and on a dry run, nothing changes. -/
def Writes (settings : Settings) (stage : Stage) : Prop :=
  if stage.accepted = [] ∨ settings.dryRun = true then stage.after = stage.before
  else ∃ content, settings.encoding.encode (ModuleText.render stage.accepted).toList =
    some content ∧ stage.before.Stores stage.bundle.outputFile content stage.after

variable {stage : Stage} {settings : Settings}

theorem writes_of_idle (idle : stage.accepted = [] ∨ settings.dryRun = true)
    (same : stage.after = stage.before) : stage.Writes settings := by
  rw [Writes, if_pos idle]
  exact same

theorem writes_of_stored {content : Bytes} (filled : stage.accepted ≠ [])
    (real : settings.dryRun = false)
    (encoded : settings.encoding.encode (ModuleText.render stage.accepted).toList = some content)
    (stored : stage.before.Stores stage.bundle.outputFile content stage.after) :
    stage.Writes settings := by
  rw [Writes, if_neg]
  · exact ⟨content, encoded, stored⟩
  · rintro (empty | dry)
    · exact filled empty
    · rw [real] at dry
      cases dry

theorem modules_of_nil (stage : Stage) (empty : stage.accepted = []) : stage.modules = [] :=
  if_pos empty

theorem modules_of_ne_nil (stage : Stage) (filled : stage.accepted ≠ []) :
    stage.modules = [AssembledModule.of stage.bundle stage.accepted] :=
  if_neg filled

end Stage

namespace Run

variable {σ : Type} (compiler : Compiler σ) (settings : Settings)

/-- How a run comes past a bundle. -/
structure Passes (before : Progress σ) (stage : Stage) (after : Progress σ) : Prop where
  judged : judge compiler settings stage.before before.engineState stage.bundle.templates =
    .ok (stage.verdicts, after.engineState)
  writes : stage.Writes settings
  failures : after.failures = before.failures ++ stage.rejected
  modules : after.modules = before.modules ++ stage.modules
  templatesCompiled : after.templatesCompiled = before.templatesCompiled + stage.accepted.length
  strict : settings.failurePolicy = .failFast → stage.rejected = []

/-- What is said of a run that was given a bundle: it comes past it, or ends there with at most
new directories. -/
def Processes (bundle : Bundle) (before : Progress σ) (world : World) {α : Type} :
    Except (RunError × World) (α × Progress σ × World) → Prop
  | .ok (_, after, later) => later.files.WellFormed ∧ ∃ verdicts,
    Passes compiler settings before ⟨bundle, world.files, verdicts, later.files⟩ after
  | .error (error, later) => later.files.WellFormed ∧ world.files.AddsDirectories later.files ∧
    error.phase = .walking

/-- What is done with the compiled templates of a bundle. -/
def finish (bundle : Bundle) (compiled : List CompiledTemplate) : RunStep σ Unit := do
  if compiled.isEmpty then return ()
  modify fun progress =>
    { progress with templatesCompiled := progress.templatesCompiled + compiled.length }
  let written ← assemble settings bundle compiled
  modify fun progress => { progress with modules := progress.modules ++ [written] }

theorem processBundle_eq (cancelled : Cancellation) (engine : Engine) (bundle : Bundle) :
    processBundle compiler settings cancelled engine bundle =
      compileAll compiler settings cancelled engine bundle bundle.templates >>=
        finish settings bundle :=
  rfl

theorem processBundle_after (cancelled : Cancellation) (engine : Engine) (bundle : Bundle)
    (state : Progress σ × World) :
    steps.after (processBundle compiler settings cancelled engine bundle) state =
      match steps.run (compileAll compiler settings cancelled engine bundle bundle.templates)
        state with
      | .ok (compiled, later) => steps.after (finish settings bundle compiled) later
      | .error stopped => .error stopped := by
  rw [processBundle_eq, Walk.Runner.after, steps.run_bind]
  rcases steps.run (compileAll compiler settings cancelled engine bundle bundle.templates) state
    with stopped | ⟨compiled, later⟩ <;> rfl

section Finish

variable {compiler settings} {bundle : Bundle} {compiled : List CompiledTemplate}
  {progress : Progress σ} {world : World}

theorem finish_nil : steps.run (finish settings bundle []) (progress, world) =
    .ok ((), progress, world) :=
  rfl

/-- Whether it is written or not, a module is reported as one of the bundle. -/
theorem finish_of_ne_nil (filled : compiled ≠ []) :
    steps.run (finish settings bundle compiled) (progress, world) =
      if settings.dryRun then .ok ((), { progress with
        templatesCompiled := progress.templatesCompiled + compiled.length
        modules := progress.modules ++ [AssembledModule.of bundle compiled] }, world)
      else match Effect.run (ModuleText.assemble bundle compiled settings.encoding) world with
        | (.ok written, later) => .ok ((), { progress with
          templatesCompiled := progress.templatesCompiled + compiled.length
          modules := progress.modules ++ [written] }, later)
        | (.error error, later) => .error (.assemble error, later) := by
  have some : ¬ compiled.isEmpty = true := fun none => filled (List.isEmpty_iff.mp none)
  rw [finish, if_neg some, steps.run_bind, run_modify]
  simp only
  rw [steps.run_bind, assemble_run]
  cases settings.dryRun with
  | true => rfl
  | false =>
      simp only [Bool.false_eq_true, if_false]
      cases Effect.run (ModuleText.assemble bundle compiled settings.encoding) world with
      | mk result later => cases result <;> rfl

/-- A bundle that was judged is passed when its module is taken care of. -/
theorem Judged.passes {before : Progress σ} {files after : FileTree} {verdicts : List Verdict}
    (judged : Judged compiler settings files bundle bundle.templates before progress verdicts)
    (writes : Stage.Writes settings ⟨bundle, files, verdicts, after⟩) :
    Passes compiler settings before ⟨bundle, files, verdicts, after⟩ { progress with
      templatesCompiled := progress.templatesCompiled + (Verdict.accepted verdicts).length
      modules := progress.modules ++ Stage.modules ⟨bundle, files, verdicts, after⟩ } where
  judged := judged.judged
  writes := writes
  failures := judged.failures
  modules := by rw [judged.modules]
  templatesCompiled := by rw [judged.templatesCompiled, Stage.accepted]
  strict := judged.strict

theorem finish_processes {before : Progress σ} {start : World} {verdicts : List Verdict}
    (judged : Judged compiler settings start.files bundle bundle.templates before progress verdicts)
    (kept : world.files = start.files) (wellFormed : world.files.WellFormed) :
    Processes compiler settings bundle before start
      (steps.run (finish settings bundle (Verdict.accepted verdicts)) (progress, world)) := by
  by_cases none : Verdict.accepted verdicts = []
  · have writes : Stage.Writes settings ⟨bundle, start.files, verdicts, world.files⟩ :=
      Stage.writes_of_idle (Or.inl none) kept
    have passes := judged.passes writes
    rw [Stage.modules_of_nil ⟨bundle, start.files, verdicts, world.files⟩ none, List.append_nil,
      none] at passes
    rw [none, finish_nil]
    exact ⟨wellFormed, verdicts, passes⟩
  · rw [finish_of_ne_nil none]
    cases dry : settings.dryRun with
    | true =>
        have writes : Stage.Writes settings ⟨bundle, start.files, verdicts, world.files⟩ :=
          Stage.writes_of_idle (Or.inr dry) kept
        have passes := judged.passes writes
        rw [Stage.modules_of_ne_nil ⟨bundle, start.files, verdicts, world.files⟩ none] at passes
        exact ⟨wellFormed, verdicts, passes⟩
    | false =>
        have leaves := assemble_leaves bundle (Verdict.accepted verdicts) settings.encoding
          wellFormed
        simp only [Bool.false_eq_true, if_false]
        cases wrote : Effect.run (ModuleText.assemble bundle (Verdict.accepted verdicts)
            settings.encoding) world with
        | mk result last =>
            cases result with
            | error error =>
                obtain ⟨stillWellFormed, adds⟩ := leaves_of_error leaves wrote
                rw [kept] at adds
                exact ⟨stillWellFormed, adds, rfl⟩
            | ok written =>
                obtain ⟨stillWellFormed, content, encoded, stored⟩ := leaves_of_ok leaves wrote
                rw [kept] at stored
                have writes : Stage.Writes settings ⟨bundle, start.files, verdicts, last.files⟩ :=
                  Stage.writes_of_stored none dry encoded stored
                have passes := judged.passes writes
                rw [Stage.modules_of_ne_nil ⟨bundle, start.files, verdicts, last.files⟩ none]
                  at passes
                obtain rfl := assemble_value wrote
                exact ⟨stillWellFormed, verdicts, passes⟩

end Finish

theorem processBundle_processes (cancelled : Cancellation) (engine : Engine) (bundle : Bundle)
    (progress : Progress σ) (world : World) (wellFormed : world.files.WellFormed) :
    Processes compiler settings bundle progress world
      (steps.run (processBundle compiler settings cancelled engine bundle) (progress, world)) := by
  have judges := compileAll_judges compiler settings bundle cancelled engine bundle.templates
    progress world
  rw [processBundle_eq, steps.run_bind]
  split
  · next compiled state ran =>
    obtain ⟨middle, later⟩ := state
    rw [ran] at judges
    obtain ⟨kept, verdicts, judged, rfl⟩ := judges
    rw [← kept] at wellFormed
    exact finish_processes judged kept wellFormed
  · next error ran =>
    rw [ran] at judges
    obtain ⟨kept, other⟩ := judges
    refine ⟨kept ▸ wellFormed, ?_, other⟩
    rw [kept]
    exact .refl _

end Run

end TemplateBuild

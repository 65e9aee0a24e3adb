import TemplateBuild.Proofs.Run.Stages
import TemplateBuild.Proofs.Walk.Directory

/-!
# Accounts of runs

An account of a run tells which bundles it came past, with the files before and after each, up
to a situation in which it ended.  Bundles are faced in the order of the walk through the files
as they are at the time.
-/

set_option autoImplicit false

namespace TemplateBuild

open Walk (Errand Item Course)

/-- Where a run is: the files, what is still ahead of the walk, and what the engine remembers. -/
structure Situation (σ : Type) where
  files : FileTree
  agenda : List Errand
  engineState : σ

/-- The walk yields this item next. -/
def Situation.Faces {σ : Type} (walk : Walk) (situation : Situation σ) (item : Item) : Prop :=
  ∃ errand rest, situation.agenda = errand :: rest ∧
    errand.item? walk situation.files = some item

/-- The stages that lead from one situation to another. -/
inductive Account {σ : Type} (compiler : Compiler σ) (settings : Settings) (walk : Walk) :
    Situation σ → List Stage → Situation σ → Prop
  | rest (situation : Situation σ) : Account compiler settings walk situation [] situation
  | silent {files : FileTree} {errand : Errand} {agenda : List Errand} {engineState : σ}
      {stages : List Stage} {last : Situation σ} : errand.item? walk files = none →
      Account compiler settings walk ⟨files, errand.below files ++ agenda, engineState⟩ stages
        last →
      Account compiler settings walk ⟨files, errand :: agenda, engineState⟩ stages last
  | stage {stage : Stage} {errand : Errand} {agenda : List Errand} {engineState next : σ}
      {stages : List Stage} {last : Situation σ} :
      errand.item? walk stage.before = some (.ok stage.bundle) →
      Run.judge compiler settings stage.before engineState stage.bundle.templates =
        .ok (stage.verdicts, next) →
      stage.Writes settings → stage.after.WellFormed →
      Account compiler settings walk ⟨stage.after, errand.below stage.before ++ agenda, next⟩
        stages last →
      Account compiler settings walk ⟨stage.before, errand :: agenda, engineState⟩
        (stage :: stages) last

namespace Account

variable {σ : Type} {compiler : Compiler σ} {settings : Settings} {walk : Walk}
  {first last : Situation σ} {stages : List Stage}

/-- The walk behind an account, with its bundles. -/
theorem sweep (account : Account compiler settings walk first stages last) :
    first.files.WellFormed → ∃ done, Walk.Sweep first.agenda done last.agenda ∧
      (∀ step ∈ done, step.2.WellFormed) ∧
        walk.given done = stages.map fun stage => .ok stage.bundle := by
  induction account with
  | rest situation =>
      intro _
      exact ⟨[], .rest _, fun _ member => (by cases member), rfl⟩
  | @silent files errand agenda engineState stages last yields _ ih =>
      intro wellFormed
      obtain ⟨done, sweep, sound, bundles⟩ := ih wellFormed
      refine ⟨(errand, files) :: done, .next files sweep,
        List.forall_mem_cons.mpr ⟨wellFormed, sound⟩, ?_⟩
      rw [Walk.given_cons_of_none done yields]
      exact bundles
  | @stage stage errand agenda engineState next stages last yields _ _ stillWellFormed _ ih =>
      intro wellFormed
      obtain ⟨done, sweep, sound, bundles⟩ := ih stillWellFormed
      refine ⟨(errand, stage.before) :: done, .next stage.before sweep,
        List.forall_mem_cons.mpr ⟨wellFormed, sound⟩, ?_⟩
      rw [Walk.given_cons_of_some done yields, List.map_cons]
      exact congrArg _ bundles

theorem templates (account : Account compiler settings walk first stages last) :
    ∀ stage ∈ stages, stage.verdicts.map Verdict.template = stage.bundle.templates := by
  induction account with
  | rest situation =>
      intro stage member
      cases member
  | silent _ _ ih => exact ih
  | stage _ judged _ _ _ ih => exact List.forall_mem_cons.mpr ⟨Run.judge_templates judged, ih⟩

/-- No template is rejected twice. -/
theorem rejected_nodup (account : Account compiler settings walk first stages last)
    (wellFormed : first.files.WellFormed) (begins : first.agenda = walk.begin first.files) :
    ((stages.flatMap Stage.rejected).map fun failure => failure.template.components).Nodup := by
  obtain ⟨done, sweep, sound, bundles⟩ := account.sweep wellFormed
  rw [begins] at sweep
  obtain ⟨starts, apart⟩ := Walk.begin_sound walk first.files
  have distinct := sweep.templates_nodup walk sound starts apart
  have whole : Walk.bundlesAmong (walk.given done) = stages.map Stage.bundle := by
    rw [bundles, Walk.bundlesAmong, List.filterMap_map]
    exact congrFun List.filterMap_eq_map stages
  rw [whole, Walk.templatePaths, List.flatMap_map] at distinct
  refine List.Nodup.sublist ?_ distinct
  have listed := account.templates
  clear account sweep bundles whole distinct
  rw [List.map_flatMap]
  induction stages with
  | nil => exact List.Sublist.slnil
  | cons stage rest ih =>
      obtain ⟨first, others⟩ := List.forall_mem_cons.mp listed
      rw [List.flatMap_cons, List.flatMap_cons]
      refine List.Sublist.append ?_ (ih others)
      rw [← first, List.map_map]
      have paths := (Verdict.rejected_sublist stage.bundle stage.verdicts).map Path.components
      rw [List.map_map, List.map_map] at paths
      exact paths

end Account

namespace Run

variable {σ : Type} (compiler : Compiler σ) (settings : Settings) (cancelled : Cancellation)
  (engine : Engine)

/-! ## Taking items -/

/-- What becomes of an error that a walk yields. -/
theorem take_error_eq (progress : Progress σ) (world : World) (error : WalkError) :
    steps.take (visitor compiler settings cancelled engine) (progress, world) (.error error) =
      .error (if cancelled progress.polls progress.accepted then .cancelled else .walk error,
        world) := by
  simp only [Walk.Runner.take, Walk.Runner.after, visitor]
  rw [steps.run_bind, checkCancelled_run]
  cases cancelled progress.polls progress.accepted <;> rfl

/-- The world when the warnings for a bundle are given. -/
def warned (world : World) (bundle : Bundle) : World :=
  { world with
    warnings := world.warnings ++ Walk.collisions bundle.sourceDirectory [] bundle.templates }

/-- What becomes of a bundle that a walk yields. -/
theorem take_bundle_eq (progress : Progress σ) (world : World) (bundle : Bundle) :
    steps.take (visitor compiler settings cancelled engine) (progress, world) (.ok bundle) =
      if cancelled progress.polls progress.accepted then .error (.cancelled, warned world bundle)
      else steps.after (processBundle compiler settings cancelled engine bundle)
        ({ progress with polls := progress.polls + 1 }, warned world bundle) := by
  simp only [Walk.Runner.take, Walk.Runner.after, visitor]
  rw [steps.run_bind, run_lift, Effect.run_warnAll]
  simp only
  rw [steps.run_bind, checkCancelled_run]
  cases cancelled progress.polls progress.accepted <;> rfl

theorem take_bundle (progress : Progress σ) (world : World) (bundle : Bundle)
    (wellFormed : world.files.WellFormed) :
    Processes compiler settings bundle progress world
      ((steps.take (visitor compiler settings cancelled engine) (progress, world)
        (.ok bundle)).map fun state => ((), state)) := by
  rw [take_bundle_eq]
  split
  · exact ⟨wellFormed, .refl _, rfl⟩
  · rw [Walk.Runner.after_map]
    have processed := processBundle_processes compiler settings cancelled engine bundle
      { progress with polls := progress.polls + 1 } (warned world bundle) wellFormed
    rcases ran : steps.run (processBundle compiler settings cancelled engine bundle)
      ({ progress with polls := progress.polls + 1 }, warned world bundle) with error | reached
    · rw [ran] at processed
      exact processed
    · rw [ran] at processed
      obtain ⟨stillWellFormed, verdicts, passes⟩ := processed
      exact ⟨stillWellFormed, verdicts, passes.judged, passes.writes, passes.failures,
        passes.modules, passes.templatesCompiled, passes.strict⟩

/-- A run that has taken a bundle has come past it. -/
theorem passes_of_take {progress middle : Progress σ} {world later : World} {bundle : Bundle}
    (wellFormed : world.files.WellFormed)
    (takes : steps.take (visitor compiler settings cancelled engine) (progress, world)
      (.ok bundle) = .ok (middle, later)) : later.files.WellFormed ∧ ∃ verdicts,
      Passes compiler settings progress ⟨bundle, world.files, verdicts, later.files⟩ middle := by
  have processed := take_bundle compiler settings cancelled engine progress world bundle wellFormed
  rw [takes] at processed
  exact processed

/-- A run that has taken an item has taken a bundle. -/
theorem bundle_of_take {progress : Progress σ} {world : World} {item : Item}
    {reached : Progress σ × World}
    (takes : steps.take (visitor compiler settings cancelled engine) (progress, world) item =
      .ok reached) : ∃ bundle, item = .ok bundle := by
  cases item with
  | error error =>
      rw [take_error_eq] at takes
      cases takes
  | ok bundle => exact ⟨bundle, rfl⟩

/-- The files of a run. -/
def filesOf (state : Progress σ × World) : FileTree :=
  state.2.files

theorem visitor_serves : steps.Serves (visitor compiler settings cancelled engine)
    (filesOf (σ := σ)) where
  files := fun ⟨progress, world⟩ => by
    rw [visitor, run_lift, Effect.run_files]
    rfl
  keeps := by
    rintro ⟨progress, world⟩ item ⟨after, later⟩ wellFormed takes
    obtain ⟨bundle, rfl⟩ := bundle_of_take compiler settings cancelled engine takes
    exact (passes_of_take compiler settings cancelled engine wellFormed takes).1

/-! ## Courses of runs -/

/-- How a run through a walk has ended: it is through with all errands, or it faces an item. -/
def Ended (walk : Walk) (before : Progress σ) (stages : List Stage) (last : Situation σ) :
    Except (RunError × World) (Progress σ × World) → Prop
  | .ok (after, world) => last = ⟨world.files, [], after.engineState⟩ ∧
    after.failures = before.failures ++ stages.flatMap Stage.rejected ∧
    after.modules = before.modules ++ stages.flatMap Stage.modules ∧
    after.templatesCompiled =
      before.templatesCompiled + (stages.flatMap Stage.accepted).length ∧
    (settings.failurePolicy = .failFast → ∀ stage ∈ stages, stage.rejected = [])
  | .error (error, world) => last.files.AddsDirectories world.files ∧
    error.phase = .walking ∧ ∃ item, last.Faces walk item

variable {compiler settings cancelled engine} {walk : Walk}

theorem Ended.pass {before middle : Progress σ} {stage : Stage} {stages : List Stage}
    {last : Situation σ} {result : Except (RunError × World) (Progress σ × World)}
    (passes : Passes compiler settings before stage middle)
    (ended : Ended settings walk middle stages last result) :
    Ended settings walk before (stage :: stages) last result := by
  cases result with
  | error reason => exact ended
  | ok reached =>
      obtain ⟨after, world⟩ := reached
      obtain ⟨through, failures, modules, templatesCompiled, strict⟩ := ended
      refine ⟨through, ?_, ?_, ?_, ?_⟩
      · rw [failures, passes.failures, List.flatMap_cons, List.append_assoc]
      · rw [modules, passes.modules, List.flatMap_cons, List.append_assoc]
      · rw [templatesCompiled, passes.templatesCompiled, List.flatMap_cons, List.length_append,
          Nat.add_assoc]
      · intro policy
        exact List.forall_mem_cons.mpr ⟨passes.strict policy, strict policy⟩

/-- What is passed first comes first in an account. -/
theorem Passes.account {before middle : Progress σ} {stage : Stage} {stages : List Stage}
    {errand : Errand} {agenda : List Errand} {last : Situation σ}
    (passes : Passes compiler settings before stage middle)
    (faced : errand.item? walk stage.before = some (.ok stage.bundle))
    (wellFormed : stage.after.WellFormed)
    (account : Account compiler settings walk
      ⟨stage.after, errand.below stage.before ++ agenda, middle.engineState⟩ stages last) :
    Account compiler settings walk ⟨stage.before, errand :: agenda, before.engineState⟩
      (stage :: stages) last :=
  .stage faced passes.judged passes.writes wellFormed account

theorem account_of_course {state : Progress σ × World} {agenda : List Errand}
    {result : Except (RunError × World) (Progress σ × World)}
    (course : Course walk filesOf (steps.take (visitor compiler settings cancelled engine)) state
      agenda result) :
    state.2.files.WellFormed → ∃ stages last,
      Account compiler settings walk ⟨state.2.files, agenda, state.1.engineState⟩ stages last ∧
        Ended settings walk state.1 stages last result := by
  induction course with
  | @finished state =>
      intro _
      exact ⟨[], _, .rest _, rfl, by simp, by simp, by simp, by simp⟩
  | silent yields _ ih =>
      intro wellFormed
      obtain ⟨stages, last, account, ended⟩ := ih wellFormed
      exact ⟨stages, last, .silent yields account, ended⟩
  | @taken state later errand agenda item result yields takes _ ih =>
      intro wellFormed
      obtain ⟨progress, world⟩ := state
      obtain ⟨middle, next⟩ := later
      obtain ⟨bundle, rfl⟩ := bundle_of_take compiler settings cancelled engine takes
      obtain ⟨stillWellFormed, verdicts, passes⟩ :=
        passes_of_take compiler settings cancelled engine wellFormed takes
      obtain ⟨stages, last, account, ended⟩ := ih stillWellFormed
      exact ⟨_, last, passes.account yields stillWellFormed account, ended.pass passes⟩
  | @stopped state errand agenda item error yields takes =>
      intro wellFormed
      obtain ⟨progress, world⟩ := state
      obtain ⟨reason, later⟩ := error
      refine ⟨[], _, .rest _, ?_⟩
      cases item with
      | error fault =>
          rw [take_error_eq] at takes
          cases takes
          exact ⟨.refl _, by split <;> rfl, _, _, _, rfl, yields⟩
      | ok bundle =>
          have processed := take_bundle compiler settings cancelled engine progress world bundle
            wellFormed
          rw [takes] at processed
          obtain ⟨_, adds, walking⟩ := processed
          exact ⟨adds, walking, _, _, _, rfl, yields⟩

end Run

end TemplateBuild

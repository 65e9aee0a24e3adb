import TemplateBuild.Proofs.FileTree.Retracing
import TemplateBuild.Proofs.Run.Success

/-!
# Taking a bundle again

A bundle that a run comes past is taken in the same way by a run that goes over the same ground:
the engine is asked the same, and what was written is written again.  Where the first run ended,
the second one ends, with the same error or with what has become of it.
-/

set_option autoImplicit false

namespace TemplateBuild

open FileTree (Retraces Grown)

/-- How the error of a run repeats itself: a directory may fail in another way the next time. -/
inductive RunError.Again : RunError → RunError → Prop
  | same (error : RunError) : Again error error
  | output {path : Path} {failure other : FileFailure} : failure.Again path other →
      Again (.output path failure) (.output path other)
  | directory {path : Path} {failure other : FileFailure} : failure.Again path other →
      Again (.assemble (.directory path failure)) (.assemble (.directory path other))

namespace Run

variable {σ α β : Type}

/-! ## The same texts -/

/-- What a step of a run gives and how far the run has come with it, whatever the world is then. -/
def told : Except (RunError × World) (α × Progress σ × World) → Except RunError (α × Progress σ)
  | .ok (value, progress, _) => .ok (value, progress)
  | .error (error, _) => .error error

/-- Where the same is told, only the worlds differ. -/
theorem told_cases {first second : Except (RunError × World) (α × Progress σ × World)}
    (same : told second = told first) :
    (∃ error left leftAgain, first = .error (error, left) ∧ second = .error (error, leftAgain)) ∨
      ∃ value progress left leftAgain, first = .ok (value, progress, left) ∧
        second = .ok (value, progress, leftAgain) := by
  rcases first with ⟨error, left⟩ | ⟨value, progress, left⟩ <;>
    rcases second with ⟨errorAgain, leftAgain⟩ | ⟨valueAgain, progressAgain, leftAgain⟩ <;>
    cases same
  · exact Or.inl ⟨_, _, _, rfl, rfl⟩
  · exact Or.inr ⟨_, _, _, _, rfl, rfl⟩

theorem told_bind {first : RunStep σ α} {next : α → RunStep σ β} {progress : Progress σ}
    {world again : World}
    (same : told (steps.run first (progress, again)) = told (steps.run first (progress, world)))
    (further : ∀ value later reached reachedAgain,
      steps.run first (progress, world) = .ok (value, later, reached) →
      steps.run first (progress, again) = .ok (value, later, reachedAgain) →
      told (steps.run (next value) (later, reachedAgain)) =
        told (steps.run (next value) (later, reached))) :
    told (steps.run (first >>= next) (progress, again)) =
      told (steps.run (first >>= next) (progress, world)) := by
  rw [steps.run_bind, steps.run_bind]
  rcases told_cases same with ⟨_, _, _, ran, ranAgain⟩ | ⟨_, _, _, _, ran, ranAgain⟩
  · rw [ran, ranAgain]
    rfl
  · rw [ran, ranAgain]
    exact further _ _ _ _ ran ranAgain

section Templates

variable {compiler : Compiler σ} {settings : Settings} {cancelled : Cancellation}
  {engine : Engine} {bundle : Bundle} {world again : World}

/-- The texts of templates are the same in two trees. -/
def SameTexts (encoding : Encoding) (before after : FileTree) (templates : List TemplateSource) :
    Prop :=
  ∀ template ∈ templates, template.readText after encoding = template.readText before encoding

theorem compileTemplate_told {template : TemplateSource} (progress : Progress σ)
    (same : template.readText again.files settings.encoding =
      template.readText world.files settings.encoding) :
    told (steps.run (compileTemplate compiler settings engine bundle template) (progress, again)) =
      told (steps.run (compileTemplate compiler settings engine bundle template)
        (progress, world)) := by
  rw [compileTemplate_run, compileTemplate_run, same]
  cases template.readText world.files settings.encoding with
  | error error => rfl
  | ok text =>
      simp only
      cases (compiler.compile (settings.whitespace.apply text) settings.gate
          progress.engineState).1 with
      | ok fragment => rfl
      | error fault =>
          rw [respond, respond]
          cases settings.failurePolicy <;> rfl

theorem checkCancelled_told (progress : Progress σ) :
    told (steps.run (checkCancelled cancelled) (progress, again)) =
      told (steps.run (checkCancelled cancelled) (progress, world)) := by
  rw [checkCancelled_run, checkCancelled_run]
  split <;> rfl

theorem compileAll_told (templates : List TemplateSource) (progress : Progress σ)
    (same : SameTexts settings.encoding world.files again.files templates) :
    told (steps.run (compileAll compiler settings cancelled engine bundle templates)
        (progress, again)) =
      told (steps.run (compileAll compiler settings cancelled engine bundle templates)
        (progress, world)) := by
  induction templates generalizing progress world again with
  | nil => rfl
  | cons template rest ih =>
      obtain ⟨first, others⟩ := List.forall_mem_cons.mp same
      rw [compileAll]
      apply told_bind (checkCancelled_told progress)
      intro _ polled reached reachedAgain checked checkedAgain
      have kept : reached.files = world.files ∧ reachedAgain.files = again.files := by
        rw [checkCancelled_run] at checked checkedAgain
        split at checked
        · cases checked
        · next goesOn =>
          rw [if_neg goesOn] at checkedAgain
          cases checked
          cases checkedAgain
          exact ⟨rfl, rfl⟩
      rw [← kept.1, ← kept.2] at first others
      apply told_bind (compileTemplate_told polled first)
      intro compiled later next nextAgain ran ranAgain
      have judges := compileTemplate_judges compiler settings bundle engine template polled reached
      have judgesAgain :=
        compileTemplate_judges compiler settings bundle engine template polled reachedAgain
      rw [ran] at judges
      rw [ranAgain] at judgesAgain
      rw [← judges.1, ← judgesAgain.1] at others
      apply told_bind (ih later others)
      intro _ _ _ _ _ _
      rfl

end Templates

/-! ## The same files -/

/-- How what a run takes is taken again, when the first run ends with the tree `last`. -/
def Repeats (wanted : Name → Prop) (last : FileTree) :
    Except (RunError × World) (Progress σ × World) →
      Except (RunError × World) (Progress σ × World) → Prop
  | .ok (progress, world), result => Grown wanted world.files last → ∃ again,
    result = .ok (progress, again) ∧ again.files.WellFormed ∧
      Retraces world.files last again.files
  | .error (error, world), result => world.files = last → ∃ other again,
    result = .error (other, again) ∧ error.Again other ∧ last.Agrees again.files

section Files

variable {wanted : Name → Prop} {last : FileTree} {world again : World}
  (wellFormed : world.files.WellFormed) (free : world.files.LinkFree)
  (againWellFormed : again.files.WellFormed) (againFree : again.files.LinkFree)
  (retraces : Retraces world.files last again.files)

include wellFormed free againWellFormed againFree retraces

/-- A module that was written is written again. -/
theorem write_of_retraces {path : Path} {text : String} {encoding : Encoding} {next : World}
    (wrote : Effect.run (ModuleText.write path text encoding) world = (.ok (), next))
    (grown : Grown wanted next.files last) :
    ∃ now, Effect.run (ModuleText.write path text encoding) again = (.ok (), now) ∧
      now.files.WellFormed ∧ Retraces next.files last now.files := by
  rw [write_run] at wrote
  rw [write_run]
  split at wrote
  · cases wrote
  · next content _ =>
    split at wrote
    · cases wrote
    · next prepared made =>
      split at wrote
      · cases wrote
      · next after replaced =>
        cases wrote
        obtain ⟨madeAgain, now, replacedAgain, nowWellFormed, further⟩ :=
          retraces.stored wellFormed free againWellFormed againFree made replaced grown
        rw [madeAgain]
        simp only
        rw [replacedAgain]
        exact ⟨{ again with files := now }, rfl, nowWellFormed, further⟩

/-- A module that could not be written cannot be written again. -/
theorem write_again_fails {path : Path} {text : String} {encoding : Encoding} {next : World}
    {error : AssembleError}
    (failed : Effect.run (ModuleText.write path text encoding) world = (.error error, next))
    (ends : next.files = last) :
    ∃ other now, Effect.run (ModuleText.write path text encoding) again = (.error other, now) ∧
      (RunError.assemble error).Again (.assemble other) ∧ last.Agrees now.files := by
  rw [write_run] at failed
  rw [write_run]
  split at failed
  · cases failed
    rw [ends] at retraces
    exact ⟨_, again, rfl, .same _, retraces.agrees (.refl last)⟩
  · next content _ =>
    split at failed
    · next failure prepared failedToMake =>
      cases failed
      subst ends
      obtain ⟨other, failsAgain, repeats, agrees⟩ :=
        retraces.not_made wellFormed free failedToMake
      rw [failsAgain]
      exact ⟨_, _, rfl, .directory repeats, agrees⟩
    · next prepared made =>
      split at failed
      · next failure after failedToReplace =>
        cases failed
        subst ends
        obtain ⟨madeAgain, now, failsAgain, agrees⟩ := retraces.not_replaced wellFormed free
          againWellFormed againFree made failedToReplace
        rw [madeAgain]
        simp only
        rw [failsAgain]
        exact ⟨_, { again with files := now }, rfl, .same _, agrees⟩
      · cases failed

/-- What is done with the compiled templates of a bundle is done again. -/
theorem finish_repeats {settings : Settings} (real : settings.dryRun = false) (bundle : Bundle)
    (compiled : List CompiledTemplate) (progress : Progress σ) :
    Repeats wanted last (steps.after (finish settings bundle compiled) (progress, world))
      (steps.after (finish settings bundle compiled) (progress, again)) := by
  rw [Walk.Runner.after, Walk.Runner.after]
  by_cases none : compiled = []
  · subst none
    rw [finish_nil, finish_nil]
    exact fun _ => ⟨again, rfl, againWellFormed, retraces⟩
  · rw [finish_of_ne_nil none, finish_of_ne_nil none, real]
    simp only [Bool.false_eq_true, if_false]
    rw [assemble_effect_run, assemble_effect_run]
    rcases wrote : Effect.run (ModuleText.write bundle.outputFile (ModuleText.render compiled)
        settings.encoding) world with ⟨error | done, next⟩
    · intro ends
      obtain ⟨other, now, failsAgain, repeats, agrees⟩ := write_again_fails wellFormed free
        againWellFormed againFree retraces wrote ends
      rw [failsAgain]
      exact ⟨_, now, rfl, repeats, agrees⟩
    · intro grown
      obtain ⟨now, wroteAgain, nowWellFormed, further⟩ := write_of_retraces wellFormed free
        againWellFormed againFree retraces wrote grown
      rw [wroteAgain]
      exact ⟨now, rfl, nowWellFormed, further⟩

end Files

/-- Whatever a run takes, it takes again. -/
theorem take_repeats (compiler : Compiler σ) {settings : Settings} (cancelled : Cancellation)
    (engine : Engine) (real : settings.dryRun = false) {wanted : Name → Prop} {last : FileTree}
    {world again : World} (wellFormed : world.files.WellFormed) (free : world.files.LinkFree)
    (againWellFormed : again.files.WellFormed) (againFree : again.files.LinkFree)
    (retraces : Retraces world.files last again.files) {item : Walk.Item}
    (same : ∀ bundle, item = .ok bundle →
      SameTexts settings.encoding world.files again.files bundle.templates)
    (progress : Progress σ) :
    Repeats wanted last
      (steps.take (visitor compiler settings cancelled engine) (progress, world) item)
      (steps.take (visitor compiler settings cancelled engine) (progress, again) item) := by
  cases item with
  | error error =>
      rw [take_error_eq, take_error_eq]
      rintro rfl
      exact ⟨_, again, rfl, .same _, retraces.agrees (.refl _)⟩
  | ok bundle =>
      rw [take_bundle_eq, take_bundle_eq]
      split
      · rintro rfl
        exact ⟨_, warned again bundle, rfl, .same _, retraces.agrees (.refl _)⟩
      · rw [processBundle_after, processBundle_after]
        let polled : Progress σ := { progress with polls := progress.polls + 1 }
        have compiles : told (steps.run (compileAll compiler settings cancelled engine bundle
            bundle.templates) (polled, warned again bundle)) =
              told (steps.run (compileAll compiler settings cancelled engine bundle
                bundle.templates) (polled, warned world bundle)) :=
          compileAll_told bundle.templates polled (same bundle rfl)
        have judges := compileAll_judges compiler settings bundle cancelled engine bundle.templates
          polled (warned world bundle)
        have judgesAgain := compileAll_judges compiler settings bundle cancelled engine
          bundle.templates polled (warned again bundle)
        rcases told_cases compiles with ⟨error, left, leftAgain, ran, ranAgain⟩ |
          ⟨compiled, later, reached, reachedAgain, ran, ranAgain⟩
        · rw [ran] at judges ⊢
          rw [ranAgain] at judgesAgain ⊢
          rintro rfl
          refine ⟨_, leftAgain, rfl, .same _, ?_⟩
          rw [judgesAgain.1]
          exact retraces.agrees (judges.1 ▸ .refl _)
        · rw [ran] at judges ⊢
          rw [ranAgain] at judgesAgain ⊢
          have kept : reached.files = world.files := judges.1
          have keptAgain : reachedAgain.files = again.files := judgesAgain.1
          rw [← kept] at wellFormed free retraces
          rw [← keptAgain] at againWellFormed againFree retraces
          exact finish_repeats wellFormed free againWellFormed againFree retraces real bundle
            compiled later

end Run

end TemplateBuild

import Mathlib.Data.Finset.Card
import TemplateBuild.Proofs.Module.Registrations
import TemplateBuild.Proofs.Run.Preparing

/-!
# Templates of one name

A template is known in its module by its file name without the extension.  If the file names are
text, templates of a bundle that share a name have different extensions; names that are not text
can become the same in any case.  Whoever comes later in the order of file names is warned of, and
registered in the place of those before it.
-/

set_option autoImplicit false

namespace TemplateBuild

open FileTree (Precedes)

namespace TemplateSource

/-! ## Names and extensions -/

/-- The file name of the first template precedes that of the second. -/
def ComesBefore (first second : TemplateSource) : Prop :=
  ∃ name other, first.path.fileName = some name ∧ second.path.fileName = some other ∧
    Precedes name other

theorem comesBefore_asymm {first second : TemplateSource} (before : first.ComesBefore second) :
    ¬ second.ComesBefore first := by
  rintro ⟨_, _, isSecond, isFirst, after⟩
  obtain ⟨_, _, isFirstToo, isSecondToo, precedes⟩ := before
  rw [isFirst, Option.some_inj] at isFirstToo
  rw [isSecond, Option.some_inj] at isSecondToo
  subst isFirstToo isSecondToo
  exact FileTree.precedes_asymm precedes after

/-- The logical name, a dot and the extension make up the text. -/
structure Spells (template : TemplateSource) (text extension : String) : Prop where
  whole : text = template.logicalName ++ "." ++ extension
  ending : template.path.extension = some (Bytes.ofString extension)

section Spelled

variable {templates : List TemplateSource} {extensions : List String}

end Spelled

end TemplateSource

/-! ## Bundles -/

namespace Bundle

variable {bundle : Bundle} {extensions : List String}

/-- File names that are not text can give the same name with the same extension. -/
example : ((TemplateSource.ofPath ⟨[0xFF, 0x2E, 0x68]⟩).logicalName,
    (TemplateSource.ofPath ⟨[0xFE, 0x2E, 0x68]⟩).logicalName) = ("\uFFFD", "\uFFFD") := by
  decide

end Bundle

/-! ## Warnings -/

namespace TemplateSource

/-- The templates whose name one before them has too. -/
def repeated (templates : List TemplateSource) : List TemplateSource :=
  (templates.zipIdx.filter fun entry =>
    entry.1.logicalName ∈ (templates.take entry.2).map logicalName).map Prod.fst

end TemplateSource

namespace Run

variable {σ α β : Type}

/-- The world in which a step of a run ends. -/
def worldAfter : Except (RunError × World) (α × Progress σ × World) → World
  | .ok (_, _, later) => later
  | .error (_, later) => later

/-- Between the worlds only rejected templates were warned of. -/
def WarnsOfRejections (before after : World) : Prop :=
  ∃ failures : List CompileFailure, after.warnings = before.warnings ++
    failures.map fun failure => .rejected failure.template failure.fault

theorem WarnsOfRejections.of_eq {before after : World} (same : after.warnings = before.warnings) :
    WarnsOfRejections before after :=
  ⟨[], same.trans (List.append_nil _).symm⟩

theorem WarnsOfRejections.trans {before middle after : World}
    (first : WarnsOfRejections before middle) (second : WarnsOfRejections middle after) :
    WarnsOfRejections before after := by
  obtain ⟨failures, told⟩ := first
  obtain ⟨others, toldToo⟩ := second
  exact ⟨failures ++ others, by rw [toldToo, told, List.append_assoc, List.map_append]⟩

/-- Writing a module gives no warnings. -/
theorem warnings_assemble (bundle : Bundle) (templates : List CompiledTemplate)
    (encoding : Encoding) (world : World) :
    (Effect.run (ModuleText.assemble bundle templates encoding) world).2.warnings =
      world.warnings := by
  have written : (Effect.run (ModuleText.write bundle.outputFile (ModuleText.render templates)
      encoding) world).2.warnings = world.warnings := by
    rw [write_run]
    split
    · rfl
    · split
      · rfl
      · split <;> rfl
  rw [assemble_effect_run]
  split
  · next later ran =>
    rw [ran] at written
    exact written
  · next error later ran =>
    rw [ran] at written
    exact written

/-- Whether the step fails or not, it warns of nothing but rejected templates. -/
def OnlyRejects (step : RunStep σ α) : Prop :=
  ∀ progress world, WarnsOfRejections world (worldAfter (steps.run step (progress, world)))

namespace OnlyRejects

theorem pure (value : α) : OnlyRejects (pure value : RunStep σ α) :=
  fun _ _ => .of_eq rfl

theorem modify (change : Progress σ → Progress σ) : OnlyRejects (modify change : RunStep σ PUnit) :=
  fun _ _ => .of_eq rfl

theorem bind {step : RunStep σ α} {next : α → RunStep σ β} (first : OnlyRejects step)
    (second : ∀ value, OnlyRejects (next value)) : OnlyRejects (step >>= next) := by
  intro progress world
  have told := first progress world
  rw [steps.run_bind]
  cases ran : steps.run step (progress, world) with
  | error stopped =>
      rw [ran] at told
      exact told
  | ok reached =>
      obtain ⟨value, middle, later⟩ := reached
      rw [ran] at told
      exact told.trans (second value middle later)

theorem checkCancelled (cancelled : Cancellation) :
    OnlyRejects (checkCancelled cancelled : RunStep σ Unit) := by
  intro progress world
  rw [checkCancelled_run]
  split <;> exact .of_eq rfl

variable (compiler : Compiler σ) (settings : Settings) (cancelled : Cancellation)
  (engine : Engine) (bundle : Bundle)

theorem compileTemplate (template : TemplateSource) :
    OnlyRejects (compileTemplate compiler settings engine bundle template) := by
  intro progress world
  rw [compileTemplate_run]
  cases template.readText world.files settings.encoding with
  | error error => exact .of_eq rfl
  | ok text =>
      simp only
      cases (compiler.compile (settings.whitespace.apply text) settings.gate
          progress.engineState).1 with
      | ok fragment => exact .of_eq rfl
      | error fault =>
          rw [respond]
          cases settings.failurePolicy with
          | failFast => exact .of_eq rfl
          | collectAll => exact ⟨[⟨template.path, bundle.sourceDirectory, fault⟩], rfl⟩

theorem compileAll : ∀ templates : List TemplateSource,
    OnlyRejects (compileAll compiler settings cancelled engine bundle templates) := by
  intro templates
  induction templates with
  | nil => exact pure []
  | cons template rest ih =>
      rw [Run.compileAll]
      refine (checkCancelled cancelled).bind fun _ => ?_
      refine (compileTemplate compiler settings engine bundle template).bind fun compiled => ?_
      exact ih.bind fun others => pure _

theorem assemble (templates : List CompiledTemplate) :
    OnlyRejects (assemble settings bundle templates : RunStep σ AssembledModule) := by
  intro progress world
  refine .of_eq ?_
  have kept := warnings_assemble bundle templates settings.encoding world
  rw [assemble_run]
  split
  · rfl
  · split
    · next written later ran =>
      rw [ran] at kept
      exact kept
    · next error later ran =>
      rw [ran] at kept
      exact kept

theorem processBundle : OnlyRejects (processBundle compiler settings cancelled engine bundle) := by
  rw [processBundle_eq]
  refine (compileAll compiler settings cancelled engine bundle bundle.templates).bind
    fun compiled => ?_
  rw [finish]
  split
  · exact pure ()
  · refine (modify _).bind fun _ => ?_
    exact (assemble settings bundle compiled).bind fun _ => modify _

theorem visit : OnlyRejects ((visitor compiler settings cancelled engine).visit (.ok bundle)) :=
  (checkCancelled cancelled).bind fun _ =>
    processBundle compiler settings cancelled engine bundle

end OnlyRejects

end Run

/-! ## Registration -/

namespace Verdict

variable {verdicts : List Verdict} {verdict : Verdict} {name : String}

/-- A template of this name was accepted. -/
def Provides (verdict : Verdict) (name : String) : Prop :=
  verdict.template.logicalName = name ∧ ∃ fragment, verdict.answer = .ok fragment

/-- A template of this name was accepted, and all others that were come before it. -/
structure IsLast (verdicts : List Verdict) (name : String) (verdict : Verdict) : Prop where
  isIn : verdict ∈ verdicts
  provides : verdict.Provides name
  atLast : ∀ other ∈ verdicts, other.Provides name →
    other = verdict ∨ other.template.ComesBefore verdict.template

theorem IsLast.unique {other : Verdict} (isLast : IsLast verdicts name verdict)
    (isLastToo : IsLast verdicts name other) : other = verdict := by
  rcases isLast.atLast other isLastToo.isIn isLastToo.provides with same | before
  · exact same
  · rcases isLastToo.atLast verdict isLast.isIn isLast.provides with same | after
    · exact same.symm
    · exact absurd after (TemplateSource.comesBefore_asymm before)

theorem IsLast.append_singleton {last : Verdict} (isLast : IsLast verdicts name verdict)
    (unprovided : ¬ last.Provides name) : IsLast (verdicts ++ [last]) name verdict := by
  refine ⟨List.mem_append_left _ isLast.isIn, isLast.provides, fun other isInToo providesToo => ?_⟩
  rcases List.mem_append.mp isInToo with isBefore | isSame
  · exact isLast.atLast other isBefore providesToo
  · rw [List.mem_singleton] at isSame
    exact absurd (isSame ▸ providesToo) unprovided

end Verdict

namespace Run

variable {σ : Type} {compiler : Compiler σ} {settings : Settings} {cancelled : Cancellation}
  {engine : Engine}

end Run

end TemplateBuild

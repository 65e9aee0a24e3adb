import TemplateBuild.Proofs.Run.Dryness
import TemplateBuild.Proofs.Run.Success
import TemplateBuild.Proofs.Walk.Sheltered

/-!
# Fresh output directories

While the modules of a run have a directory of their own, each of them can be written when its
bundle is taken.  Such a walk may end with an error of another kind only.

Before the walk a run creates its output directory and provides its engine.  Where there was
nothing at the place of the directory, and no path that is needed for this leads through a name in
it, the directory is empty when the walk begins.
-/

set_option autoImplicit false

namespace TemplateBuild

/-- Whether a directory or a file for a module could not be made. -/
def RunError.Hinders : RunError → Prop
  | .assemble (.directory _ _) | .assemble (.write _ _) => True
  | _ => False

theorem RunError.Hinders.phase {error : RunError} (hinders : error.Hinders) :
    error.phase = .walking := by
  rw [Hinders.eq_def] at hinders
  split at hinders
  · rfl
  · rfl
  · cases hinders

namespace Run

variable {σ : Type} {compiler : Compiler σ} {settings : Settings} {cancelled : Cancellation}
  {engine : Engine} {walk : Walk} {ready : FileTree} {place target : Place} {way : List Name}

/-! ## Compiling -/

end Run

open Effect

/-- There is nothing in the place of the output directory, and nothing comes into it before the
walk. -/
structure Settings.Fresh (settings : Settings) (files : FileTree) : Prop where
  missing : files.entry? (files.landingOf settings.outputDirectory) = none
  output : files.PassesBy (files.landingOf settings.outputDirectory) settings.outputDirectory
  engine : settings.provisioning.present? settings.engine files = none →
    files.PassesBy (files.landingOf settings.outputDirectory) settings.provisioning.cacheDirectory ∧
      files.PassesBy (files.landingOf settings.outputDirectory)
        (settings.provisioning.cacheEntry settings.engine).path

/-- Providing an engine brings nothing into a directory that the paths of the cache pass by. -/
theorem Provisioning.Touches.absent {provisioning : Provisioning} {engine : String}
    {before after : FileTree} {place : Place} {name : Name}
    (touches : provisioning.Touches engine before after) (free : before.LinkFree)
    (plain : Engine.isPlainName engine = true)
    (passes : provisioning.present? engine before = none →
      before.PassesBy place provisioning.cacheDirectory ∧
        before.PassesBy place (provisioning.cacheEntry engine).path)
    (absent : before.entry? (place ++ [name]) = none) : after.entry? (place ++ [name]) = none := by
  cases touches with
  | nothing => exact absent
  | directories missing adds opens =>
      exact opens.absent (adds.linkFree free) adds.working (passes missing).1 absent
  | @script middle _ directory _ missing installs _ =>
      have middleFree := installs.adds.linkFree free
      have landing : middle.landingOf (provisioning.cacheEntry engine).path =
          directory ++ [Bytes.ofString engine] :=
        FileTree.landingOf_joinName middleFree (Engine.plain_of_isPlainName plain) installs.reached
      rw [installs.puts.entries, if_neg]
      · exact installs.opens.absent middleFree installs.adds.working (passes missing).1 absent
      · intro here
        rw [← landing] at here
        exact (passes missing).2.congr installs.adds.working _ (.itself _) name here.symm

namespace Run

variable {σ : Type} {compiler : Compiler σ} {settings : Settings} {cancelled : Cancellation}
  {world later ready : World} {root : Path} {engine : Engine} {start : σ}

/-- The tree in which the walk of a run begins, and where the walk begins. -/
def Begins (compiler : Compiler σ) (settings : Settings) (world : World) (root : Path)
    (ready : FileTree) : Prop :=
  ∃ engine start later,
    Effect.run (prepare compiler settings) world = (.ok (root, engine, start), later) ∧
      later.files = ready

section Fresh

variable {files : FileTree} (wellFormed : world.files.WellFormed) (free : world.files.LinkFree)
  (real : settings.dryRun = false) (preserves : settings.hierarchy = .preserve)
  (filled : settings.outputExtension ≠ "") (slashless : '/' ∉ settings.outputExtension.toList)
  (zeroless : '\x00' ∉ settings.outputExtension.toList) (fresh : settings.Fresh world.files)
  (outside : ∀ place, world.files.directoryOf settings.sourceDirectory = .ok place →
    ¬ place <+: world.files.landingOf settings.outputDirectory)
  (short : ∀ root ready, Begins compiler settings world root ready →
    ∀ bundle, .ok bundle ∈ ((walkOf settings root).items ready).1 → bundle.Short)
  (apart : ∀ root ready, Begins compiler settings world root ready →
    ∀ bundle other, .ok bundle ∈ ((walkOf settings root).items ready).1 →
      .ok other ∈ ((walkOf settings root).items ready).1 → ¬ bundle.Blocks other)

include wellFormed free real preserves filled slashless zeroless fresh outside short apart

end Fresh

/-! ## A module in the way -/

end Run

end TemplateBuild

import TemplateBuild.Proofs.Engine.Provision
import TemplateBuild.Proofs.Run.Account
import TemplateBuild.Proofs.Walk.Discovery

/-!
# Before and after the walk

A run finds the source, creates the output directory, gets the engine and loads it, walks, and
reports.  Whatever fails before the walk, at most directories are new and the script of the
engine is in the cache.

A run that ends with an error leaves the modules of the bundles that it has come past, each of
them whole, and at most new directories besides.
-/

set_option autoImplicit false

namespace TemplateBuild.Run

open Effect

variable {σ : Type} (compiler : Compiler σ) (settings : Settings) (cancelled : Cancellation)

/-- All that a run does before the walk. -/
def prepare : Effect RunError (Path × Engine × σ) := do
  let root ← sourceRoot settings
  createOutput settings
  let engine ← provision settings
  let engineState ← load compiler engine
  return (root, engine, engineState)

/-- The walk of a run. -/
def walkOf (root : Path) : Walk :=
  Walk.of root settings.templateExtensions settings.layout

/-- What a run knows before the walk. -/
def starting (engineState : σ) : Progress σ :=
  ⟨engineState, [], [], 0, 0, 0⟩

/-- All that a run does once it is prepared. -/
def complete (prepared : Path × Engine × σ) : Effect RunError Report := do
  let (root, engine, engineState) := prepared
  let (_, progress) ← ((walkOf settings root).visitAll
    (visitor compiler settings cancelled engine)).run (starting engineState)
  if !progress.failures.isEmpty then throw (.failures progress.failures)
  return ⟨engine, progress.modules, progress.templatesCompiled, settings.dryRun⟩

theorem precompile_eq : precompile compiler settings cancelled =
    prepare compiler settings >>= complete compiler settings cancelled := by
  simp only [precompile, prepare, bind_assoc, pure_bind]
  rfl

/-- What a run has to say after the walk. -/
def conclude (engine : Engine) (progress : Progress σ) : Except RunError Report :=
  if progress.failures = [] then
    .ok ⟨engine, progress.modules, progress.templatesCompiled, settings.dryRun⟩
  else .error (.failures progress.failures)

/-- How a run ends when its walk has ended. -/
def ending (engine : Engine) :
    Except (RunError × World) (Progress σ × World) → Except RunError Report × World
  | .ok (progress, later) => (conclude settings engine progress, later)
  | .error (error, later) => (.error error, later)

/-- The walk of a run, and what is said in the end. -/
def walkThrough (root : Path) (engine : Engine) (engineState : σ) (world : World) :
    Except RunError Report × World :=
  ending settings engine
    (steps.after ((walkOf settings root).visitAll (visitor compiler settings cancelled engine))
      (starting engineState, world))

theorem ending_eq_ok {settings : Settings} {engine : Engine} {report : Report} {later : World}
    {result : Except (RunError × World) (Progress σ × World)}
    (ends : ending settings engine result = (.ok report, later)) :
    ∃ progress, result = .ok (progress, later) ∧ progress.failures = [] ∧
      report = ⟨engine, progress.modules, progress.templatesCompiled, settings.dryRun⟩ := by
  cases result with
  | error reason => cases ends
  | ok reached =>
      obtain ⟨progress, world⟩ := reached
      rw [ending, conclude] at ends
      split at ends
      · next none =>
        cases ends
        exact ⟨progress, rfl, none, rfl⟩
      · cases ends

theorem ending_eq_error {settings : Settings} {engine : Engine} {error : RunError} {later : World}
    {result : Except (RunError × World) (Progress σ × World)}
    (ends : ending settings engine result = (.error error, later)) :
    (∃ progress, result = .ok (progress, later) ∧ progress.failures ≠ [] ∧
      error = .failures progress.failures) ∨ result = .error (error, later) := by
  cases result with
  | error reason =>
      cases ends
      exact Or.inr rfl
  | ok reached =>
      obtain ⟨progress, world⟩ := reached
      rw [ending, conclude] at ends
      split at ends
      · cases ends
      · next some =>
        cases ends
        exact Or.inl ⟨progress, rfl, some, rfl⟩

theorem precompile_run (world : World) : Effect.run (precompile compiler settings cancelled) world =
    match Effect.run (prepare compiler settings) world with
    | (.ok (root, engine, engineState), later) =>
      walkThrough compiler settings cancelled root engine engineState later
    | (.error error, later) => (.error error, later) := by
  rw [precompile_eq, run_bind]
  cases Effect.run (prepare compiler settings) world with
  | mk result later =>
      cases result with
      | error error => rfl
      | ok prepared =>
          obtain ⟨root, engine, engineState⟩ := prepared
          simp only [complete, walkThrough, Walk.Runner.after, steps]
          rw [run_bind]
          cases Effect.run (StateT.run ((walkOf settings root).visitAll
              (visitor compiler settings cancelled engine)) (starting engineState)) later with
          | mk result last =>
              cases result with
              | error error => rfl
              | ok reached =>
                  obtain ⟨_, progress⟩ := reached
                  simp only [Except.map, ending, conclude]
                  cases progress.failures <;> rfl

/-! ## Before the walk -/

/-- The files when a walk may begin: at most directories are new, and the script of the engine
is in the cache. -/
def Readied (before after : FileTree) : Prop :=
  before.AddsDirectories after ∨ settings.provisioning.Caches settings.engine before after

/-- What is known when a walk may begin. -/
structure Prepared (before : FileTree) (root : Path) (engine : Engine) (start : σ)
    (ready : FileTree) : Prop where
  canonical : before.canonical settings.sourceDirectory = .ok root
  directory : before.isDirectory root = true
  readied : Readied settings before ready
  loaded : ∃ source said, engine.source ready = .ok source ∧
    compiler.load engine.name source = (.ok start, said)

variable {compiler settings} {world later : World}

/-- The source directory in a tree. -/
def sourceIn (settings : Settings) (files : FileTree) : Except RunError Path :=
  match files.canonical settings.sourceDirectory with
  | .error failure => .error (.source settings.sourceDirectory failure)
  | .ok root => if files.isDirectory root then .ok root else .error (.notDirectory root)

theorem sourceRoot_eq (world : World) :
    Effect.run (sourceRoot settings) world = (sourceIn settings world.files, world) := by
  rw [sourceRoot, run_bind_of_ok _ (run_files world), sourceIn]
  cases world.files.canonical settings.sourceDirectory with
  | error failure => rfl
  | ok root =>
      simp only
      split <;> rfl

theorem sourceIn_eq_ok_iff {files : FileTree} {root : Path} : sourceIn settings files = .ok root ↔
    files.canonical settings.sourceDirectory = .ok root ∧ files.isDirectory root = true := by
  rw [sourceIn]
  cases files.canonical settings.sourceDirectory with
  | error failure => simp
  | ok found =>
      simp only
      split
      · next directory =>
        simp only [Except.ok.injEq, iff_self_and]
        rintro rfl
        exact directory
      · next other =>
        simp only [reduceCtorEq, Except.ok.injEq, false_iff, not_and]
        rintro rfl
        exact other

theorem sourceIn_eq_error {files : FileTree} {error : RunError}
    (fails : sourceIn settings files = .error error) : error.phase = .preparing := by
  rw [sourceIn] at fails
  split at fails
  · cases fails
    rfl
  · split at fails
    · cases fails
    · cases fails
      rfl

theorem sourceRoot_run {result : Except RunError Path}
    (ran : Effect.run (sourceRoot settings) world = (result, later)) : later = world ∧
      match result with
      | .ok root => world.files.canonical settings.sourceDirectory = .ok root ∧
        world.files.isDirectory root = true
      | .error error => error.phase = .preparing := by
  rw [sourceRoot_eq, Prod.mk.injEq] at ran
  obtain ⟨found, rfl⟩ := ran
  refine ⟨rfl, ?_⟩
  cases result with
  | ok root => exact sourceIn_eq_ok_iff.mp found
  | error error => exact sourceIn_eq_error found

theorem createOutput_run (wellFormed : world.files.WellFormed) {result : Except RunError Unit}
    (ran : Effect.run (createOutput settings) world = (result, later)) :
    later.files.WellFormed ∧ world.files.AddsDirectories later.files ∧
      ∀ error, result = .error error → error.phase = .preparing := by
  rw [createOutput] at ran
  split at ran
  · cases ran
    exact ⟨wellFormed, .refl _, fun _ same => by cases same⟩
  · obtain ⟨adds, stillWellFormed⟩ :=
      FileTree.makeDirectories_adds wellFormed settings.outputDirectory
    rw [run_change] at ran
    cases ran
    refine ⟨stillWellFormed, adds, ?_⟩
    intro error failed
    cases made : (world.files.makeDirectories settings.outputDirectory).1 with
    | ok done =>
        rw [made] at failed
        cases failed
    | error failure =>
        rw [made] at failed
        cases failed
        rfl

theorem provision_run (wellFormed : world.files.WellFormed) {result : Except RunError Engine}
    (ran : Effect.run (provision settings) world = (result, later)) :
    later.files.WellFormed ∧ Readied settings world.files later.files ∧
      ∀ error, result = .error error → error.phase = .preparing := by
  have leaves := (settings.provisioning.resolve_leaves settings.engine wellFormed).mapError
    (RunError.provision settings.engine)
  cases result with
  | ok engine =>
      obtain ⟨stillWellFormed, kept | caches⟩ := leaves_of_ok leaves ran
      · exact ⟨stillWellFormed, Or.inl (kept ▸ .refl _), fun _ same => by cases same⟩
      · exact ⟨stillWellFormed, Or.inr caches, fun _ same => by cases same⟩
  | error error =>
      obtain ⟨stillWellFormed, adds⟩ := leaves_of_error leaves ran
      refine ⟨stillWellFormed, Or.inl adds, ?_⟩
      intro other same
      cases same
      rw [provision, run_mapError] at ran
      cases resolved : (Effect.run (settings.provisioning.resolve settings.engine) world).1 with
      | ok engine =>
          rw [resolved] at ran
          cases ran
      | error cause =>
          rw [resolved] at ran
          cases ran
          rfl

theorem provision_unfetched
    (unfetched : ¬ settings.provisioning.MustFetch settings.engine world.files) :
    (Effect.run (provision settings) world).2 = world := by
  rw [provision, run_mapError]
  exact settings.provisioning.resolve_unfetched settings.engine unfetched

theorem load_run {engine : Engine} {result : Except RunError σ}
    (ran : Effect.run (load compiler engine) world = (result, later)) :
    later.files = world.files ∧
      match result with
      | .ok start => ∃ source said, engine.source world.files = .ok source ∧
        compiler.load engine.name source = (.ok start, said)
      | .error error => error.phase = .preparing := by
  rw [load, run_bind_of_ok _ (run_files world)] at ran
  split at ran
  · cases ran
    exact ⟨rfl, rfl⟩
  · next source found =>
    cases answer : compiler.load engine.name source with
    | mk loaded said =>
        simp only [answer] at ran
        rw [run_bind_of_ok _ (run_say said world)] at ran
        cases loaded with
        | error error =>
            cases ran
            exact ⟨rfl, rfl⟩
        | ok start =>
            cases ran
            exact ⟨rfl, source, said, found, answer⟩

theorem Readied.after {before middle ready : FileTree} (adds : before.AddsDirectories middle)
    (readied : Readied settings middle ready) : Readied settings before ready := by
  rcases readied with more | ⟨content, stored⟩
  · exact Or.inl (adds.trans more)
  · exact Or.inr ⟨content, stored.after adds⟩

/-- If no engine is fetched, at most directories are new before the walk. -/
theorem prepare_unfetched (wellFormed : world.files.WellFormed)
    (unfetched : ¬ settings.provisioning.MustFetch settings.engine world.files)
    {result : Except RunError (Path × Engine × σ)}
    (ran : Effect.run (prepare compiler settings) world = (result, later)) :
    world.files.AddsDirectories later.files := by
  rw [prepare] at ran
  rcases run_bind_cases ran with ⟨error, first, rfl⟩ | ⟨root, _, first, others⟩
  · obtain ⟨rfl, _⟩ := sourceRoot_run first
    exact .refl _
  obtain ⟨rfl, _⟩ := sourceRoot_run first
  rcases run_bind_cases others with ⟨error, second, rfl⟩ | ⟨_, made, second, others⟩
  · exact (createOutput_run wellFormed second).2.1
  obtain ⟨_, adds, _⟩ := createOutput_run wellFormed second
  have still := provision_unfetched fun fetches => unfetched (fetches.before adds)
  rcases run_bind_cases others with ⟨error, third, rfl⟩ | ⟨engine, resolved, third, others⟩
  · have kept : later = made := by rwa [third] at still
    rw [kept]
    exact adds
  have kept : resolved = made := by rwa [third] at still
  rcases run_bind_cases others with ⟨error, fourth, rfl⟩ | ⟨start, last, fourth, done⟩
  · rw [(load_run fourth).1, kept]
    exact adds
  · cases done
    rw [(load_run fourth).1, kept]
    exact adds

/-- With an engine that is there already, at most directories are new before the walk. -/
theorem prepare_of_present (wellFormed : world.files.WellFormed)
    (present : (settings.provisioning.present? settings.engine world.files).isSome = true)
    {prepared : Path × Engine × σ}
    (ran : Effect.run (prepare compiler settings) world = (.ok prepared, later)) :
    world.files.AddsDirectories later.files :=
  prepare_unfetched wellFormed (fun fetches => by rw [fetches.absent] at present; cases present) ran

theorem prepare_run (wellFormed : world.files.WellFormed)
    {result : Except RunError (Path × Engine × σ)}
    (ran : Effect.run (prepare compiler settings) world = (result, later)) :
    later.files.WellFormed ∧
      match result with
      | .ok (root, engine, start) =>
        Prepared compiler settings world.files root engine start later.files
      | .error error => Readied settings world.files later.files ∧ error.phase = .preparing := by
  rw [prepare] at ran
  rcases run_bind_cases ran with ⟨error, first, rfl⟩ | ⟨root, _, first, others⟩
  · obtain ⟨rfl, phase⟩ := sourceRoot_run first
    exact ⟨wellFormed, Or.inl (.refl _), phase⟩
  obtain ⟨rfl, canonical, directory⟩ := sourceRoot_run first
  rcases run_bind_cases others with ⟨error, second, rfl⟩ | ⟨_, made, second, others⟩
  · obtain ⟨stillWellFormed, adds, phase⟩ := createOutput_run wellFormed second
    exact ⟨stillWellFormed, Or.inl adds, phase error rfl⟩
  obtain ⟨stillWellFormed, adds, _⟩ := createOutput_run wellFormed second
  rcases run_bind_cases others with ⟨error, third, rfl⟩ | ⟨engine, resolved, third, others⟩
  · obtain ⟨finallyWellFormed, readied, phase⟩ := provision_run stillWellFormed third
    exact ⟨finallyWellFormed, readied.after adds, phase error rfl⟩
  obtain ⟨finallyWellFormed, readied, _⟩ := provision_run stillWellFormed third
  rcases run_bind_cases others with ⟨error, fourth, rfl⟩ | ⟨start, last, fourth, done⟩
  · obtain ⟨kept, phase⟩ := load_run fourth
    exact ⟨kept ▸ finallyWellFormed, kept ▸ readied.after adds, phase⟩
  obtain ⟨kept, source, said, reads, loads⟩ := load_run fourth
  cases done
  refine ⟨kept ▸ finallyWellFormed, canonical, directory, kept ▸ readied.after adds,
    source, said, ?_, loads⟩
  rw [kept]
  exact reads

end TemplateBuild.Run

namespace TemplateBuild.Run

/-! ## How runs end -/

variable {σ : Type} {compiler : Compiler σ} {settings : Settings} {cancelled : Cancellation}
  {world later : World}

/-- What a run through a walk has done when it is over, with its result. -/
theorem walkThrough_stages {engine : Engine} {start : σ} {root : Path}
    (wellFormed : world.files.WellFormed) {result : Except RunError Report}
    (ran : walkThrough compiler settings cancelled root engine start world = (result, later)) :
    ∃ stages last,
      Account compiler settings (walkOf settings root)
        ⟨world.files, (walkOf settings root).begin world.files, start⟩ stages last ∧
      match result with
      | .ok report => last.agenda = [] ∧ last.files = later.files ∧
        stages.flatMap Stage.rejected = [] ∧
        report = ⟨engine, stages.flatMap Stage.modules,
          (stages.flatMap Stage.accepted).length, settings.dryRun⟩
      | .error error =>
        error.phase = .walking ∧ (∃ item, last.Faces (walkOf settings root) item) ∧
            last.files.AddsDirectories later.files ∨
          error = .failures (stages.flatMap Stage.rejected) ∧ last.agenda = [] ∧
            last.files = later.files := by
  have course := Walk.visitAll_course (walkOf settings root)
    (visitor_serves compiler settings cancelled engine) (starting start, world) wellFormed
  obtain ⟨stages, last, account, ended⟩ := account_of_course course wellFormed
  refine ⟨stages, last, account, ?_⟩
  rw [walkThrough] at ran
  cases result with
  | ok report =>
      obtain ⟨progress, through, none, rfl⟩ := ending_eq_ok ran
      rw [through] at ended
      obtain ⟨rfl, failures, modules, templatesCompiled, _⟩ := ended
      simp only [starting, List.nil_append, Nat.zero_add] at failures modules templatesCompiled
      refine ⟨rfl, rfl, failures.symm.trans none, ?_⟩
      rw [modules, templatesCompiled]
  | error error =>
      rcases ending_eq_error ran with ⟨progress, through, _, rfl⟩ | stops
      · rw [through] at ended
        obtain ⟨rfl, failures, _⟩ := ended
        refine Or.inr ⟨?_, rfl, rfl⟩
        rw [failures]
        rfl
      · rw [stops] at ended
        obtain ⟨adds, walking, faces⟩ := ended
        exact Or.inl ⟨walking, faces, adds⟩

/-- A run that fails leaves a clean prefix.  Before the walk nothing is written but directories
and the cached script of the engine.  In the walk, the modules of the bundles before the item
at which the run ended have been written, each with exactly the templates that were accepted,
and for that item there are at most new directories.  Where rejected templates are reported,
the walk is through. -/
theorem precompile_of_error (wellFormed : world.files.WellFormed) {error : RunError}
    (failed : Effect.run (precompile compiler settings cancelled) world = (.error error, later)) :
    error.phase = .preparing ∧ Readied settings world.files later.files ∨
      ∃ root engine start ready stages last,
        Prepared compiler settings world.files root engine start ready ∧
        Account compiler settings (walkOf settings root)
          ⟨ready, (walkOf settings root).begin ready, start⟩ stages last ∧
        (error.phase = .walking ∧ (∃ item, last.Faces (walkOf settings root) item) ∧
            last.files.AddsDirectories later.files ∨
          error = .failures (stages.flatMap Stage.rejected) ∧ last.agenda = [] ∧
            last.files = later.files) := by
  rw [precompile_run] at failed
  cases prepared : Effect.run (prepare compiler settings) world with
  | mk result ready =>
      rw [prepared] at failed
      obtain ⟨readyWellFormed, known⟩ := prepare_run wellFormed prepared
      cases result with
      | error reason =>
          cases failed
          exact Or.inl ⟨known.2, known.1⟩
      | ok values =>
          obtain ⟨root, engine, start⟩ := values
          obtain ⟨stages, last, account, ended⟩ := walkThrough_stages readyWellFormed failed
          exact Or.inr ⟨root, engine, start, ready.files, stages, last, known, account, ended⟩

/-! ## A run in which a template is rejected -/

def sampleSettings : Settings where
  sourceDirectory := .ofString "/s"
  outputDirectory := .ofString "/o"
  templateExtensions := ["h"]
  outputExtension := "js"
  hierarchy := .preserve
  whitespace := .purge
  knownHelpers := []
  strictHelpers := false
  encoding := .utf8
  engine := "e"
  provisioning := ⟨[.ofString "/"], .ofString "/c", .template "", true, .ofSeconds 1⟩
  failurePolicy := .collectAll
  dryRun := false

def sampleWorld : World :=
  .initial Walk.sampleFiles .unreachable

/-- An engine that counts templates and rejects them all. -/
def refusing : Compiler Nat where
  load _ _ := (.ok 0, .none)
  compile _ _ count := (.error "refused", .none, count + 1)

def refusal : CompileFailure :=
  ⟨.ofString "/s/a.h", .ofString "/s", "refused"⟩

def refusedWorld : World :=
  (Effect.run (precompile refusing sampleSettings Cancellation.never) sampleWorld).2

theorem refusing_run : Effect.run (precompile refusing sampleSettings Cancellation.never)
    sampleWorld = (.error (.failures [refusal]), refusedWorld) := by
  have result : (Effect.run (precompile refusing sampleSettings Cancellation.never)
      sampleWorld).1 = .error (.failures [refusal]) := by
    cbv
  rw [← result]
  rfl

theorem precompile_of_refusing :
    Effect.run (precompile refusing sampleSettings Cancellation.never) sampleWorld =
        (.error (.failures [refusal]), refusedWorld) ∧
      ∃ root engine start ready stages last,
        Prepared refusing sampleSettings Walk.sampleFiles root engine start ready ∧
        Account refusing sampleSettings (walkOf sampleSettings root)
          ⟨ready, (walkOf sampleSettings root).begin ready, start⟩ stages last ∧
        stages.flatMap Stage.rejected = [refusal] ∧ last.files = refusedWorld.files := by
  refine ⟨refusing_run, ?_⟩
  rcases precompile_of_error Walk.sampleFiles_wellFormed refusing_run with ⟨phase, _⟩ |
    ⟨root, engine, start, ready, stages, last, prepared, account, ⟨phase, _⟩ | ⟨same, _, kept⟩⟩
  · cases phase
  · cases phase
  · exact ⟨root, engine, start, ready, stages, last, prepared, account,
      (RunError.failures.inj same).symm, kept⟩

end TemplateBuild.Run

import TemplateBuild.Proofs.Run.Repeating

/-!
# Runs that write nothing

A dry run reads and compiles as any run does, but it creates no output directory and writes no
module.  All that can be new after it comes from providing the engine: the directories of the
cache, and the script that was fetched into them.
-/

set_option autoImplicit false

namespace TemplateBuild

open Effect
open FileTree

/-- The settings of a run that writes nothing. -/
def Settings.dry (settings : Settings) : Settings :=
  { settings with dryRun := true }

/-! ## Providing the engine -/

namespace FileTree

variable {tree before after : FileTree} {path : Path} {directory : Place} {name : Name}
  {content : Bytes}

theorem isFile_of_contentOf (read : tree.contentOf path = .ok content) :
    tree.isFile path = true := by
  obtain ⟨place, found⟩ := contentOf_eq_ok_iff.mp read
  exact isFile_iff.mpr ⟨place, content, found⟩

/-- What is read under a joined name has a path and a name that the system accepts. -/
theorem checked_of_contentOf (plain : Name.Plain name)
    (reached : tree.directoryFor path = .ok directory)
    (read : tree.contentOf (path.joinName name) = .ok content) :
    checkPath (path.joinName name) = .ok () ∧ name.length ≤ longestName := by
  obtain ⟨place, found⟩ := contentOf_eq_ok_iff.mp read
  rw [find_eq_ok_iff, locateThrough_eq_ok_iff] at found
  obtain ⟨checked, leads⟩ := found
  refine ⟨checked, ?_⟩
  obtain ⟨left, goesOn⟩ := follow_of_enters (Path.enters_joinName path plain) reached true
  rw [← follow_eq_ok_iff, goesOn, follow_eq_ok_iff] at leads
  cases leads with
  | directory short => exact short
  | file short => exact short
  | link _ short => exact short

end FileTree

namespace Provisioning

variable (provisioning : Provisioning) (engine : String)

/-- What may be different when an engine has been provided: nothing, if it was there already; the
cache directory and those above it; and in it the script, as a new file unless the path of the
cache directory led elsewhere before. -/
inductive Touches (before : FileTree) : FileTree → Prop
  | nothing : Touches before before
  | directories {after : FileTree} : provisioning.present? engine before = none →
      before.AddsDirectories after → before.Opens provisioning.cacheDirectory after →
      Touches before after
  | script {middle after : FileTree} {directory : Place} {content : Bytes} :
      provisioning.present? engine before = none →
      provisioning.Installs engine before middle directory content after →
      (before.directoryFor provisioning.cacheDirectory = .ok directory →
        before.entry? (directory ++ [Bytes.ofString engine]) = none) →
      Touches before after

variable {provisioning engine} {before middle after : FileTree} {directory : Place}
  {content : Bytes}

/-- A script that is fetched does not take the place of anything that its path led to. -/
theorem Installs.fresh (free : before.LinkFree) (plain : Engine.isPlainName engine = true)
    (absent : provisioning.present? engine before = none)
    (installs : provisioning.Installs engine before middle directory content after)
    (keeps : ∀ place, before.entry? place = some .directory →
      after.entry? place = some .directory)
    (reached : before.directoryFor provisioning.cacheDirectory = .ok directory) :
    before.entry? (directory ++ [Bytes.ofString engine]) = none := by
  have isPlain := Engine.plain_of_isPlainName plain
  have isFile : after.entry? (directory ++ [Bytes.ofString engine]) = some (.file content) := by
    rw [installs.puts.entries, if_pos rfl]
  cases found : before.entry? (directory ++ [Bytes.ofString engine]) with
  | none => rfl
  | some entry =>
      cases entry with
      | directory =>
          rw [keeps _ found] at isFile
          cases isFile
      | link target => exact absurd found (free _ _)
      | file old =>
          -- The path could be read in the end, so it could be read before.
          have working : after.working = before.working :=
            installs.puts.working.trans installs.adds.working
          have reachedLater := directoryFor_of_kept free working keeps reached
          obtain ⟨checked, short⟩ :=
            checked_of_contentOf isPlain reachedLater (installs.readable directory reachedLater)
          have read :=
            contentOf_of_enters (Path.enters_joinName _ isPlain) checked short reached found
          have isMissing : before.isFile (provisioning.cacheEntry engine).path = false :=
            (provisioning.present?_eq_none_iff engine).mp absent
              ⟨.cached, (provisioning.cacheEntry engine).path⟩ (by simp [candidates])
          exact absurd (isFile_of_contentOf read) (Bool.eq_false_iff.mp isMissing)

theorem resolve_touches {world : World} (wellFormed : world.files.WellFormed)
    (free : world.files.LinkFree) :
    provisioning.Touches engine world.files
      (Effect.run (provisioning.resolve engine) world).2.files := by
  cases plain : Engine.isPlainName engine with
  | false =>
      rw [resolve, plain]
      exact .nothing
  | true =>
      cases found : provisioning.present? engine world.files with
      | some location =>
          rw [provisioning.resolve_of_present engine plain found]
          exact .nothing
      | none =>
          obtain ⟨sent, _, resolves⟩ := provisioning.resolve_resolves engine wellFormed
          have leaves := provisioning.resolve_leaves engine wellFormed
          rcases ran : Effect.run (provisioning.resolve engine) world with ⟨result, later⟩
          rw [ran] at resolves
          generalize left : later.files = after at resolves
          cases resolves with
          | present found => exact .nothing
          | fetched _ _ absent _ _ installs =>
              obtain ⟨_, kept | ⟨_, stored⟩⟩ := leaves_of_ok leaves ran
              · rw [left] at kept
                exact .script absent installs
                  (installs.fresh free plain absent fun _ isThere => by rwa [kept])
              · rw [left] at stored
                exact .script absent installs
                  (installs.fresh free plain absent fun _ => stored.directory_kept)
          | failed _ _ adds opens => exact .directories found adds opens

end Provisioning

namespace Run

variable {σ : Type} {compiler : Compiler σ} {settings : Settings} {cancelled : Cancellation}
  {engine : Engine} {walk : Walk} {world later : World}

/-! ## Taking -/

/-- A dry run leaves the files as they are, whatever it takes. -/
theorem take_of_dry (compiler : Compiler σ) (cancelled : Cancellation) (engine : Engine)
    (dry : settings.dryRun = true) (progress : Progress σ) (world : World) (item : Walk.Item) :
    lastFiles (steps.take (visitor compiler settings cancelled engine) (progress, world) item) =
      world.files := by
  cases item with
  | error error =>
      rw [take_error_eq]
      rfl
  | ok bundle =>
      rw [take_bundle_eq]
      split
      · rfl
      · rw [processBundle_after]
        have judges := compileAll_judges compiler settings bundle cancelled engine bundle.templates
          { progress with polls := progress.polls + 1 } (warned world bundle)
        rcases ran : steps.run (compileAll compiler settings cancelled engine bundle
            bundle.templates) ({ progress with polls := progress.polls + 1 },
              warned world bundle) with ⟨error, left⟩ | ⟨compiled, middle, reached⟩
        · rw [ran] at judges
          exact judges.1
        · rw [ran] at judges
          simp only
          rw [Walk.Runner.after]
          by_cases none : compiled = []
          · rw [none, finish_nil]
            exact judges.1
          · rw [finish_of_ne_nil none, dry]
            exact judges.1

theorem course_of_dry (dry : settings.dryRun = true) {state : Progress σ × World}
    {agenda : List Walk.Errand} {result : Except (RunError × World) (Progress σ × World)}
    (course : Walk.Course walk filesOf
      (steps.take (visitor compiler settings cancelled engine)) state agenda result) :
    lastFiles result = state.2.files := by
  induction course with
  | finished => rfl
  | silent _ _ ih => exact ih
  | @taken state later errand agenda item result _ takes _ ih =>
      obtain ⟨progress, world⟩ := state
      have kept := take_of_dry compiler cancelled engine dry progress world item
      rw [takes] at kept
      exact ih.trans kept
  | @stopped state errand agenda item error _ takes =>
      obtain ⟨progress, world⟩ := state
      have kept := take_of_dry compiler cancelled engine dry progress world item
      rw [takes] at kept
      exact kept

theorem visitAll_of_dry (dry : settings.dryRun = true) (wellFormed : world.files.WellFormed)
    (walk : Walk) (progress : Progress σ) :
    lastFiles (steps.after (walk.visitAll (visitor compiler settings cancelled engine))
      (progress, world)) = world.files :=
  course_of_dry dry (Walk.visitAll_course walk (visitor_serves compiler settings cancelled engine)
    (progress, world) wellFormed)

/-! ## The run -/

theorem prepare_of_dry (compiler : Compiler σ) (dry : settings.dryRun = true) (world : World) :
    Effect.run (prepare compiler settings) world =
      match sourceIn settings world.files with
      | .error error => (.error error, world)
      | .ok root =>
        match Effect.run (equip compiler settings) world with
        | (.error error, later) => (.error error, later)
        | (.ok equipment, later) => (.ok (root, equipment), later) := by
  rw [prepare_eq, run_bind, sourceRoot_eq]
  cases sourceIn settings world.files with
  | error error => rfl
  | ok root =>
      simp only
      rw [run_bind, createOutput, if_pos dry]
      have idle : Effect.run (pure () : Effect RunError Unit) world = (.ok (), world) := rfl
      rw [idle]
      simp only
      rw [run_bind]
      rcases Effect.run (equip compiler settings) world with ⟨error | equipment, later⟩ <;> rfl

/-- All that an engine changes is done by providing it. -/
theorem equip_files (compiler : Compiler σ) (settings : Settings) (world : World) :
    (Effect.run (equip compiler settings) world).2.files =
      (Effect.run (settings.provisioning.resolve settings.engine) world).2.files := by
  have provides : (Effect.run (provision settings) world).2 =
      (Effect.run (settings.provisioning.resolve settings.engine) world).2 := by
    rw [provision, run_mapError]
  rw [← provides, equip, run_bind]
  rcases Effect.run (provision settings) world with ⟨error | engine, later⟩
  · rfl
  · simp only
    rw [run_bind]
    rcases loads : Effect.run (load compiler engine) later with ⟨error | start, last⟩
    · exact (load_run loads).1
    · exact (load_run loads).1

/-- Once the source is found, a dry run leaves the files as the providing of the engine does. -/
theorem files_of_dry (dry : settings.dryRun = true) (wellFormed : world.files.WellFormed) :
    (Effect.run (precompile compiler settings cancelled) world).2.files =
      match sourceIn settings world.files with
      | .error _ => world.files
      | .ok _ => (Effect.run (settings.provisioning.resolve settings.engine) world).2.files := by
  rw [precompile_run]
  have prepared := prepare_of_dry compiler dry world
  rw [← equip_files compiler]
  cases source : sourceIn settings world.files with
  | error error =>
      rw [prepared, source]
  | ok root =>
      rw [source] at prepared
      simp only at prepared ⊢
      rcases equips : Effect.run (equip compiler settings) world with
        ⟨error | ⟨engine, start⟩, later⟩
      · rw [prepared, equips]
      · rw [equips] at prepared
        rw [prepared]
        obtain ⟨readyWellFormed, _⟩ := prepare_run wellFormed prepared
        simp only [walkThrough]
        rw [ending_files, visitAll_of_dry dry readyWellFormed]

/-- A dry run touches nothing but the cache. -/
theorem precompile_of_dry (dry : settings.dryRun = true) (wellFormed : world.files.WellFormed)
    (free : world.files.LinkFree) :
    settings.provisioning.Touches settings.engine world.files
      (Effect.run (precompile compiler settings cancelled) world).2.files := by
  rw [files_of_dry dry wellFormed]
  split
  · exact .nothing
  · exact settings.provisioning.resolve_touches wellFormed free

end Run

end TemplateBuild

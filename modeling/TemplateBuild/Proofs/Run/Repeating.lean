import TemplateBuild.Proofs.Engine.Resolving
import TemplateBuild.Proofs.Run.Rewalking

/-!
# Running again

A run that follows another one finds the source where it was, creates no directory and loads the
same engine.  So it walks through what the first one left, and ends as that one did.
-/

set_option autoImplicit false

namespace TemplateBuild.Run

open Effect
open FileTree (Grown)

variable {σ : Type} {compiler : Compiler σ} {settings : Settings} {cancelled : Cancellation}
  {wanted : Name → Prop} {before middle last : FileTree} {world again : World}

/-! ## The source -/

/-- The source is found again in a tree that has grown. -/
theorem sourceIn_of_grown (wellFormed : before.WellFormed) (free : before.LinkFree)
    (grown : Grown wanted before last) {root : Path} (found : sourceIn settings before = .ok root) :
    sourceIn settings last = .ok root := by
  rw [sourceIn_eq_ok_iff] at found ⊢
  obtain ⟨place, rfl, reached, isReached⟩ :=
    free.directoryOf_of_canonical wellFormed found.1 found.2
  have still := grown.directoryOf free reached
  have isStill := grown.directoryOf free isReached
  rw [FileTree.directoryOf_eq_ok_iff] at still isStill
  exact ⟨FileTree.canonical_eq_ok_iff.mpr ⟨place, _, still, rfl⟩,
    FileTree.isDirectory_iff.mpr ⟨place, isStill⟩⟩

/-! ## The engine -/

/-- Where an engine is found, and its script. -/
def lookup (settings : Settings) (files : FileTree) :
    Option (EngineLocation × Except FileFailure String) :=
  (settings.provisioning.present? settings.engine files).map fun location =>
    (location, files.textOf location.path)

theorem find?_between {α : Type} {early midway late : α → Bool}
    (more : ∀ value, early value = true → midway value = true)
    (most : ∀ value, midway value = true → late value = true) {value : α} (values : List α)
    (first : values.find? early = some value) (final : values.find? late = some value) :
    values.find? midway = some value := by
  induction values with
  | nil => cases first
  | cons head rest ih =>
      by_cases isEarly : early head = true
      · rw [List.find?_cons_of_pos isEarly] at first
        rw [List.find?_cons_of_pos (more head isEarly), first]
      · rw [List.find?_cons_of_neg isEarly] at first
        by_cases isLate : late head = true
        · rw [List.find?_cons_of_pos isLate, Option.some.injEq] at final
          rw [final] at isEarly
          exact absurd (List.find?_some first) isEarly
        · rw [List.find?_cons_of_neg isLate] at final
          rw [List.find?_cons_of_neg fun isMidway => isLate (most head isMidway)]
          exact ih first final

/-- The engine that is found in the beginning and in the end is found in between. -/
theorem lookup_between (adds : before.AddsDirectories middle) (wellFormed : middle.WellFormed)
    (free : middle.LinkFree) (grown : Grown wanted middle last)
    (present : (lookup settings before).isSome = true)
    (same : lookup settings last = lookup settings before) :
    lookup settings middle = lookup settings before := by
  rw [lookup, Option.isSome_map] at present
  obtain ⟨location, first⟩ := Option.isSome_iff_exists.mp present
  have final : settings.provisioning.present? settings.engine last = some location := by
    rw [lookup, lookup, first, Option.map_some, Option.map_eq_some_iff] at same
    obtain ⟨other, found, equal⟩ := same
    rw [← (Prod.mk.inj equal).1]
    exact found
  have isFile := (settings.provisioning.not_fetched_of_present settings.engine first).2
  rw [Provisioning.present?_eq_find?] at first final
  have between : settings.provisioning.present? settings.engine middle = some location := by
    rw [Provisioning.present?_eq_find?]
    exact find?_between (fun _ => adds.isFile) (fun _ => grown.isFile wellFormed free) _ first final
  obtain ⟨place, content, found⟩ := FileTree.isFile_iff.mp isFile
  have text : middle.textOf location.path = before.textOf location.path := by
    rw [FileTree.textOf, FileTree.textOf, FileTree.contentOf, FileTree.contentOf, found,
      adds.find found]
  rw [← Provisioning.present?_eq_find?] at first
  rw [lookup, lookup, between, first, Option.map_some, Option.map_some, text]

/-- All that a run does with its engine before the walk. -/
def equip (compiler : Compiler σ) (settings : Settings) : Effect RunError (Engine × σ) := do
  let engine ← provision settings
  let engineState ← load compiler engine
  return (engine, engineState)

/-- What becomes of an engine that has been found. -/
def equipped (compiler : Compiler σ) (settings : Settings) (location : EngineLocation) :
    Except FileFailure String → Except RunError (Engine × σ)
  | .error failure => .error (.sandbox (.unreadable location.path failure))
  | .ok source =>
    match (compiler.load settings.engine source).1 with
    | .error error => .error (.sandbox error)
    | .ok state => .ok (⟨settings.engine, location⟩, state)

theorem equip_of_lookup {location : EngineLocation} {text : Except FileFailure String}
    (found : lookup settings world.files = some (location, text)) : ∃ later,
      Effect.run (equip compiler settings) world =
        (if Engine.isPlainName settings.engine = true then equipped compiler settings location text
          else .error (.provision settings.engine (.invalidName settings.engine)), later) ∧
      later.files = world.files := by
  rw [lookup, Option.map_eq_some_iff] at found
  obtain ⟨other, present, same⟩ := found
  cases same
  rw [equip]
  by_cases plain : Engine.isPlainName settings.engine = true
  · have provides : Effect.run (provision settings) world =
        (.ok ⟨settings.engine, location⟩, world) := by
      rw [provision, run_mapError, settings.provisioning.resolve_of_present settings.engine plain
        present]
      rfl
    rw [if_pos plain, run_bind_of_ok _ provides, run_bind, load,
      run_bind_of_ok _ (run_files world), Engine.source]
    cases world.files.textOf location.path with
    | error failure => exact ⟨world, rfl, rfl⟩
    | ok source =>
        simp only [equipped]
        rw [run_bind_of_ok _ (run_say _ world)]
        cases (compiler.load settings.engine source).1 with
        | error error => exact ⟨_, rfl, rfl⟩
        | ok state => exact ⟨_, rfl, rfl⟩
  · have refuses : Effect.run (provision settings) world =
        (.error (.provision settings.engine (.invalidName settings.engine)), world) := by
      rw [provision, run_mapError, Provisioning.resolve, Bool.eq_false_iff.mpr plain]
      rfl
    rw [if_neg plain, run_bind, refuses]
    exact ⟨world, rfl, rfl⟩

/-- Where the same engine is found, the same becomes of it. -/
theorem equip_again {result : Except RunError (Engine × σ)} {later : World}
    (present : (lookup settings world.files).isSome = true)
    (ran : Effect.run (equip compiler settings) world = (result, later)) :
    later.files = world.files ∧ ∀ again : World,
      lookup settings again.files = lookup settings world.files →
      ∃ last, Effect.run (equip compiler settings) again = (result, last) ∧
        last.files = again.files := by
  obtain ⟨⟨location, text⟩, found⟩ := Option.isSome_iff_exists.mp present
  obtain ⟨reached, equips, kept⟩ := equip_of_lookup found
  cases ran.symm.trans equips
  exact ⟨kept, fun again same => equip_of_lookup (same.trans found)⟩

/-! ## Before the walk -/

theorem prepare_eq (compiler : Compiler σ) (settings : Settings) :
    prepare compiler settings = (do
      let root ← sourceRoot settings
      createOutput settings
      let equipment ← equip compiler settings
      return (root, equipment)) := by
  simp only [prepare, equip, bind_assoc, pure_bind]

theorem prepare_run_eq (compiler : Compiler σ) (real : settings.dryRun = false) (world : World) :
    Effect.run (prepare compiler settings) world =
      match sourceIn settings world.files with
      | .error error => (.error error, world)
      | .ok root =>
        match world.files.makeDirectories settings.outputDirectory with
        | (.error failure, made) =>
          (.error (.output settings.outputDirectory failure), { world with files := made })
        | (.ok (), made) =>
          match Effect.run (equip compiler settings) { world with files := made } with
          | (.error error, later) => (.error error, later)
          | (.ok equipment, later) => (.ok (root, equipment), later) := by
  rw [prepare_eq, run_bind, sourceRoot_eq]
  cases sourceIn settings world.files with
  | error error => rfl
  | ok root =>
      simp only
      rw [run_bind, createOutput, real]
      simp only [Bool.false_eq_true, if_false]
      rw [run_change]
      rcases world.files.makeDirectories settings.outputDirectory with ⟨failure | done, made⟩
      · rfl
      · simp only [Except.mapError]
        rw [run_bind]
        rcases Effect.run (equip compiler settings) { world with files := made } with
          ⟨error | equipment, later⟩ <;> rfl

section Preparing

variable {later : World} (wellFormed : world.files.WellFormed) (free : world.files.LinkFree)
  (real : settings.dryRun = false) (present : (lookup settings world.files).isSome = true)

include wellFormed free real present

omit wellFormed free real in
theorem lookup_of_adds (adds : world.files.AddsDirectories middle) :
    (lookup settings middle).isSome = true := by
  rw [lookup, Option.isSome_map] at present ⊢
  exact settings.provisioning.present_of_adds settings.engine adds present

/-- What was prepared is found prepared. -/
theorem prepare_again {prepared : Path × Engine × σ}
    (ran : Effect.run (prepare compiler settings) world = (.ok prepared, later))
    (grown : Grown wanted later.files again.files)
    (same : lookup settings again.files = lookup settings world.files) :
    ∃ ready, Effect.run (prepare compiler settings) again = (.ok prepared, ready) ∧
      ready.files = again.files := by
  rw [prepare_run_eq compiler real] at ran ⊢
  split at ran
  · cases ran
  · next root source =>
    split at ran
    · cases ran
    · next made creates =>
      obtain ⟨adds, madeWellFormed⟩ :=
        FileTree.makeDirectories_adds wellFormed settings.outputDirectory
      rw [creates] at adds madeWellFormed
      have madeFree := adds.linkFree free
      split at ran
      · cases ran
      · next equipment reached equips =>
        cases ran
        obtain ⟨kept, equipsAgain⟩ := equip_again (lookup_of_adds present adds) equips
        rw [kept] at grown
        -- The engine was loaded when the output directory was there, but nothing was written yet.
        have between := lookup_between adds madeWellFormed madeFree grown present same
        obtain ⟨ready, equipped, still⟩ := equipsAgain again (same.trans between.symm)
        have sourceMade : sourceIn settings made = .ok root :=
          sourceIn_of_grown wellFormed free ((Grown.refl world.files).adds adds : Grown wanted _ _)
            source
        rw [sourceIn_of_grown madeWellFormed madeFree grown sourceMade]
        simp only
        rw [FileTree.makeDirectories_of_kept wellFormed free creates (grown.linkFree madeFree)
          grown.working fun _ => grown.directory]
        simp only
        rw [equipped]
        exact ⟨ready, rfl, still⟩

/-- What could not be prepared cannot be prepared again. -/
theorem prepare_again_fails {error : RunError}
    (ran : Effect.run (prepare compiler settings) world = (.error error, later))
    (begins : again.files = later.files) :
    ∃ other last, Effect.run (prepare compiler settings) again = (.error other, last) ∧
      error.Again other ∧ last.files = again.files := by
  rw [prepare_run_eq compiler real] at ran ⊢
  split at ran
  · next error source =>
    cases ran
    rw [begins, source]
    exact ⟨_, again, rfl, .same _, begins⟩
  · next root source =>
    obtain ⟨adds, madeWellFormed⟩ :=
      FileTree.makeDirectories_adds wellFormed settings.outputDirectory
    have sourceAgain : sourceIn settings
        (world.files.makeDirectories settings.outputDirectory).2 = .ok root :=
      sourceIn_of_grown wellFormed free
        ((Grown.refl world.files).adds adds : Grown (fun _ => True) _ _) source
    split at ran
    · next failure made fails =>
      cases ran
      -- Only here the second run may come further than the first one.
      obtain ⟨other, failsAgain, repeats⟩ :=
        FileTree.makeDirectories_again wellFormed free fails (.refl made)
      rw [fails] at sourceAgain
      rw [begins, sourceAgain]
      simp only
      rw [failsAgain]
      exact ⟨_, _, rfl, .output repeats, rfl⟩
    · next made creates =>
      rw [creates] at adds madeWellFormed sourceAgain
      split at ran
      · next error reached equips =>
        cases ran
        obtain ⟨kept, equipsAgain⟩ := equip_again (lookup_of_adds present adds) equips
        obtain rfl : again.files = made := begins.trans kept
        obtain ⟨last, failsAgain, still⟩ := equipsAgain again rfl
        rw [sourceAgain]
        simp only
        rw [FileTree.makeDirectories_of_kept wellFormed free creates (adds.linkFree free) rfl
          fun _ isDirectory => isDirectory]
        simp only
        rw [failsAgain]
        exact ⟨_, last, rfl, .same _, still⟩
      · cases ran

end Preparing

/-! ## The run -/

/-- How the outcome of a run repeats itself. -/
def OutcomeAgain : Except RunError Report → Except RunError Report → Prop
  | .ok report, outcome => outcome = .ok report
  | .error error, outcome => ∃ other, outcome = .error other ∧ error.Again other

theorem ending_files (settings : Settings) (engine : Engine)
    (result : Except (RunError × World) (Progress σ × World)) :
    (ending settings engine result).2.files = lastFiles result := by
  rcases result with ⟨error, left⟩ | ⟨progress, left⟩ <;> rfl

theorem ending_again (settings : Settings) (engine : Engine)
    {first second : Except (RunError × World) (Progress σ × World)}
    (ends : EndsAgain first second) :
    OutcomeAgain (ending settings engine first).1 (ending settings engine second).1 ∧
      (ending settings engine first).2.files.Agrees (ending settings engine second).2.files := by
  rcases first with ⟨error, left⟩ | ⟨progress, left⟩
  · obtain ⟨other, leftAgain, rfl, repeats, agrees⟩ := ends
    exact ⟨⟨other, rfl, repeats⟩, agrees⟩
  · obtain ⟨leftAgain, rfl, agrees⟩ := ends
    refine ⟨?_, agrees⟩
    simp only [ending]
    cases conclude settings engine progress with
    | ok report => rfl
    | error error => exact ⟨error, rfl, .same error⟩

/-- A run that follows another one changes nothing any more and ends as that one did; only of a
directory that could not be created it may say something else.  This takes a tree without links,
an engine that is present and is not changed by the first run, modules that are not taken for
templates, and new directories below the source that can be entered: by `fits_of_ok` no run
succeeds where there are others. -/
theorem precompile_again {later : World} {outcome : Except RunError Report}
    (wellFormed : world.files.WellFormed) (free : world.files.LinkFree)
    (real : settings.dryRun = false) (present : (lookup settings world.files).isSome = true)
    (modest : ∀ root bundle, world.files.canonical settings.sourceDirectory = .ok root →
      .ok bundle ∈ ((walkOf settings root).items world.files).1 →
      (walkOf settings root).isTemplateName bundle.outputFile = false)
    (first : Effect.run (precompile compiler settings cancelled) world = (outcome, later))
    (same : lookup settings later.files = lookup settings world.files)
    (fits : ∀ root place, world.files.canonical settings.sourceDirectory = .ok root →
      world.files.directoryOf root = .ok place →
      (walkOf settings root).FitsNew world.files place later.files)
    (begins : again.files = later.files) :
    ∃ outcomeAgain last,
      Effect.run (precompile compiler settings cancelled) again = (outcomeAgain, last) ∧
      OutcomeAgain outcome outcomeAgain ∧ later.files.Agrees last.files := by
  rw [precompile_run] at first ⊢
  rcases prepares : Effect.run (prepare compiler settings) world with
    ⟨error | ⟨root, engine, start⟩, ready⟩
  · rw [prepares] at first
    cases first
    obtain ⟨other, last, failsAgain, repeats, kept⟩ :=
      prepare_again_fails wellFormed free real present prepares begins
    rw [failsAgain]
    refine ⟨_, last, rfl, ⟨other, rfl, repeats⟩, ?_⟩
    rw [kept, begins]
    exact .refl _
  · rw [prepares] at first
    obtain ⟨readyWellFormed, canonical, directory, _⟩ := prepare_run wellFormed prepares
    rw [lookup, Option.isSome_map] at present
    have adds := prepare_of_present wellFormed present prepares
    obtain ⟨place, _, _, reached⟩ := free.directoryOf_of_canonical wellFormed canonical directory
    have fitsHere := fits root place canonical reached
    have modestHere := fun bundle => modest root bundle canonical
    simp only [walkThrough] at first
    have left : later.files = _ := congrArg (fun ended => ended.2.files) first.symm
    rw [ending_files] at left
    rw [left] at fitsHere begins
    obtain ⟨_, grown⟩ := visitAll_grows compiler settings cancelled engine wellFormed free reached
      modestHere readyWellFormed adds (starting start) (adds.linkFree free) (.refl _) fitsHere
    rw [← begins] at grown
    obtain ⟨readyAgain, preparesAgain, kept⟩ := prepare_again wellFormed free real
      (by rwa [lookup, Option.isSome_map]) prepares grown (by rw [begins, ← left, same])
    have ends := visitAll_again compiler settings cancelled engine wellFormed free reached
      modestHere readyWellFormed adds (starting start) real fitsHere (kept.trans begins)
    obtain ⟨outcomes, agrees⟩ := ending_again settings engine ends
    rw [preparesAgain]
    simp only [walkThrough]
    rw [first] at outcomes agrees
    exact ⟨_, _, rfl, outcomes, agrees⟩

/-! ## Two runs -/

theorem modest_of_sampleFiles (settings : Settings) (bundle : Bundle)
    (source : settings.sourceDirectory = .ofString "/s")
    (items : ((walkOf settings (.ofString "/s")).items Walk.sampleFiles).1 = [.ok bundle])
    (modest : (walkOf settings (.ofString "/s")).isTemplateName bundle.outputFile = false) :
    ∀ root bundle, Walk.sampleFiles.canonical settings.sourceDirectory = .ok root →
      .ok bundle ∈ ((walkOf settings root).items Walk.sampleFiles).1 →
      (walkOf settings root).isTemplateName bundle.outputFile = false := by
  have canonical : Walk.sampleFiles.canonical (.ofString "/s") = .ok (.ofString "/s") := by cbv
  intro root other isRoot member
  rw [source, canonical] at isRoot
  cases isRoot
  rw [items, List.mem_singleton] at member
  cases member
  exact modest

/-- Below the source, no directory has come with the module. -/
theorem deliveredFiles_fitsNew (walk : Walk) (content : Bytes) :
    walk.FitsNew Walk.sampleFiles [Bytes.ofString "s"] (deliveredFiles content) := by
  apply Walk.fitsNew_of_entries
  have other : Bytes.ofString "s" ≠ Bytes.ofString "o" := by decide
  simp [deliveredFiles, createdFiles, Walk.sampleFiles, other, FileTree.entry?]

theorem lookup_deliveredFiles (content : Bytes) : lookup sampleSettings (deliveredFiles content) =
    lookup sampleSettings Walk.sampleFiles := by
  cbv

theorem precompile_again_of_echoing :
    Effect.run (precompile echoing sampleSettings Cancellation.never) sampleWorld =
        (.ok ⟨sampleEngine, [⟨.ofString "/o/s.js", ["a"]⟩], 1, false⟩, deliveredWorld) ∧
      ∃ last, Effect.run (precompile echoing sampleSettings Cancellation.never) deliveredWorld =
          (.ok ⟨sampleEngine, [⟨.ofString "/o/s.js", ["a"]⟩], 1, false⟩, last) ∧
        deliveredWorld.files.Agrees last.files := by
  have free : Walk.sampleFiles.LinkFree :=
    FileTree.linkFree_of_entries (by simp [Walk.sampleFiles])
  have canonical : Walk.sampleFiles.canonical (.ofString "/s") = .ok (.ofString "/s") := by cbv
  have reached : Walk.sampleFiles.directoryOf (.ofString "/s") = .ok [Bytes.ofString "s"] := by cbv
  have fits : ∀ root place, Walk.sampleFiles.canonical (.ofString "/s") = .ok root →
      Walk.sampleFiles.directoryOf root = .ok place →
      (walkOf sampleSettings root).FitsNew Walk.sampleFiles place deliveredWorld.files := by
    intro root place isRoot isPlace
    rw [canonical] at isRoot
    cases isRoot
    rw [reached] at isPlace
    cases isPlace
    exact deliveredFiles_fitsNew _ echoedModule
  have modest := modest_of_sampleFiles sampleSettings sampleBundle rfl (by cbv) (by cbv)
  obtain ⟨_, last, ranAgain, rfl, agrees⟩ := precompile_again Walk.sampleFiles_wellFormed free rfl
    (by cbv) modest echoing_run (lookup_deliveredFiles echoedModule) fits rfl
  exact ⟨echoing_run, last, ranAgain, agrees⟩

/-- An output directory that is reached through one that is missing, and that lies below a file. -/
def climbing : Settings :=
  { sampleSettings with outputDirectory := .ofString "/x/../e/y" }

def climbedFiles : FileTree where
  entries := Walk.sampleFiles.entries ++ [([Bytes.ofString "x"], .directory)]
  working := []

def climbedWorld : World :=
  .initial climbedFiles .unreachable

def climbingBundle : Bundle :=
  ⟨.ofString "/s", ⟨[]⟩, .ofString "/x/../e/y/s.js", [⟨.ofString "/s/a.h", "a"⟩]⟩

/-- The first run comes as far as the file; the second one finds it on the way. -/
theorem climbing_runs : Walk.sampleFiles.WellFormed ∧ Walk.sampleFiles.LinkFree ∧
    climbing.dryRun = false ∧ (lookup climbing Walk.sampleFiles).isSome = true ∧
    (∀ root bundle, Walk.sampleFiles.canonical climbing.sourceDirectory = .ok root →
      .ok bundle ∈ ((walkOf climbing root).items Walk.sampleFiles).1 →
      (walkOf climbing root).isTemplateName bundle.outputFile = false) ∧
    lookup climbing climbedFiles = lookup climbing Walk.sampleFiles ∧
    Effect.run (precompile echoing climbing Cancellation.never) sampleWorld =
      (.error (.output (.ofString "/x/../e/y") .exists), climbedWorld) ∧
    Effect.run (precompile echoing climbing Cancellation.never) climbedWorld =
      (.error (.output (.ofString "/x/../e/y") .notDirectory), climbedWorld) := by
  have modest := modest_of_sampleFiles climbing climbingBundle rfl (by cbv) (by cbv)
  exact ⟨Walk.sampleFiles_wellFormed, FileTree.linkFree_of_entries (by simp [Walk.sampleFiles]),
    rfl, by cbv, modest, by cbv, by cbv, by cbv⟩

end TemplateBuild.Run

import TemplateBuild.Proofs.Run.Foreseeing
import TemplateBuild.Proofs.Walk.Flatten

/-!
# What a dry run tells

A dry run touches nothing but the cache and tells how the run ends.  Two things it cannot know.  A
directory can be created through a short path although its absolute path is too long for the
system: below the source, a run ends at such a directory once it has created it.  And the cache may
turn out to be somewhere else once its directory has been created: there even a dry run replaces a
script.
-/

set_option autoImplicit false

namespace TemplateBuild

open Effect
open FileTree (Fits)

namespace Run

variable {σ : Type}

/-- A dry run touches nothing but the cache.  If the engine is there, and is found as before once
there is an output directory, a dry run also foretells what the run does: it succeeds with the same
report where the run does, and where it fails, the run ends with the same error or earlier.  For
this, modules must not be taken for templates, and if the run fails, the directories that have come
below the source by then can be entered. -/
theorem precompile_dry (compiler : Compiler σ) (settings : Settings) (cancelled : Cancellation)
    (world : World) (wellFormed : world.files.WellFormed) (free : world.files.LinkFree) :
    settings.provisioning.Touches settings.engine world.files
        (Effect.run (precompile compiler settings.dry cancelled) world).2.files ∧
      (settings.dryRun = false → (lookup settings world.files).isSome = true →
        lookup settings (world.files.makeDirectories settings.outputDirectory).2 =
          lookup settings world.files →
        (∀ root bundle, world.files.canonical settings.sourceDirectory = .ok root →
          .ok bundle ∈ ((walkOf settings root).items world.files).1 →
          (walkOf settings root).isTemplateName bundle.outputFile = false) →
        (∀ error root place,
          (Effect.run (precompile compiler settings cancelled) world).1 = .error error →
          world.files.canonical settings.sourceDirectory = .ok root →
          world.files.directoryOf root = .ok place →
          (walkOf settings root).FitsNew world.files place
            (Effect.run (precompile compiler settings cancelled) world).2.files) →
        Foretells compiler settings cancelled world
          (Effect.run (precompile compiler settings cancelled) world).1
          (Effect.run (precompile compiler settings.dry cancelled) world).1) := by
  constructor
  · have touches : settings.dry.provisioning.Touches settings.dry.engine world.files
        (Effect.run (precompile compiler settings.dry cancelled) world).2.files :=
      precompile_of_dry rfl wellFormed free
    exact touches
  · intro real present same modest fits
    exact precompile_foretold wellFormed real present same free modest fits

theorem refusedWorld_fitsNew (walk : Walk) :
    walk.FitsNew Walk.sampleFiles [Bytes.ofString "s"] refusedWorld.files := by
  have created : refusedWorld.files = createdFiles := by cbv
  rw [created]
  apply Walk.fitsNew_of_entries
  decide

theorem precompile_dry_of_sample :
    (sampleSettings.provisioning.Touches sampleSettings.engine Walk.sampleFiles
        (Effect.run (precompile echoing sampleSettings.dry Cancellation.never)
          sampleWorld).2.files ∧
      (Effect.run (precompile echoing sampleSettings.dry Cancellation.never) sampleWorld).1 =
        .ok ⟨sampleEngine, [⟨.ofString "/o/s.js", ["a"]⟩], 1, true⟩) ∧
    ∀ other, (Effect.run (precompile refusing sampleSettings.dry Cancellation.never)
        sampleWorld).1 = .error other →
      .failures [refusal] = other ∨ Earlier refusing sampleSettings Cancellation.never sampleWorld
        (.failures [refusal]) := by
  have free : Walk.sampleFiles.LinkFree :=
    FileTree.linkFree_of_entries (by simp [Walk.sampleFiles])
  have modest := modest_of_sampleFiles sampleSettings sampleBundle rfl (by cbv) (by cbv)
  have canonical : Walk.sampleFiles.canonical (.ofString "/s") = .ok (.ofString "/s") := by cbv
  have reached : Walk.sampleFiles.directoryOf (.ofString "/s") = .ok [Bytes.ofString "s"] := by cbv
  have same : lookup sampleSettings (Walk.sampleFiles.makeDirectories (.ofString "/o")).2 =
      lookup sampleSettings Walk.sampleFiles := by
    cbv
  obtain ⟨touches, foretells⟩ := precompile_dry echoing sampleSettings Cancellation.never
    sampleWorld Walk.sampleFiles_wellFormed free
  obtain ⟨_, foretellsError⟩ := precompile_dry refusing sampleSettings Cancellation.never
    sampleWorld Walk.sampleFiles_wellFormed free
  rw [echoing_run] at foretells
  rw [refusing_run] at foretellsError
  refine ⟨⟨touches, ?_⟩, ?_⟩
  · refine foretells rfl (by cbv) same modest ?_
    rintro _ _ _ ⟨⟩
  · refine foretellsError rfl (by cbv) same modest ?_
    intro _ root place _ isRoot isPlace
    cases canonical.symm.trans isRoot
    cases reached.symm.trans isPlace
    exact refusedWorld_fitsNew _

end Run

/-! ## Where a walk ends -/

namespace Walk

variable {walk : Walk} {files : FileTree} {place : Place}

/-- Where no file is, no templates are. -/
theorem templatesAt_of_bare (bare : ∀ each ∈ files.entries, place <+: each.1 → each.2 = .directory)
    (wellFormed : files.WellFormed) (free : files.LinkFree)
    (reached : files.directoryOf walk.root = .ok place) {relative : List Name}
    (found : files.entry? (place ++ relative) = some .directory) :
    walk.templatesAt files place relative = [] := by
  apply List.eq_nil_iff_forall_not_mem.mpr
  intro name member
  obtain ⟨_, ⟨content, isFile⟩, _⟩ :=
    (mem_templatesAt_linkFree wellFormed free reached found name).mp member
  have listed := FileTree.mem_entries_of_found (by simp) isFile
  rw [List.append_assoc] at listed
  cases bare _ listed (List.prefix_append _ _)

end Walk

namespace Run

variable {σ : Type} {compiler : Compiler σ} {settings : Settings} {engine : Engine}
  {place : Place} {world : World}

/-- A walk ends at a directory that it cannot enter. -/
theorem visitAll_of_unfit (compiler : Compiler σ) (settings : Settings) (cancelled : Cancellation)
    (engine : Engine) (walk : Walk) (wellFormed : world.files.WellFormed)
    (free : world.files.LinkFree) (reached : world.files.directoryOf walk.root = .ok place)
    (bare : ∀ each ∈ world.files.entries, place <+: each.1 → each.2 = .directory)
    (fits : Fits walk.root []) {name : Name} {others : List Name}
    (inside : Walk.directoriesAt world.files place [] = name :: others)
    (unfit : ¬ Fits walk.root [name]) (progress : Progress σ)
    (goesOn : cancelled progress.polls progress.accepted = false) :
    steps.after (walk.visitAll (visitor compiler settings cancelled engine)) (progress, world) =
      .error (.walk (.listing (walk.root.joinName name) .nameTooLong), world) := by
  have isRoot : world.files.entry? (place ++ []) = some .directory := by
    rw [List.append_nil]
    exact FileTree.entry?_of_directoryOf wellFormed reached
  have isInside : world.files.entry? (place ++ [name]) = some .directory := by
    have member : name ∈ Walk.directoriesAt world.files place [] := by
      rw [inside]
      exact List.mem_cons_self
    rw [Walk.mem_directoriesAt_iff, List.append_nil] at member
    exact member
  have course := Walk.visitAll_course walk (visitor_serves compiler settings cancelled engine)
    (progress, world) wellFormed
  apply course.unique
  rw [show walk.begin (filesOf (progress, world)) = _ from Walk.begin_of_directoryOf free reached]
  have nothing : (Walk.Errand.enter true (walk.root.descend []) []).item? walk world.files = _ :=
    Walk.item?_descend wellFormed reached isRoot
  rw [if_pos fits, if_pos (Walk.templatesAt_of_bare bare wellFormed free reached isRoot)] at nothing
  have below : Walk.Errand.below world.files (.enter true walk.root []) = _ :=
    Walk.below_descend wellFormed reached isRoot true
  rw [if_pos fits, inside, List.map_cons] at below
  have fails : (Walk.Errand.enter true (walk.root.descend [name]) [name]).item? walk
      world.files = _ :=
    Walk.item?_descend wellFormed reached isInside
  rw [if_neg unfit] at fails
  -- The root itself yields nothing, so the walk is at the first directory in it.
  refine .silent nothing ?_
  rw [show filesOf (progress, world) = world.files from rfl, below]
  refine .stopped fails ?_
  rw [take_error_eq, goesOn]
  rfl

/-- So does a run that comes to it. -/
theorem precompile_of_unfit {root : Path} {start : σ} {ready : World}
    (prepares : Effect.run (prepare compiler settings) world = (.ok (root, engine, start), ready))
    (wellFormed : ready.files.WellFormed) (free : ready.files.LinkFree)
    (reached : ready.files.directoryOf root = .ok place)
    (bare : ∀ each ∈ ready.files.entries, place <+: each.1 → each.2 = .directory)
    (fits : Fits root []) {name : Name} {others : List Name}
    (inside : Walk.directoriesAt ready.files place [] = name :: others)
    (unfit : ¬ Fits root [name]) :
    Effect.run (precompile compiler settings Cancellation.never) world =
      (.error (.walk (.listing (root.joinName name) .nameTooLong)), ready) := by
  rw [precompile_run, prepares]
  simp only [walkThrough]
  have stops := visitAll_of_unfit compiler settings Cancellation.never engine
    (walkOf settings root) wellFormed free reached bare fits inside unfit (starting start) rfl
  rw [stops]
  rfl

/-! ## A directory that is too deep -/

def longName (byte : UInt8) : Name :=
  List.replicate FileTree.longestName byte

def deepPlace : Place :=
  List.replicate 15 (longName 0x6D)

/-- Deep below the root, where a directory with a long name could only be created from nearby. -/
def deepFiles : FileTree where
  entries := (List.range 15).map (fun depth => (deepPlace.take (depth + 1), .directory)) ++
    [(deepPlace ++ [longName 0x7A], .directory), ([Bytes.ofString "e"], .file (Bytes.ofString "y"))]
  working := deepPlace

def deeperFiles : FileTree where
  entries := deepFiles.entries ++ [(deepPlace ++ [longName 0x61], .directory)]
  working := deepPlace

def deepSettings : Settings :=
  { sampleSettings with
    sourceDirectory := .ofString "."
    outputDirectory := ⟨longName 0x61⟩ }

def deepRoot : Path :=
  FileTree.pathOf deepPlace

def deepWorld : World :=
  .initial deepFiles .unreachable

theorem deepFiles_wellFormed : deepFiles.WellFormed := by
  decide +kernel

theorem deepFiles_free : deepFiles.LinkFree := by
  apply FileTree.linkFree_of_entries
  simp only [deepFiles, List.mem_append, List.mem_map, List.mem_cons, List.not_mem_nil, or_false]
  rintro _ (⟨_, _, rfl⟩ | rfl | rfl) target isLink <;> cases isLink

theorem deeperFiles_bare :
    ∀ each ∈ deeperFiles.entries, deepPlace <+: each.1 → each.2 = .directory := by
  decide +kernel

theorem deepFiles_bare (each : Place × Entry) (member : each ∈ deepFiles.entries) :
    deepPlace <+: each.1 → each.2 = .directory :=
  deeperFiles_bare each (List.mem_append_left _ member)

theorem deepFiles_inside : Walk.directoriesAt deepFiles deepPlace [] = [longName 0x7A] ∧
    Walk.directoriesAt deeperFiles deepPlace [] = [longName 0x61, longName 0x7A] := by
  decide +kernel

theorem deepRoot_fits : Fits deepRoot [] ∧ ¬ Fits deepRoot [longName 0x61] ∧
    ¬ Fits deepRoot [longName 0x7A] := by
  decide +kernel

theorem deepRoot_reached : deepFiles.directoryOf deepRoot = .ok deepPlace :=
  FileTree.directoryOf_pathOf deepFiles_wellFormed deepFiles_wellFormed.working (by decide +kernel)

set_option maxRecDepth 10000 in
theorem deepRoot_source : sourceIn deepSettings deepFiles = .ok deepRoot := by
  have found : deepFiles.find (.ofString ".") = .ok (deepPlace, .directory) := by cbv
  exact sourceIn_eq_ok_iff.mpr ⟨FileTree.canonical_eq_ok_iff.mpr ⟨_, _, found, rfl⟩,
    FileTree.isDirectory_iff.mpr ⟨_, FileTree.directoryOf_eq_ok_iff.mp deepRoot_reached⟩⟩

set_option maxRecDepth 10000 in
theorem deepFiles_made : deepFiles.makeDirectories deepSettings.outputDirectory =
    (.ok (), deeperFiles) := by
  cbv

def deeperWorld : World :=
  .initial deeperFiles .unreachable

theorem deepSettings_modest (root : Path) (bundle : Bundle)
    (isRoot : deepFiles.canonical deepSettings.sourceDirectory = .ok root)
    (member : .ok bundle ∈ ((walkOf deepSettings root).items deepFiles).1) :
    (walkOf deepSettings root).isTemplateName bundle.outputFile = false := by
  cases (sourceIn_eq_ok_iff.mp deepRoot_source).1.symm.trans isRoot
  have reached : deepFiles.directoryOf (walkOf deepSettings deepRoot).root = .ok deepPlace :=
    deepRoot_reached
  obtain ⟨relative, found, filled, _⟩ :=
    bundle_of_items deepFiles_wellFormed deepFiles_free reached member
  exact absurd (Walk.templatesAt_of_bare deepFiles_bare deepFiles_wellFormed deepFiles_free
    reached found) filled

set_option maxRecDepth 10000 in
theorem deepSettings_run :
    Effect.run (precompile refusing deepSettings Cancellation.never) deepWorld =
      (.error (.walk (.listing (deepRoot.joinName (longName 0x61)) .nameTooLong)),
        deeperWorld) := by
  -- The output directory is created with its own name only, which is not too long.
  obtain ⟨adds, wellFormed⟩ :=
    FileTree.makeDirectories_adds deepFiles_wellFormed deepSettings.outputDirectory
  rw [deepFiles_made] at adds wellFormed
  have equips : Effect.run (equip refusing deepSettings) deeperWorld =
      (.ok (sampleEngine, 0), deeperWorld) := by
    cbv
  have prepares : Effect.run (prepare refusing deepSettings) deepWorld =
      (.ok (deepRoot, sampleEngine, 0), deeperWorld) := by
    have source : sourceIn deepSettings deepWorld.files = .ok deepRoot := deepRoot_source
    have made : deepWorld.files.makeDirectories deepSettings.outputDirectory =
        (.ok (), deeperFiles) :=
      deepFiles_made
    rw [prepare_run_eq refusing rfl, source]
    simp only
    rw [made]
    simp only
    rw [show { deepWorld with files := deeperFiles } = deeperWorld from rfl, equips]
  have inside : Walk.directoriesAt deeperWorld.files deepPlace [] =
      [longName 0x61, longName 0x7A] :=
    deepFiles_inside.2
  exact precompile_of_unfit prepares wellFormed (adds.linkFree deepFiles_free)
    (adds.directoryOf deepRoot_reached) deeperFiles_bare deepRoot_fits.1 inside
    deepRoot_fits.2.1

set_option maxRecDepth 10000 in
theorem deepSettings_dry_run :
    Effect.run (precompile refusing deepSettings.dry Cancellation.never) deepWorld =
      (.error (.walk (.listing (deepRoot.joinName (longName 0x7A)) .nameTooLong)), deepWorld) := by
  have prepares : Effect.run (prepare refusing deepSettings.dry) deepWorld =
      (.ok (deepRoot, sampleEngine, 0), deepWorld) := by
    have source : sourceIn deepSettings.dry deepWorld.files = .ok deepRoot := deepRoot_source
    have equips : Effect.run (equip refusing deepSettings.dry) deepWorld =
        (.ok (sampleEngine, 0), deepWorld) := by
      cbv
    rw [prepare_of_dry refusing rfl, source]
    simp only
    rw [equips]
  have inside : Walk.directoriesAt deepWorld.files deepPlace [] = [longName 0x7A] :=
    deepFiles_inside.1
  exact precompile_of_unfit prepares deepFiles_wellFormed deepFiles_free deepRoot_reached
    deepFiles_bare deepRoot_fits.1 inside deepRoot_fits.2.2

theorem deepSettings_parts : ¬ Foretells refusing deepSettings Cancellation.never deepWorld
    (Effect.run (precompile refusing deepSettings Cancellation.never) deepWorld).1
    (Effect.run (precompile refusing deepSettings.dry Cancellation.never) deepWorld).1 := by
  rw [deepSettings_run, deepSettings_dry_run]
  intro foretells
  rcases foretells _ rfl with same | earlier
  · injection same with same
    injection same with same
    have differ : longName 0x61 ≠ longName 0x7A := by decide +kernel
    exact differ (Path.joinName_injective rfl rfl same)
  · cases earlier with
    | module _ _ stumbles =>
        obtain ⟨_, _, _, _, _, _, _, _, isCause, _⟩ := stumbles
        cases isCause

/-! ## A cache that is somewhere else -/

/-- Until the directory on the way is there, the path of the cache leads nowhere. -/
def strayingSettings : Settings :=
  { sampleSettings with
    sourceDirectory := .ofString "."
    provisioning := { Provisioning.sample with cacheDirectory := .ofString "n/../c" } }

/-- The directory of the cache is there already, with a script of this content. -/
def strayingFiles (content : Bytes) (others : List (Place × Entry)) : FileTree where
  entries := [([.ofString "c"], .directory), ([.ofString "c", .ofString "e"], .file content)] ++
    others
  working := []

def strayingWorld : World :=
  { Provisioning.sampleWorld with files := strayingFiles [0x79] [] }

def strayedWorld : World :=
  { strayingWorld with
    files := strayingFiles [0x78] [([.ofString "n"], .directory)]
    network := strayingWorld.network.after
      [(⟨Provisioning.sampleUrl, Fetch.agent⟩, .replied Provisioning.sampleReply)] }

theorem resolve_of_strayingSettings :
    Effect.run (strayingSettings.provisioning.resolve strayingSettings.engine) strayingWorld =
      (.ok ⟨"e", ⟨.fetched, .ofString "n/../c/e"⟩⟩, strayedWorld) := by
  have made : strayingWorld.files.makeDirectories strayingSettings.provisioning.cacheDirectory =
      (.ok (), strayingFiles [0x79] [([.ofString "n"], .directory)]) := by
    cbv
  have fetched : Effect.run (strayingSettings.provisioning.fetch "e") strayingWorld =
      (.ok (.ofString "n/../c/e"), strayedWorld) :=
    strayingSettings.provisioning.fetch_of_reply "e" rfl Provisioning.requestUrl_sample rfl rfl rfl
      rfl (by simp [Provisioning.sampleReply]) made (by cbv) (by cbv)
  exact strayingSettings.provisioning.resolve_of_fetch "e" (by decide) (by cbv) (by cbv) rfl fetched

theorem strayingSettings_dry_run :
    (Effect.run (precompile refusing strayingSettings.dry Cancellation.never)
      strayingWorld).2.files = strayedWorld.files := by
  have dry : strayingSettings.dry.dryRun = true := rfl
  have wellFormed : strayingWorld.files.WellFormed := by decide
  have source : sourceIn strayingSettings.dry strayingWorld.files = .ok (.ofString "/") := by cbv
  rw [files_of_dry dry wellFormed, source]
  exact congrArg (fun ran => ran.2.files) resolve_of_strayingSettings

/-! ## Both -/

set_option maxRecDepth 10000 in
/-- A run ends at a directory of which the dry run knows nothing, and a dry run replaces a script
that was there. -/
theorem precompile_unforeseen :
    (deepFiles.WellFormed ∧ deepFiles.LinkFree ∧ deepSettings.dryRun = false ∧
      (lookup deepSettings deepFiles).isSome = true ∧
      lookup deepSettings (deepFiles.makeDirectories deepSettings.outputDirectory).2 =
        lookup deepSettings deepFiles ∧
      (∀ root bundle, deepFiles.canonical deepSettings.sourceDirectory = .ok root →
        .ok bundle ∈ ((walkOf deepSettings root).items deepFiles).1 →
        (walkOf deepSettings root).isTemplateName bundle.outputFile = false) ∧
      (Effect.run (precompile refusing deepSettings Cancellation.never) deepWorld).1 =
        .error (.walk (.listing (deepRoot.joinName (longName 0x61)) .nameTooLong)) ∧
      (Effect.run (precompile refusing deepSettings.dry Cancellation.never) deepWorld).1 =
        .error (.walk (.listing (deepRoot.joinName (longName 0x7A)) .nameTooLong)) ∧
      ¬ Foretells refusing deepSettings Cancellation.never deepWorld
        (Effect.run (precompile refusing deepSettings Cancellation.never) deepWorld).1
        (Effect.run (precompile refusing deepSettings.dry Cancellation.never) deepWorld).1) ∧
    strayingWorld.files.WellFormed ∧ strayingWorld.files.LinkFree ∧
      strayingWorld.files.entry? [.ofString "c", .ofString "e"] = some (.file [0x79]) ∧
      (Effect.run (precompile refusing strayingSettings.dry Cancellation.never)
        strayingWorld).2.files.entry? [.ofString "c", .ofString "e"] = some (.file [0x78]) := by
  refine ⟨⟨deepFiles_wellFormed, deepFiles_free, rfl, by cbv, ?_, deepSettings_modest,
    congrArg Prod.fst deepSettings_run, congrArg Prod.fst deepSettings_dry_run,
    deepSettings_parts⟩, by decide, FileTree.linkFree_of_entries ?_, rfl, ?_⟩
  · rw [deepFiles_made]
    cbv
  · simp [strayingWorld, strayingFiles]
  · rw [strayingSettings_dry_run]
    rfl

end Run

end TemplateBuild

import TemplateBuild.Proofs.FileTree.Entering
import TemplateBuild.Proofs.Run.Success
import TemplateBuild.Proofs.Walk.Flatten

/-!
# Runs that flatten the hierarchy

All modules go into one directory, and a module takes the place of an earlier one with the same
path.  So after a run that succeeds, every module that it reports holds the templates of the last
bundle with this path, and those of its own bundle where names are kept apart.
-/

set_option autoImplicit false

namespace TemplateBuild

open FileTree (Grown)

variable {σ : Type} {compiler : Compiler σ} {settings : Settings} {walk : Walk}
  {first last : Situation σ} {stages : List Stage}

/-! ## Paths of modules -/

theorem Walk.parted_of_places (flattens : walk.layout.hierarchy = .flatten)
    (places : ∀ stage ∈ stages, ∃ names, walk.Places names stage.bundle) :
    ∀ stage ∈ stages, ∀ other ∈ stages, stage.bundle.Parted other.bundle := by
  intro stage member other isOther
  obtain ⟨_, isPlace⟩ := places stage member
  obtain ⟨_, isPlaceToo⟩ := places other isOther
  exact isPlace.parted flattens isPlaceToo

/-- The last stage whose module has this path. -/
def latestAt (stages : List Stage) (path : Path) : Option Stage :=
  stages.reverse.find? fun stage => stage.bundle.outputFile = path

theorem latestAt_isSome {stage : Stage} (member : stage ∈ stages) :
    (latestAt stages stage.bundle.outputFile).isSome := by
  rw [latestAt, List.find?_isSome]
  exact ⟨stage, List.mem_reverse.mpr member, decide_eq_true rfl⟩

theorem latestAt_eq_some {path : Path} {latest : Stage}
    (found : latestAt stages path = some latest) :
    latest ∈ stages ∧ latest.bundle.outputFile = path := by
  have isLast := List.find?_some found
  exact ⟨List.mem_reverse.mp (List.mem_of_find?_eq_some found), of_decide_eq_true isLast⟩

/-- Where flattening keeps all directories apart, no later stage has the same path. -/
theorem latestAt_of_unblurred {stage latest : Stage}
    (found : latestAt stages stage.bundle.outputFile = some latest) (member : stage ∈ stages)
    (distinct : (stages.map fun stage => stage.bundle.relativeDirectory).Nodup)
    (parted : ∀ stage ∈ stages, ∀ other ∈ stages, stage.bundle.Parted other.bundle)
    (unblurred : ∀ stage ∈ stages, stage.bundle.Unblurred) : latest = stage := by
  obtain ⟨isIn, samePath⟩ := latestAt_eq_some found
  apply List.inj_on_of_nodup_map distinct isIn member
  exact (parted latest isIn stage member).own (unblurred latest isIn) (unblurred stage member)
    samePath

/-! ## One directory -/

theorem Stage.Writes.grown {stage : Stage} (writes : stage.Writes settings) :
    Grown (fun _ => False) stage.before stage.after := by
  rcases writes.cases with same | ⟨content, _, stored⟩
  · rw [same]
    exact .refl _
  · exact stored.grown

namespace Account

theorem grown (account : Account compiler settings walk first stages last) :
    Grown (fun _ => False) first.files last.files := by
  induction account with
  | rest situation => exact .refl _
  | silent _ _ ih => exact ih
  | stage _ _ writes _ _ ih => exact writes.grown.trans ih

/-- All bundles lie below the root, and no two in the same directory. -/
theorem places (account : Account compiler settings walk first stages last)
    (wellFormed : first.files.WellFormed) (begins : first.agenda = walk.begin first.files) :
    (∀ stage ∈ stages, ∃ names, walk.Places names stage.bundle) ∧
      (stages.map fun stage => stage.bundle.relativeDirectory).Nodup := by
  obtain ⟨done, sweep, sound, bundles⟩ := account.sweep wellFormed
  rw [begins] at sweep
  obtain ⟨starts, apart⟩ := Walk.begin_sound walk first.files
  obtain ⟨all, distinct⟩ := sweep.places walk sound starts apart
  rw [bundles] at all distinct
  constructor
  · intro stage member
    exact all stage.bundle (List.mem_map_of_mem member)
  · rw [List.pairwise_map] at distinct
    rw [List.Nodup, List.pairwise_map]
    exact distinct.imp fun different => different _ _ rfl rfl

section EmitsFlat

variable {directory : Place}

/-- What lies in the directory of the modules and has the name of none stays as it is. -/
theorem stays (account : Account compiler settings walk first stages last) {name : Name}
    {entry : Entry} : first.files.HostsOnly walk.layout.output directory →
      (∀ stage ∈ stages, walk.EmitsFlat stage.bundle) →
      first.files.entry? (directory ++ [name]) = some entry →
      (∀ stage ∈ stages, walk.flatFile stage.bundle ≠ name) →
      last.files.entry? (directory ++ [name]) = some entry := by
  induction account with
  | rest situation => exact fun _ _ found _ => found
  | silent _ _ ih => exact ih
  | @stage stage errand agenda engineState next stages last _ _ writes _ _ ih =>
      intro only emits found away
      rw [List.forall_mem_cons] at emits away
      apply ih (only.later writes.grown) emits.2 _ away.2
      rcases writes.cases with same | ⟨content, _, stored⟩
      · rw [same]
        exact found
      · rw [emits.1.path] at stored
        apply (stored.below emits.1.plain only).2 _ _ _ found
        intro here
        exact away.1 (List.singleton_inj.mp (List.append_cancel_left here)).symm

/-- The last module of a path is there in the end. -/
theorem latest (account : Account compiler settings walk first stages last)
    (real : settings.dryRun = false) {path : Path} {latest : Stage} :
    first.files.HostsOnly walk.layout.output directory →
      (∀ stage ∈ stages, walk.EmitsFlat stage.bundle) →
      latestAt stages path = some latest →
      latest.accepted ≠ [] → ∃ content,
        settings.encoding.encode (ModuleText.render latest.accepted).toList = some content ∧
          latest.before.Stores latest.bundle.outputFile content latest.after ∧
          Grown (fun _ => False) first.files latest.before ∧
          Grown (fun _ => False) latest.after last.files ∧
          last.files.entry? (directory ++ [walk.flatFile latest.bundle]) =
            some (.file content) := by
  induction account with
  | rest situation =>
      intro _ _ found
      cases found
  | silent _ _ ih => exact ih
  | @stage stage errand agenda engineState next stages last _ _ writes _ further ih =>
      intro only emits found filled
      rw [List.forall_mem_cons] at emits
      rw [latestAt, List.reverse_cons, List.find?_append, Option.or_eq_some_iff] at found
      rcases found with later | ⟨none, here⟩
      · obtain ⟨content, encoded, stored, before, after, lies⟩ :=
          ih (only.later writes.grown) emits.2 later filled
        exact ⟨content, encoded, stored, writes.grown.trans before, after, lies⟩
      · have isLast := List.find?_some here
        obtain rfl := List.mem_singleton.mp (List.mem_of_find?_eq_some here)
        rw [Stage.Writes, if_neg (by simp [filled, real])] at writes
        obtain ⟨content, encoded, stored⟩ := writes
        refine ⟨content, encoded, stored, .refl _, further.grown, ?_⟩
        apply further.stays (only.later stored.grown) emits.2
        · rw [emits.1.path] at stored
          exact (stored.below emits.1.plain only).1
        · -- A later module of the same name would have the same path.
          intro other member same
          apply List.find?_eq_none.mp none other (List.mem_reverse.mpr member)
          rw [(emits.2 other member).path, same, ← emits.1.path]
          exact isLast

end EmitsFlat

theorem filled (account : Account compiler settings walk first stages last)
    (clean : stages.flatMap Stage.rejected = [])
    (places : ∀ stage ∈ stages, ∃ names, walk.Places names stage.bundle) :
    ∀ stage ∈ stages, stage.accepted ≠ [] := by
  intro stage member
  obtain ⟨_, isPlace⟩ := places stage member
  exact Stage.accepted_ne_nil (List.flatMap_eq_nil_iff.mp clean stage member)
    (account.templates stage member) isPlace.templates

/-- In a run that flattens the hierarchy all modules go into one directory. -/
theorem emitsFlat (account : Account compiler settings walk first stages last)
    (real : settings.dryRun = false) (flattens : walk.layout.hierarchy = .flatten)
    (slashless : '/' ∉ walk.layout.extension.toList)
    (places : ∀ stage ∈ stages, ∃ names, walk.Places names stage.bundle)
    (filled : ∀ stage ∈ stages, stage.accepted ≠ []) :
    ∀ stage ∈ stages, walk.EmitsFlat stage.bundle := by
  intro stage member
  have writes := account.writes stage member
  rw [Stage.Writes, if_neg (by simp [filled stage member, real])] at writes
  obtain ⟨content, _, stored⟩ := writes
  obtain ⟨names, isPlace⟩ := places stage member
  exact isPlace.emitsFlat_of_stored flattens slashless stored

theorem hostsOnly (account : Account compiler settings walk first stages last)
    (real : settings.dryRun = false) (emits : ∀ stage ∈ stages, walk.EmitsFlat stage.bundle)
    (filled : ∀ stage ∈ stages, stage.accepted ≠ []) (some : stages ≠ []) :
    ∃ directory, first.files.HostsOnly walk.layout.output directory := by
  induction account with
  | rest situation => exact absurd rfl some
  | silent _ _ ih => exact ih emits filled some
  | @stage stage errand agenda engineState next stages last _ _ writes _ _ _ =>
      rw [List.forall_mem_cons] at emits filled
      rw [Stage.Writes, if_neg (by simp [filled.1, real])] at writes
      obtain ⟨content, _, stored⟩ := writes
      rw [emits.1.path] at stored
      exact stored.hostsOnly emits.1.plain

end Account

/-! ## What is left of a module -/

/-- The module of a stage in the end: it holds all templates of the bundle, in a file of its name
in the directory of the modules, and nothing else is read at its path. -/
structure Stage.Lasts (settings : Settings) (before after : FileTree) (directory : Place)
    (stage : Stage) : Prop where
  whole : stage.verdicts.map Verdict.template = stage.bundle.templates
  accepted : ∀ verdict ∈ stage.verdicts, ∃ fragment, verdict.answer = .ok fragment
  written : ∃ name content, stage.bundle.outputFile = settings.outputDirectory.joinName name ∧
    settings.encoding.encode (ModuleText.render stage.accepted).toList = some content ∧
    after.entry? (directory ++ [name]) = some (.file content) ∧
    (∀ present, after.contentOf stage.bundle.outputFile = .ok present → present = content) ∧
    (before.LinkFree → after.contentOf stage.bundle.outputFile = .ok content)

namespace Account

theorem lasts {before : FileTree} {directory : Place} {latest : Stage}
    (account : Account compiler settings walk first stages last)
    (real : settings.dryRun = false) (layout : walk.layout.output = settings.outputDirectory)
    (emits : ∀ stage ∈ stages, walk.EmitsFlat stage.bundle)
    (clean : stages.flatMap Stage.rejected = [])
    (filled : ∀ stage ∈ stages, stage.accepted ≠ [])
    (only : first.files.HostsOnly walk.layout.output directory)
    (free : before.LinkFree → first.files.LinkFree) {path : Path}
    (found : latestAt stages path = some latest) :
    latest.Lasts settings before last.files directory := by
  obtain ⟨member, _⟩ := latestAt_eq_some found
  obtain ⟨content, encoded, stored, grown, further, lies⟩ :=
    account.latest real only emits found (filled latest member)
  obtain ⟨shape, plain⟩ := emits latest member
  refine ⟨account.templates latest member,
    (Verdict.accepted_of_clean (List.flatMap_eq_nil_iff.mp clean latest member)).1,
    walk.flatFile latest.bundle, content, by rw [shape, layout], encoded, lies, ?_, ?_⟩
  · intro present reads
    rw [shape] at reads
    exact FileTree.contentOf_of_hosts plain (only.later account.grown) lies reads
  · intro beforeFree
    rw [shape] at stored ⊢
    exact stored.contentOf_below plain (grown.linkFree (free beforeFree)) (only.later grown) further
      lies

/-- In the end, the last module of each path is there. -/
theorem all_last {before : FileTree}
    (account : Account compiler settings walk first stages last)
    (real : settings.dryRun = false) (layout : walk.layout.output = settings.outputDirectory)
    (emits : ∀ stage ∈ stages, walk.EmitsFlat stage.bundle)
    (clean : stages.flatMap Stage.rejected = [])
    (filled : ∀ stage ∈ stages, stage.accepted ≠ [])
    (free : before.LinkFree → first.files.LinkFree) :
    ∃ directory, ∀ stage ∈ stages, ∃ latest,
      latestAt stages stage.bundle.outputFile = some latest ∧
        latest.Lasts settings before last.files directory := by
  by_cases none : stages = []
  · subst none
    exact ⟨[], fun _ member => absurd member List.not_mem_nil⟩
  obtain ⟨directory, only⟩ := account.hostsOnly real emits filled none
  refine ⟨directory, fun stage member => ?_⟩
  obtain ⟨latest, found⟩ := Option.isSome_iff_exists.mp (latestAt_isSome member)
  exact ⟨latest, found, account.lasts real layout emits clean filled only free found⟩

end Account

namespace Run

variable {cancelled : Cancellation} {world later : World}

theorem Readied.grown {before ready : FileTree} (readied : Readied settings before ready) :
    Grown (fun _ => False) before ready := by
  rcases readied with adds | ⟨content, stored⟩
  · exact (Grown.refl before).adds adds
  · exact stored.grown

/-- Modules of a run that flattens the hierarchy share a path exactly if the names of their
directories spell the same.  When a run has succeeded, each module that it reports is there with
all templates of the last bundle that has its path; this is its own bundle if no name on the ways
to the bundles is blurred. -/
theorem precompile_of_flatten (flattens : settings.hierarchy = .flatten) :
    (∀ root files, files.WellFormed → ∀ bundle another,
      .ok bundle ∈ ((walkOf settings root).items files).1 →
      .ok another ∈ ((walkOf settings root).items files).1 → bundle.Parted another) ∧
    ∀ cancelled world later report, world.files.WellFormed →
      Effect.run (precompile compiler settings cancelled) world = (.ok report, later) →
      ∃ root engine start ready stages last,
        Prepared compiler settings world.files root engine start ready ∧
        Account compiler settings (walkOf settings root)
          ⟨ready, (walkOf settings root).begin ready, start⟩ stages last ∧
        last.agenda = [] ∧ last.files = later.files ∧
        report.modules = stages.map (fun stage => ⟨stage.bundle.outputFile,
          stage.bundle.templates.map TemplateSource.logicalName⟩) ∧
        (stages.map fun stage => stage.bundle.relativeDirectory).Nodup ∧
        (∀ stage ∈ stages, ∀ other ∈ stages, stage.bundle.Parted other.bundle) ∧
        (settings.dryRun = false → '/' ∉ settings.outputExtension.toList →
          ∃ directory, ∀ stage ∈ stages, ∃ latest,
            latestAt stages stage.bundle.outputFile = some latest ∧
            latest.Lasts settings world.files later.files directory ∧
            ((∀ other ∈ stages, other.bundle.Unblurred) → latest = stage)) := by
  have flat : ∀ root, (walkOf settings root).layout.hierarchy = .flatten := fun _ => flattens
  constructor
  · intro root files wellFormed bundle another member memberToo
    obtain ⟨_, places⟩ := Walk.places_of_mem_items wellFormed member
    obtain ⟨_, placesToo⟩ := Walk.places_of_mem_items wellFormed memberToo
    exact places.parted (flat root) placesToo
  · intro cancelled world later report wellFormed succeeded
    rw [precompile_run] at succeeded
    rcases prepared : Effect.run (prepare compiler settings) world with
      ⟨error | ⟨root, engine, start⟩, ready⟩
    · rw [prepared] at succeeded
      cases succeeded
    rw [prepared] at succeeded
    obtain ⟨readyWellFormed, known⟩ := prepare_run wellFormed prepared
    obtain ⟨stages, last, account, through, same, clean, rfl⟩ :=
      walkThrough_stages readyWellFormed succeeded
    obtain ⟨places, distinct⟩ := account.places readyWellFormed rfl
    have parted := Walk.parted_of_places (flat root) places
    have filled := account.filled clean places
    have modules := (modules_of_filled clean fun stage member =>
      ⟨filled stage member, account.templates stage member⟩).1
    rw [List.map_map] at modules
    refine ⟨root, engine, start, ready.files, stages, last, known, account, through, same, modules,
      distinct, parted, ?_⟩
    intro real slashless
    have emits := account.emitsFlat real (flat root) slashless places filled
    obtain ⟨directory, lasting⟩ :=
      account.all_last real rfl emits clean filled known.readied.grown.linkFree
    refine ⟨directory, fun stage member => ?_⟩
    obtain ⟨latest, found, lasts⟩ := lasting stage member
    rw [same] at lasts
    exact ⟨latest, found, lasts, latestAt_of_unblurred found member distinct parted⟩

def flatSettings : Settings :=
  { sampleSettings with hierarchy := .flatten }

def flatBundle : Bundle :=
  { sampleBundle with outputFile := .ofString "/o/index.js" }

/-- What there is after a run in which the templates of the root are all that there are. -/
def flatFiles (content : Bytes) : FileTree where
  entries := createdFiles.entries ++
    [([Bytes.ofString "o", Bytes.ofString "index.js"], .file content)]
  working := []

def flatWorld : World :=
  .initial (flatFiles echoedModule) .unreachable

theorem flat_run : Effect.run (precompile echoing flatSettings Cancellation.never) sampleWorld =
    (.ok ⟨sampleEngine, [⟨.ofString "/o/index.js", ["a"]⟩], 1, false⟩, flatWorld) := by
  have replaced (content : Bytes) : createdFiles.replaceFile flatBundle.outputFile.directory
      flatBundle.outputFile content = (.ok (), flatFiles content) := by
    cbv
  have prepared : Effect.run (prepare echoing flatSettings) sampleWorld =
      (.ok (.ofString "/s", sampleEngine, 0), createdWorld) := by
    cbv
  have yields : (Walk.Errand.enter true (.ofString "/s") []).item?
      (walkOf flatSettings (.ofString "/s")) createdFiles = some (.ok flatBundle) := by
    cbv
  exact echoing_delivers prepared (by cbv) yields (by cbv) (by cbv) rfl rfl (by cbv)
    (replaced echoedModule)

theorem precompile_of_flatSettings : flatSettings.hierarchy = .flatten ∧
    Effect.run (precompile echoing flatSettings Cancellation.never) sampleWorld =
      (.ok ⟨sampleEngine, [⟨.ofString "/o/index.js", ["a"]⟩], 1, false⟩, flatWorld) ∧
    ∃ (stage : Stage) (directory : Place), stage.bundle.outputFile = .ofString "/o/index.js" ∧
      stage.Lasts flatSettings sampleWorld.files flatWorld.files directory := by
  have flattens : flatSettings.hierarchy = .flatten := rfl
  refine ⟨flattens, flat_run, ?_⟩
  obtain ⟨_, _, _, _, stages, _, _, _, _, _, modules, _, _, lasting⟩ :=
    (precompile_of_flatten flattens).2 Cancellation.never sampleWorld flatWorld _
      Walk.sampleFiles_wellFormed flat_run
  obtain ⟨directory, lasting⟩ := lasting rfl (by decide)
  cases stages with
  | nil => cases modules
  | cons stage rest =>
      rw [List.map_cons, List.cons.injEq, AssembledModule.mk.injEq] at modules
      obtain ⟨latest, found, lasts, _⟩ := lasting stage (List.mem_cons_self ..)
      exact ⟨latest, directory, (latestAt_eq_some found).2.trans modules.1.1.symm, lasts⟩

/-! ### Names that spell the same -/

/-- A tree in which `a-b` and, within `a`, the directory `b` have templates. -/
def blurredFiles : FileTree where
  entries := [
    ([Bytes.ofString "s"], .directory),
    ([Bytes.ofString "s", Bytes.ofString "a"], .directory),
    ([Bytes.ofString "s", Bytes.ofString "a", Bytes.ofString "b"], .directory),
    ([Bytes.ofString "s", Bytes.ofString "a", Bytes.ofString "b", Bytes.ofString "y.h"],
      .file (Bytes.ofString "y")),
    ([Bytes.ofString "s", Bytes.ofString "a-b"], .directory),
    ([Bytes.ofString "s", Bytes.ofString "a-b", Bytes.ofString "x.h"],
      .file (Bytes.ofString "x"))]
  working := []

theorem outputFile_of_blurredFiles : blurredFiles.WellFormed ∧ flatSettings.hierarchy = .flatten ∧
    ∃ bundle another,
      ((walkOf flatSettings (.ofString "/s")).items blurredFiles).1 = [.ok bundle, .ok another] ∧
        bundle.sourceDirectory = .ofString "/s/a/b" ∧
        another.sourceDirectory = .ofString "/s/a-b" ∧
        bundle.outputFile = .ofString "/o/a-b.js" ∧ another.outputFile = .ofString "/o/a-b.js" := by
  have items : ((walkOf flatSettings (.ofString "/s")).items blurredFiles).1 = [
      .ok ⟨.ofString "/s/a/b", .ofString "a/b", .ofString "/o/a-b.js",
        [⟨.ofString "/s/a/b/y.h", "y"⟩]⟩,
      .ok ⟨.ofString "/s/a-b", .ofString "a-b", .ofString "/o/a-b.js",
        [⟨.ofString "/s/a-b/x.h", "x"⟩]⟩] := by
    cbv
  exact ⟨by decide, rfl, _, _, items, rfl, rfl, rfl, rfl⟩

end Run

end TemplateBuild

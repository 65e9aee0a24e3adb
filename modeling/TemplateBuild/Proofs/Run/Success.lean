import TemplateBuild.Proofs.Run.Preparing
import TemplateBuild.Proofs.Walk.Growing
import TemplateBuild.Proofs.Walk.Output

/-!
# Runs that succeed

In a tree without links, with the hierarchy preserved, no module takes the place of another, and
none is taken for a template.  So a run that succeeds has come past the bundles that a walk
through the files at its beginning yields, and in the end each module is at its path.
-/

set_option autoImplicit false

namespace TemplateBuild

open Walk (Errand Sweep Emits)
open FileTree (Fits Grown)

variable {σ : Type} {compiler : Compiler σ} {settings : Settings} {walk : Walk}
  {first last : Situation σ} {stages : List Stage}

/-! ## Modules in the end -/

theorem Stage.Writes.cases {stage : Stage} (writes : stage.Writes settings) :
    stage.after = stage.before ∨ ∃ content,
      settings.encoding.encode (ModuleText.render stage.accepted).toList = some content ∧
        stage.before.Stores stage.bundle.outputFile content stage.after := by
  rw [Stage.Writes] at writes
  split at writes
  · exact Or.inl writes
  · exact Or.inr writes

/-- A module does not take the place of a directory. -/
theorem Stage.Writes.keeps {stage : Stage} (writes : stage.Writes settings) :
    stage.after.working = stage.before.working ∧
      ∀ place, stage.before.entry? place = some .directory →
        stage.after.entry? place = some .directory := by
  rcases writes.cases with same | ⟨content, _, stored⟩
  · rw [same]
    exact ⟨rfl, fun _ found => found⟩
  · exact ⟨stored.working, fun _ => stored.directory_kept⟩

theorem Stage.Writes.linkFree {stage : Stage} (writes : stage.Writes settings)
    (free : stage.before.LinkFree) : stage.after.LinkFree := by
  rcases writes.cases with same | ⟨content, _, stored⟩
  · rwa [same]
  · exact stored.linkFree free

namespace Account

/-- Directories stay where they are. -/
theorem keeps (account : Account compiler settings walk first stages last) :
    last.files.working = first.files.working ∧
      ∀ place, first.files.entry? place = some .directory →
        last.files.entry? place = some .directory := by
  induction account with
  | rest situation => exact ⟨rfl, fun _ found => found⟩
  | silent _ _ ih => exact ih
  | @stage stage errand agenda engineState next stages last _ _ writes _ _ ih =>
      obtain ⟨working, kept⟩ := writes.keeps
      exact ⟨ih.1.trans working, fun place found => ih.2 place (kept place found)⟩

/-- What lies elsewhere than the modules stays as it is. -/
theorem elsewhere (account : Account compiler settings walk first stages last) {place : Place}
    {entry : Entry} : first.files.LinkFree → first.files.entry? place = some entry →
      (∀ stage ∈ stages, first.files.landingOf stage.bundle.outputFile ≠ place) →
      last.files.entry? place = some entry := by
  induction account with
  | rest situation => exact fun _ found _ => found
  | silent _ _ ih => exact ih
  | @stage stage errand agenda engineState next stages last _ _ writes _ _ ih =>
      intro free found away
      rw [List.forall_mem_cons] at away
      rcases writes.cases with same | ⟨content, _, stored⟩
      · rw [same] at ih
        exact ih free found away.2
      · -- The place of a later module is the same before and after this one.
        apply ih (stored.linkFree free)
        · obtain ⟨middle, adds, _, puts⟩ := stored.lands free
          rw [puts.entries, if_neg (Ne.symm away.1)]
          exact adds.keeps found
        · intro other member
          rw [FileTree.landingOf_congr stored.working]
          exact away.2 other member

/-- Modules at different places are all there in the end. -/
theorem holds (account : Account compiler settings walk first stages last)
    (real : settings.dryRun = false) : first.files.LinkFree →
      (stages.map fun stage => first.files.landingOf stage.bundle.outputFile).Nodup →
      (∀ stage ∈ stages, stage.accepted ≠ []) →
      ∀ stage ∈ stages, ∃ content,
        settings.encoding.encode (ModuleText.render stage.accepted).toList = some content ∧
          last.files.contentOf stage.bundle.outputFile = .ok content := by
  induction account with
  | rest situation =>
      intro _ _ _ stage member
      cases member
  | silent _ _ ih => exact ih
  | @stage stage errand agenda engineState next stages last _ _ writes _ further ih =>
      intro free distinct filled
      rw [List.map_cons, List.nodup_cons] at distinct
      rw [List.forall_mem_cons] at filled ⊢
      rw [Stage.Writes, if_neg (by simp [filled.1, real])] at writes
      obtain ⟨content, encoded, stored⟩ := writes
      have working := FileTree.landingOf_congr stored.working
      constructor
      · refine ⟨content, encoded, ?_⟩
        obtain ⟨same, kept⟩ := further.keeps
        apply stored.contentOf free same kept
        apply further.elsewhere (stored.linkFree free)
        · obtain ⟨middle, _, _, puts⟩ := stored.lands free
          rw [puts.entries, if_pos rfl]
        · intro other member there
          apply distinct.1
          rw [← there, working]
          exact List.mem_map_of_mem member
      · apply ih (stored.linkFree free) _ filled.2
        simp only [working]
        exact distinct.2

/-- A run that is through has entered all directories below those that were ahead of it. -/
theorem fits (account : Account compiler settings walk first stages last) {place : Place} :
    last.agenda = [] → first.files.WellFormed → first.files.LinkFree →
      first.files.directoryOf walk.root = .ok place →
      (∀ errand ∈ first.agenda, errand.Real walk.root first.files place) →
      ∀ relative more, .enter true (walk.root.descend relative) relative ∈ first.agenda →
        first.files.entry? (place ++ (relative ++ more)) = some .directory →
        Fits walk.root (relative ++ more) := by
  induction account with
  | rest situation =>
      intro through _ _ _ _ relative more member
      rw [through] at member
      cases member
  | @silent files errand agenda engineState stages last yields _ ih =>
      intro through wellFormed free reached real relative more member found
      have isReal := (List.forall_mem_cons.mp real).1
      rcases isReal.ahead wellFormed reached (by simp [yields]) member found with
        fits | ⟨inner, rest, same, isAhead⟩
      · exact fits
      · rw [← same] at found ⊢
        exact ih through wellFormed free reached (Errand.real_next wellFormed reached real) inner
          rest isAhead found
  | @stage stage errand agenda engineState next stages last yields _ writes later _ ih =>
      intro through wellFormed free reached real relative more member found
      have isReal := (List.forall_mem_cons.mp real).1
      obtain ⟨working, kept⟩ := writes.keeps
      rcases isReal.ahead wellFormed reached (by simp [yields]) member found with
        fits | ⟨inner, rest, same, isAhead⟩
      · exact fits
      · rw [← same] at found ⊢
        exact ih through later (writes.linkFree free)
          (FileTree.directoryOf_of_kept free working kept reached)
          (fun other isNext => (Errand.real_next wellFormed reached real other isNext).later kept)
          inner rest isAhead (kept _ found)

end Account

/-! ## The walk in the end -/

/-- What a walk with preserved hierarchy needs so that its modules do not disturb it: the tree
has no links, and no module of a bundle in it has a name that a template can have. -/
structure Walk.Undisturbed (walk : Walk) (before : FileTree) (place : Place) : Prop where
  wellFormed : before.WellFormed
  free : before.LinkFree
  reached : before.directoryOf walk.root = .ok place
  preserves : walk.layout.hierarchy = .preserve
  slashless : '/' ∉ walk.layout.extension.toList
  modest : ∀ relative, before.entry? (place ++ relative) = some .directory →
    Fits walk.root relative → walk.templatesAt before place relative ≠ [] →
    walk.isTemplateName (walk.bundleOn before place relative).outputFile = false

namespace Account

variable {before : FileTree} {place : Place}

/-- A run to the end comes past the bundles that are found in the tree as it was before, and the
engine is given their texts as they were. -/
theorem undisturbed (undisturbed : walk.Undisturbed before place)
    (account : Account compiler settings walk first stages last) : last.agenda = [] →
      first.files.WellFormed → Grown walk.Wants before first.files →
      (∀ errand ∈ first.agenda, errand.Real walk.root first.files place) →
      ∃ done, Sweep (first.agenda.filter (Errand.isKnown before place)) done [] ∧
        (∀ step ∈ done, step.2 = before) ∧
        walk.given done = stages.map (fun stage => .ok stage.bundle) ∧
        Run.judge compiler settings before first.engineState
          (stages.flatMap fun stage => stage.bundle.templates) =
            .ok (stages.flatMap Stage.verdicts, last.engineState) := by
  obtain ⟨wellFormed, free, reached, _, _, modest⟩ := undisturbed
  -- What carries the induction is that the tree has only grown by what no walk wants: modules, and
  -- directories without templates.
  induction account with
  | rest situation =>
      intro through _ _ _
      rw [through]
      exact ⟨[], .rest _, fun _ member => (by cases member), rfl, rfl⟩
  | @silent files errand agenda engineState stages last yields _ ih =>
      intro through stillWellFormed grown real
      have isReal := (List.forall_mem_cons.mp real).1
      have realNext := Errand.real_next stillWellFormed (grown.directoryOf free reached) real
      obtain ⟨done, sweep, still, items, judged⟩ := ih through stillWellFormed grown realNext
      obtain ⟨all, whole, stillAll, given⟩ := Sweep.past wellFormed stillWellFormed free grown
        reached isReal (by simp [yields]) sweep still
      refine ⟨all, whole, stillAll, ?_, judged⟩
      rw [given, yields, items]
      rfl
  | @stage stage errand agenda engineState next stages last yields judgedHere writes later _ ih =>
      intro through stillWellFormed grown real
      have isReal := (List.forall_mem_cons.mp real).1
      have reachedNow := grown.directoryOf free reached
      have succeeds : ∀ error, errand.item? walk stage.before ≠ some (.error error) := by
        simp [yields]
      obtain ⟨relative, rfl, found, fits⟩ := isReal.fits stillWellFormed reachedNow succeeds
      obtain ⟨known, filled, isBundle⟩ := Walk.bundle_of_item? wellFormed stillWellFormed free grown
        reached found yields
      have further : Grown walk.Wants before stage.after := by
        rcases writes.cases with same | ⟨content, _, stored⟩
        · rw [same]
          exact grown
        · rw [isBundle] at stored
          exact Walk.grown_of_stored free grown (modest relative known fits filled) stored
      have kept := writes.keeps.2
      have realNext := Errand.real_next stillWellFormed reachedNow real
      obtain ⟨done, sweep, still, items, judged⟩ := ih through later further
        fun other isNext => (realNext other isNext).later kept
      obtain ⟨all, whole, stillAll, given⟩ :=
        Sweep.past wellFormed stillWellFormed free grown reached isReal succeeds sweep still
      refine ⟨all, whole, stillAll, ?_, ?_⟩
      · rw [given, yields, items]
        rfl
      · rw [List.flatMap_cons, List.flatMap_cons]
        refine Run.judge_append ?_ judged
        rw [isBundle] at judgedHere ⊢
        rw [← judgedHere]
        exact (Run.judge_congr (Walk.readText_of_known wellFormed stillWellFormed free grown reached
          known settings.encoding) engineState).symm

theorem writes (account : Account compiler settings walk first stages last) :
    ∀ stage ∈ stages, stage.Writes settings := by
  induction account with
  | rest situation =>
      intro stage member
      cases member
  | silent _ _ ih => exact ih
  | stage _ _ writes _ _ ih => exact List.forall_mem_cons.mpr ⟨writes, ih⟩

end Account

/-! ## Bundles and their modules -/

namespace Walk.Undisturbed

variable {before : FileTree} {place : Place}

/-- The bundles of an undisturbed walk, by the directories that they lie in. -/
theorem ways (undisturbed : walk.Undisturbed before place) : ∃ ways : List (List Name),
    ways.Nodup ∧ Walk.bundlesAmong (walk.items before).1 = ways.map (walk.bundleOn before place) ∧
      ∀ way ∈ ways, before.entry? (place ++ way) = some .directory ∧
        walk.templatesAt before place way ≠ [] := by
  obtain ⟨wellFormed, free, reached, _⟩ := undisturbed
  obtain ⟨done, items, ordered, _, real, _⟩ := Walk.sweep_of_real wellFormed walk
    (FileTree.findItself_of_directoryOf free reached)
  refine ⟨(Walk.entered done).filter fun way => Walk.Yields walk before place way, ?_, ?_, ?_⟩
  · apply List.Nodup.filter
    refine ordered.imp ?_
    rintro way other earlier rfl
    exact List.lex_irrefl FileTree.precedes_irrefl _ earlier
  · rw [items]
    exact Walk.bundlesAmong_given wellFormed walk reached done real
  · intro way member
    rw [List.mem_filter, decide_eq_true_iff] at member
    obtain ⟨isEntered, _, filled⟩ := member
    exact ⟨Walk.entry?_of_entered (fun step isDone => (real step isDone).2) way isEntered, filled⟩

end Walk.Undisturbed

/-- What there is in the end for a bundle: all its templates were accepted, and its module holds
them. -/
structure Delivered (settings : Settings) (after : FileTree) (bundle : Bundle)
    (verdicts : List Verdict) : Prop where
  whole : verdicts.map Verdict.template = bundle.templates
  accepted : ∀ verdict ∈ verdicts, ∃ fragment, verdict.answer = .ok fragment
  written : ∃ content, settings.encoding.encode
      (ModuleText.render (Verdict.accepted verdicts)).toList = some content ∧
    after.contentOf bundle.outputFile = .ok content

theorem Stage.accepted_ne_nil {stage : Stage} (clean : stage.rejected = [])
    (whole : stage.verdicts.map Verdict.template = stage.bundle.templates)
    (some : stage.bundle.templates ≠ []) : stage.accepted ≠ [] := by
  intro none
  have names := (Verdict.accepted_of_clean clean).2
  rw [show Verdict.accepted stage.verdicts = [] from none, List.map_nil] at names
  apply some
  rw [← whole, List.map_eq_nil_iff.mp names.symm]
  rfl

namespace Account

variable {before : FileTree} {place : Place}

/-- An undisturbed run that is through has come past the bundles that a walk through the tree as
it was before yields, and has put their texts to the engine. -/
theorem items_of_undisturbed (undisturbed : walk.Undisturbed before place)
    (account : Account compiler settings walk first stages last) (through : last.agenda = [])
    (wellFormed : first.files.WellFormed) (adds : before.AddsDirectories first.files)
    (begins : first.agenda = walk.begin first.files) :
    (walk.items before).1 = stages.map (fun stage => .ok stage.bundle) ∧
      Run.judge compiler settings before first.engineState
        (stages.flatMap fun stage => stage.bundle.templates) =
          .ok (stages.flatMap Stage.verdicts, last.engineState) := by
  have grown : Grown walk.Wants before first.files := (Grown.refl before).adds adds
  obtain ⟨same, known, real⟩ :=
    Walk.begin_of_grown undisturbed.wellFormed undisturbed.free grown undisturbed.reached
  obtain ⟨done, sweep, still, items, judged⟩ := account.undisturbed undisturbed through wellFormed
    grown (by rwa [begins, same])
  rw [begins, same, known] at sweep
  obtain ⟨other, another, stillOther, all⟩ := Walk.items_sweep walk undisturbed.wellFormed
  rw [all, another.unique rfl sweep stillOther still]
  exact ⟨items, judged⟩

/-- The bundles of an undisturbed run that is through, by the directories that they lie in. -/
theorem ways_of_undisturbed (undisturbed : walk.Undisturbed before place)
    (account : Account compiler settings walk first stages last) (through : last.agenda = [])
    (wellFormed : first.files.WellFormed) (adds : before.AddsDirectories first.files)
    (begins : first.agenda = walk.begin first.files) :
    ∃ ways : List (List Name), ways.Nodup ∧
      stages.map Stage.bundle = ways.map (walk.bundleOn before place) ∧
      ∀ way ∈ ways, (∀ name ∈ way, Name.Plain name) ∧ walk.templatesAt before place way ≠ [] := by
  have items := (account.items_of_undisturbed undisturbed through wellFormed adds begins).1
  obtain ⟨ways, distinct, bundles, known⟩ := undisturbed.ways
  refine ⟨ways, distinct, ?_, ?_⟩
  · rw [← bundles, items, Walk.bundlesAmong, List.filterMap_map]
    exact (congrFun List.filterMap_eq_map stages).symm
  · intro way isWay
    obtain ⟨found, filled⟩ := known way isWay
    exact ⟨fun name member =>
      undisturbed.wellFormed.plain found name (List.mem_append_right _ member), filled⟩

section Ways

variable {ways : List (List Name)}
  (same : stages.map Stage.bundle = ways.map (walk.bundleOn before place))

include same

theorem filled_of_ways (account : Account compiler settings walk first stages last)
    (clean : stages.flatMap Stage.rejected = [])
    (filled : ∀ way ∈ ways, walk.templatesAt before place way ≠ []) :
    ∀ stage ∈ stages, stage.accepted ≠ [] := by
  intro stage member
  have isBundle : stage.bundle ∈ ways.map (walk.bundleOn before place) := by
    rw [← same]
    exact List.mem_map_of_mem member
  obtain ⟨way, isWay, shape⟩ := List.mem_map.mp isBundle
  apply Stage.accepted_ne_nil (List.flatMap_eq_nil_iff.mp clean stage member)
    (account.templates stage member)
  rw [← shape, Walk.bundleOn, Walk.bundleOf]
  simpa using filled way isWay

theorem emits_of_ways (undisturbed : walk.Undisturbed before place)
    (account : Account compiler settings walk first stages last)
    (real : settings.dryRun = false) (filled : ∀ stage ∈ stages, stage.accepted ≠ []) :
    ∀ way ∈ ways, ∃ name, walk.Emits way (walk.bundleOn before place way) name := by
  intro way isWay
  have isBundle : walk.bundleOn before place way ∈ stages.map Stage.bundle := by
    rw [same]
    exact List.mem_map_of_mem isWay
  obtain ⟨stage, member, shape⟩ := List.mem_map.mp isBundle
  have writes := account.writes stage member
  rw [Stage.Writes, if_neg (by simp [filled stage member, real]), shape] at writes
  obtain ⟨content, _, stored⟩ := writes
  exact ⟨_, Walk.emits_of_stored undisturbed.preserves undisturbed.slashless stored⟩

/-- What tells the bundles of different directories apart tells those of stages apart. -/
theorem nodup_of_ways {β : Type} (distinct : ways.Nodup) (mark : Bundle → β)
    (apart : ∀ way ∈ ways, ∀ other ∈ ways, mark (walk.bundleOn before place way) =
      mark (walk.bundleOn before place other) → way = other) :
    (stages.map fun stage => mark stage.bundle).Nodup := by
  have marks := congrArg (List.map mark) same
  rw [List.map_map, List.map_map] at marks
  rw [show (stages.map fun stage => mark stage.bundle) = _ from marks]
  exact distinct.map_on apart

end Ways

/-- What an undisturbed run that is through has delivered. -/
theorem delivered (undisturbed : walk.Undisturbed before place)
    (account : Account compiler settings walk first stages last) (through : last.agenda = [])
    (wellFormed : first.files.WellFormed) (adds : before.AddsDirectories first.files)
    (begins : first.agenda = walk.begin first.files) (real : settings.dryRun = false)
    (clean : stages.flatMap Stage.rejected = []) :
    (stages.map fun stage => stage.bundle.outputFile.components).Nodup ∧
      ∀ stage ∈ stages, stage.accepted ≠ [] ∧
        Delivered settings last.files stage.bundle stage.verdicts := by
  obtain ⟨ways, distinct, same, known⟩ :=
    account.ways_of_undisturbed undisturbed through wellFormed adds begins
  have filled := filled_of_ways same account clean fun way isWay => (known way isWay).2
  have emits := emits_of_ways same undisturbed account real filled
  have places : (stages.map fun stage => first.files.landingOf stage.bundle.outputFile).Nodup := by
    apply nodup_of_ways same distinct fun bundle => first.files.landingOf bundle.outputFile
    intro way isWay other isOther there
    obtain ⟨name, emitsOne⟩ := emits way isWay
    obtain ⟨last, emitsOther⟩ := emits other isOther
    exact emitsOne.eq_of_landing _ emitsOther (known way isWay).1 (known other isOther).1 there
  constructor
  · apply nodup_of_ways same distinct fun bundle => bundle.outputFile.components
    intro way isWay other isOther there
    obtain ⟨name, emitsOne⟩ := emits way isWay
    obtain ⟨last, emitsOther⟩ := emits other isOther
    exact emitsOne.eq_of_components emitsOther (known way isWay).1 (known other isOther).1 there
  · intro stage member
    refine ⟨filled stage member, account.templates stage member,
      (Verdict.accepted_of_clean (List.flatMap_eq_nil_iff.mp clean stage member)).1, ?_⟩
    exact account.holds real (adds.linkFree undisturbed.free) places filled stage member

end Account

namespace Run

variable {cancelled : Cancellation} {world later : World}

theorem modules_of_filled (clean : stages.flatMap Stage.rejected = [])
    (filled : ∀ stage ∈ stages, stage.accepted ≠ [] ∧
      stage.verdicts.map Verdict.template = stage.bundle.templates) :
    stages.flatMap Stage.modules = (stages.map Stage.bundle).map (fun bundle =>
        ⟨bundle.outputFile, bundle.templates.map TemplateSource.logicalName⟩) ∧
      (stages.flatMap Stage.accepted).length =
        ((stages.map Stage.bundle).flatMap Bundle.templates).length := by
  induction stages with
  | nil => exact ⟨rfl, rfl⟩
  | cons stage rest ih =>
      rw [List.flatMap_cons, List.append_eq_nil_iff] at clean
      obtain ⟨⟨some, whole⟩, others⟩ := List.forall_mem_cons.mp filled
      obtain ⟨modules, count⟩ := ih clean.2 others
      have names : stage.accepted.map CompiledTemplate.logicalName =
          stage.bundle.templates.map TemplateSource.logicalName := by
        rw [← whole, List.map_map]
        exact (Verdict.accepted_of_clean clean.1).2
      have lengths := congrArg List.length names
      rw [List.length_map, List.length_map] at lengths
      constructor
      · rw [List.flatMap_cons, stage.modules_of_ne_nil some, modules, AssembledModule.of, names]
        rfl
      · rw [List.flatMap_cons, List.length_append, count, lengths, List.map_cons,
          List.flatMap_cons, List.length_append]

theorem Readied.keeps {before ready : FileTree} (readied : Readied settings before ready)
    (free : before.LinkFree) : ready.LinkFree ∧ ready.working = before.working ∧
      ∀ place, before.entry? place = some .directory → ready.entry? place = some .directory := by
  rcases readied with adds | ⟨content, stored⟩
  · exact ⟨adds.linkFree free, adds.working, fun _ => adds.keeps⟩
  · exact ⟨stored.linkFree free, stored.working, fun _ => stored.directory_kept⟩

/-- A run that succeeds has entered all directories below its source. -/
theorem fits_of_ok (wellFormed : world.files.WellFormed) (free : world.files.LinkFree)
    {report : Report} (succeeded : Effect.run (precompile compiler settings cancelled) world =
      (.ok report, later)) {root : Path} {place : Place}
    (canonical : world.files.canonical settings.sourceDirectory = .ok root)
    (reached : world.files.directoryOf root = .ok place) {relative : List Name}
    (found : world.files.entry? (place ++ relative) = some .directory) : Fits root relative := by
  rw [precompile_run] at succeeded
  rcases prepared : Effect.run (prepare compiler settings) world with
    ⟨error | ⟨other, engine, start⟩, ready⟩
  · rw [prepared] at succeeded
    cases succeeded
  · rw [prepared] at succeeded
    obtain ⟨readyWellFormed, isRoot, _, readied, _⟩ := prepare_run wellFormed prepared
    obtain rfl : root = other := Except.ok.inj (canonical.symm.trans isRoot)
    obtain ⟨stages, last, account, through, _⟩ := walkThrough_stages readyWellFormed succeeded
    obtain ⟨readyFree, working, kept⟩ := readied.keeps free
    have reachedReady := FileTree.directoryOf_of_kept free working kept reached
    have begins : (walkOf settings root).begin ready.files = [.enter true root []] :=
      Walk.begin_of_directoryOf readyFree reachedReady
    rw [begins] at account
    refine account.fits through readyWellFormed readyFree reachedReady ?_ [] relative
      (List.mem_singleton_self _) (kept _ found)
    intro errand member
    rw [List.mem_singleton] at member
    subst member
    exact ⟨rfl, rfl, by
      rw [List.append_nil]
      exact FileTree.entry?_of_directoryOf readyWellFormed reachedReady⟩

/-! ## A run that delivers one module -/

/-- A module is written if its text can be encoded, its directory made and its file put. -/
theorem assemble_of_replaced {bundle : Bundle} {templates : List CompiledTemplate}
    {encoding : Encoding} {content : Bytes} {prepared after : FileTree}
    (encoded : encoding.encode (ModuleText.render templates).toList = some content)
    (made : world.files.makeDirectories bundle.outputFile.directory = (.ok (), prepared))
    (replaced : prepared.replaceFile bundle.outputFile.directory bundle.outputFile content =
      (.ok (), after)) :
    Effect.run (ModuleText.assemble bundle templates encoding) world =
      (.ok (AssembledModule.of bundle templates), { world with files := after }) := by
  rw [assemble_effect_run, write_run, encoded]
  simp only
  rw [made]
  simp only
  rw [replaced]

/-- A run comes past a bundle if it is not to stop, its templates compile and its module can be
written. -/
theorem take_of_written {engine : Engine} {bundle : Bundle} {before middle : Progress σ}
    {compiledIn last : World} {templates : List CompiledTemplate} {written : AssembledModule}
    (goesOn : cancelled before.polls before.accepted = false)
    (compiles : steps.run
      (compileAll compiler settings cancelled engine bundle bundle.templates)
      ({ before with polls := before.polls + 1 },
        { world with warnings :=
          world.warnings ++ Walk.collisions bundle.sourceDirectory [] bundle.templates }) =
        .ok (templates, middle, compiledIn))
    (filled : templates ≠ []) (real : settings.dryRun = false)
    (writes : Effect.run (ModuleText.assemble bundle templates settings.encoding) compiledIn =
      (.ok written, last)) :
    steps.take (visitor compiler settings cancelled engine) (before, world) (.ok bundle) =
      .ok ({ middle with
            templatesCompiled := middle.templatesCompiled + templates.length
            modules := middle.modules ++ [written] }, last) := by
  rw [take_bundle_eq, goesOn]
  simp only [Bool.false_eq_true, if_false]
  rw [processBundle_after, warned, compiles]
  simp only
  rw [Walk.Runner.after, finish_of_ne_nil filled, real, writes]
  rfl

/-- A run in which the walk yields one bundle only. -/
theorem precompile_of_one {start : σ} {root : Path} {engine : Engine} {ready : World}
    {errand : Errand} {bundle : Bundle} {progress : Progress σ}
    (prepared : Effect.run (prepare compiler settings) world = (.ok (root, engine, start), ready))
    (wellFormed : ready.files.WellFormed)
    (begins : (walkOf settings root).begin ready.files = [errand])
    (yields : errand.item? (walkOf settings root) ready.files = some (.ok bundle))
    (nothing : errand.below ready.files = [])
    (takes : steps.take (visitor compiler settings cancelled engine) (starting start, ready)
      (.ok bundle) = .ok (progress, later)) (clean : progress.failures = []) :
    Effect.run (precompile compiler settings cancelled) world =
      (.ok ⟨engine, progress.modules, progress.templatesCompiled, settings.dryRun⟩, later) := by
  let walk := walkOf settings root
  let take := steps.take (visitor compiler settings cancelled engine)
  have ends : Walk.Course walk filesOf take (starting start, ready) [errand]
      (.ok (progress, later)) :=
    .taken yields takes (by
      rw [show errand.below (filesOf (starting start, ready)) = [] from nothing]
      exact .finished)
  have course := Walk.visitAll_course walk (visitor_serves compiler settings cancelled engine)
    (starting start, ready) wellFormed
  rw [show walk.begin (filesOf (starting start, ready)) = _ from begins] at course
  rw [precompile_run, prepared]
  simp only
  rw [walkThrough, course.unique ends]
  simp only [ending, conclude, clean]
  rfl

/-- An engine that counts templates and gives them back. -/
def echoing : Compiler Nat where
  load _ _ := (.ok 0, .none)
  compile text _ count := (.ok text, .none, count + 1)

def sampleEngine : Engine :=
  ⟨"e", .bundled, .ofString "/e"⟩

def createdFiles : FileTree where
  entries := Walk.sampleFiles.entries ++ [([Bytes.ofString "o"], .directory)]
  working := []

def createdWorld : World :=
  .initial createdFiles .unreachable

def sampleBundle : Bundle :=
  ⟨.ofString "/s", ⟨[]⟩, .ofString "/o/s.js", [⟨.ofString "/s/a.h", "a"⟩]⟩

def deliveredFiles (content : Bytes) : FileTree where
  entries := createdFiles.entries ++
    [([Bytes.ofString "o", Bytes.ofString "s.js"], .file content)]
  working := []

/-- The module of the bundle, in UTF-8. -/
def echoedModule : Bytes :=
  (ModuleText.render [⟨"a", "x"⟩]).toList.flatMap Utf8.encodeChar

def deliveredWorld : World :=
  .initial (deliveredFiles echoedModule) .unreachable

theorem echoing_prepared : Effect.run (prepare echoing sampleSettings) sampleWorld =
    (.ok (.ofString "/s", sampleEngine, 0), createdWorld) := by
  cbv

theorem echoing_compiled : steps.run
    (compileAll echoing sampleSettings Cancellation.never sampleEngine sampleBundle
      sampleBundle.templates)
    ({ (starting 0 : Progress Nat) with polls := (starting 0 : Progress Nat).polls + 1 },
      { createdWorld with
        warnings := createdWorld.warnings ++
          Walk.collisions sampleBundle.sourceDirectory [] sampleBundle.templates }) =
      .ok ([⟨"a", "x"⟩], ⟨1, [], [], 0, 1, 2⟩, createdWorld) := by
  cbv

theorem sampleBundle_replaced (content : Bytes) :
    createdFiles.replaceFile sampleBundle.outputFile.directory sampleBundle.outputFile content =
      (.ok (), deliveredFiles content) := by
  cbv

/-- A run in the sample tree that delivers a module of the one template. -/
theorem echoing_delivers {settings : Settings} {bundle : Bundle} {errand : Errand}
    {after : FileTree}
    (prepared : Effect.run (prepare echoing settings) sampleWorld =
      (.ok (.ofString "/s", sampleEngine, 0), createdWorld))
    (begins : (walkOf settings (.ofString "/s")).begin createdFiles = [errand])
    (yields : errand.item? (walkOf settings (.ofString "/s")) createdFiles = some (.ok bundle))
    (nothing : errand.below createdFiles = [])
    (compiles : steps.run
      (compileAll echoing settings Cancellation.never sampleEngine bundle bundle.templates)
      ({ (starting 0 : Progress Nat) with polls := (starting 0 : Progress Nat).polls + 1 },
        { createdWorld with
          warnings := createdWorld.warnings ++
            Walk.collisions bundle.sourceDirectory [] bundle.templates }) =
        .ok ([⟨"a", "x"⟩], ⟨1, [], [], 0, 1, 2⟩, createdWorld))
    (utf8 : settings.encoding = .utf8) (real : settings.dryRun = false)
    (made : createdFiles.makeDirectories bundle.outputFile.directory = (.ok (), createdFiles))
    (replaced : createdFiles.replaceFile bundle.outputFile.directory bundle.outputFile
      echoedModule = (.ok (), after)) :
    Effect.run (precompile echoing settings Cancellation.never) sampleWorld =
      (.ok ⟨sampleEngine, [⟨bundle.outputFile, ["a"]⟩], 1, false⟩,
        .initial after .unreachable) := by
  have encoded : settings.encoding.encode (ModuleText.render [⟨"a", "x"⟩]).toList =
      some echoedModule := by
    rw [utf8]
    exact Encoding.encode_utf8 _
  have writes : Effect.run (ModuleText.assemble bundle [⟨"a", "x"⟩] settings.encoding)
      createdWorld = (.ok ⟨bundle.outputFile, ["a"]⟩, .initial after .unreachable) :=
    assemble_of_replaced encoded made replaced
  have takes : steps.take (visitor echoing settings Cancellation.never sampleEngine)
      (starting 0, createdWorld) (.ok bundle) =
        .ok (⟨1, [⟨bundle.outputFile, ["a"]⟩], [], 1, 1, 2⟩, .initial after .unreachable) :=
    take_of_written rfl compiles (by simp) real writes
  rw [← real]
  exact precompile_of_one prepared (by decide) begins yields nothing takes rfl

theorem echoing_run : Effect.run (precompile echoing sampleSettings Cancellation.never)
    sampleWorld =
      (.ok ⟨sampleEngine, [⟨.ofString "/o/s.js", ["a"]⟩], 1, false⟩, deliveredWorld) :=
  echoing_delivers echoing_prepared (by cbv) (by cbv) (by cbv)
    echoing_compiled rfl rfl (by cbv) (sampleBundle_replaced echoedModule)

end Run

end TemplateBuild

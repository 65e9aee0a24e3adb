import TemplateBuild.Proofs.Config.Timeouts
import TemplateBuild.Proofs.FileTree.Arriving
import TemplateBuild.Proofs.Run.Dryness
import TemplateBuild.Proofs.Walk.Flatten

/-!
# What becomes of the templates

A run has no guard against modules that have the names of templates.  It writes nothing but
modules and the script of the engine, each under its own name.  So a template stays as it is unless
it has the name of one of them, and always does if the engine is there and modules have an
extension of their own.
-/

set_option autoImplicit false

namespace TemplateBuild

open FileTree (Spellable Fits pathOf)

/-! ## Templates -/

namespace Walk

variable {walk : Walk} {files : FileTree} {place : Place} {relative : List Name}

/-- A template in a directory without links is a file there. -/
theorem file_of_template (wellFormed : files.WellFormed)
    (reached : files.directoryOf walk.root = .ok place)
    (found : files.entry? (place ++ relative) = some .directory)
    (linkless : ∀ below target, files.entry? (place ++ below) ≠ some (.link target))
    {template : TemplateSource} (member : template ∈ (walk.bundleOn files place relative).templates) :
    ∃ name content, template.path = walk.root.descend (relative ++ [name]) ∧
      Name.Plain name ∧ walk.Wants name ∧ Fits walk.root (relative ++ [name]) ∧
      files.entry? (place ++ relative ++ [name]) = some (.file content) := by
  obtain ⟨name, isTemplate, rfl⟩ := List.mem_map.mp member
  have noLink : ∀ target, files.entry? (place ++ relative ++ [name]) ≠ some (.link target) := by
    rw [List.append_assoc]
    exact linkless _
  obtain ⟨fits, ⟨content, isFile⟩, wanted⟩ :=
    (mem_templatesAt_of_linkless wellFormed reached found noLink).mp isTemplate
  exact ⟨name, content, (Path.descend_concat ..).symm, wellFormed.plain isFile name (by simp),
    wanted, fits, isFile⟩

/-- A walk whose root cannot be found yields no bundle. -/
theorem items_of_missing {failure : FileFailure}
    (missing : files.findItself walk.root = .error failure) :
    (walk.items files).1 = [.error (.traverse walk.root failure)] := by
  rw [items, visitAll]
  simp only [collector, pure_bind, missing]
  rfl

end Walk

/-! ## Modules -/

/-- Where the module of the directory below the root by these names goes. -/
def Settings.moduleOf (settings : Settings) (root : Path) (way : List Name) : Path :=
  settings.layout.outputFile ⟨Path.joinSegments way⟩
    (((root.descend way).fileName.map Bytes.toStringLossy).getD "")

/-- Modules have an extension, and no template has it. -/
structure Settings.TellsApart (settings : Settings) : Prop where
  filled : settings.outputExtension ≠ ""
  slashless : '/' ∉ settings.outputExtension.toList
  apart : ∀ extension ∈ settings.templateExtensions,
    ¬ Path.dot :: Bytes.ofString (ConfigLayer.dropDots extension) <:+
      Path.dot :: Bytes.ofString settings.outputExtension

namespace Settings

variable {settings : Settings}

theorem fileName_moduleOf (filled : settings.outputExtension ≠ "")
    (slashless : '/' ∉ settings.outputExtension.toList) (root : Path) {way : List Name}
    (plain : ∀ name ∈ way, Name.Plain name) :
    ∃ stem, (settings.moduleOf root way).fileName = some (settings.layout.moduleFile stem) := by
  have long := Layout.two_lt_length_moduleFile (show settings.layout.extension ≠ "" from filled)
  cases hierarchy : settings.layout.hierarchy with
  | preserve =>
      refine ⟨((root.descend way).fileName.map Bytes.toStringLossy).getD "", ?_⟩
      have slashlessToo : '/' ∉ (Run.walkOf settings root).layout.extension.toList := slashless
      rw [moduleOf, Layout.outputFile_preserve hierarchy]
      exact Path.fileName_joinName_of_long _ (Walk.slash_notMem_moduleFile slashlessToo _) (long _)
  | flatten =>
      refine ⟨Layout.flattenedName ⟨Path.joinSegments way⟩, ?_⟩
      rw [moduleOf, Layout.outputFile_flatten hierarchy]
      exact Path.fileName_joinName_of_long _
        (Layout.slash_notMem_moduleFile slashless (Layout.slash_notMem_flattenedName plain))
        (long _)

/-- If modules are told apart from templates, no module has the name of a template. -/
theorem TellsApart.not_module (apart : settings.TellsApart) {name : Name}
    (named : Name.EndsIn settings.templateExtensions name) (stem : String) :
    name ≠ settings.layout.moduleFile stem := by
  rintro rfl
  obtain ⟨front, extension, _, wanted, _, dotless, shape⟩ := named
  have filled : settings.layout.extension ≠ "" := apart.filled
  have isModule : Path.dot :: Bytes.ofString settings.outputExtension <:+
      settings.layout.moduleFile stem :=
    ⟨_, (Layout.moduleFile_eq filled stem).symm⟩
  have isTemplate : Path.dot :: Bytes.ofString (ConfigLayer.dropDots extension) <:+
      settings.layout.moduleFile stem :=
    ⟨front, shape.symm⟩
  rcases List.suffix_or_suffix_of_suffix isTemplate isModule with within | around
  · exact apart.apart extension wanted within
  · rcases List.suffix_cons_iff.mp around with same | inner
    · refine apart.apart extension wanted ?_
      rw [same]
    · exact dotless (inner.subset List.mem_cons_self)

/-- The extensions that a layer amounts to. -/
theorem extensions_of_resolve {layer : ConfigLayer} {environment : Environment}
    (resolved : layer.resolve environment = .ok settings) :
    settings.templateExtensions = (layer.templateExtensions.map
        (·.map ConfigLayer.dropDots)).getD ConfigLayer.defaultTemplateExtensions ∧
      settings.outputExtension =
        (layer.outputExtension.map ConfigLayer.dropDots).getD
          ConfigLayer.defaultOutputExtension := by
  obtain ⟨provisioning, _, resolved⟩ := ConfigTable.bind_eq_ok resolved
  cases given : layer.sourceDirectory with
  | none =>
      rw [given] at resolved
      cases resolved
  | some source =>
      rw [given] at resolved
      obtain ⟨encoding, _, resolved⟩ := ConfigTable.bind_eq_ok resolved
      cases resolved
      exact ⟨rfl, rfl⟩

/-- Where no extensions are configured, modules are told apart from templates. -/
theorem tellsApart_of_defaults {layer : ConfigLayer} {environment : Environment}
    (templates : layer.templateExtensions = none) (modules : layer.outputExtension = none)
    (resolved : layer.resolve environment = .ok settings) : settings.TellsApart := by
  obtain ⟨isTemplates, isModules⟩ := extensions_of_resolve resolved
  rw [templates] at isTemplates
  rw [modules] at isModules
  refine ⟨by rw [isModules]; decide, by rw [isModules]; decide, ?_⟩
  rw [isTemplates, isModules]
  decide

end Settings

namespace Run

/-- What a file holds now is the whole module of a directory of the source, which has its name. -/
structure Supplants (settings : Settings) (after : FileTree) (place : Place) (name : Option Name)
    (written : Bytes) : Prop where
  real : settings.dryRun = false
  named : ∃ way, after.entry? (place ++ way) = some .directory ∧
    (settings.moduleOf (pathOf place) way).fileName = name
  whole : ∃ accepted, accepted ≠ [] ∧
    settings.encoding.encode (ModuleText.render accepted).toList = some written

/-- If modules are told apart from templates, they supplant no template. -/
theorem Supplants.not_template {settings : Settings} {after : FileTree} {place : Place}
    {name : Name} {written : Bytes} (wellFormed : after.WellFormed)
    (apart : settings.TellsApart) (named : Name.EndsIn settings.templateExtensions name) :
    ¬ Supplants settings after place (some name) written := by
  rintro ⟨_, ⟨way, isDirectory, isModule⟩, _⟩
  have plain : ∀ other ∈ way, Name.Plain other := fun other member =>
    wellFormed.plain isDirectory other (List.mem_append_right _ member)
  obtain ⟨stem, fileName⟩ :=
    settings.fileName_moduleOf apart.filled apart.slashless (pathOf place) plain
  rw [fileName, Option.some.injEq] at isModule
  exact apart.not_module named stem isModule.symm

theorem Supplants.later {settings : Settings} {after last : FileTree} {place : Place}
    {name : Option Name} {written : Bytes}
    (kept : ∀ place, after.entry? place = some .directory → last.entry? place = some .directory)
    (supplants : Supplants settings after place name written) :
    Supplants settings last place name written := by
  obtain ⟨real, ⟨way, isDirectory, named⟩, whole⟩ := supplants
  exact ⟨real, ⟨way, kept _ isDirectory, named⟩, whole⟩

/-- What may be found in the place of a file after a run: the file, or a module or a script with
its name. -/
inductive Remains (settings : Settings) (before after : FileTree) (place : Place)
    (name : Option Name) (content : Bytes) : Bytes → Prop
  | kept : Remains settings before after place name content content
  | supplanted {written : Bytes} : Supplants settings after place name written →
      Remains settings before after place name content written
  | fetched {script : Bytes} : settings.provisioning.MustFetch settings.engine before →
      name = some (Bytes.ofString settings.engine) →
      Remains settings before after place name content script

theorem Remains.later {settings : Settings} {before after last : FileTree} {place : Place}
    {name : Option Name} {content present : Bytes}
    (kept : ∀ place, after.entry? place = some .directory → last.entry? place = some .directory)
    (remains : Remains settings before after place name content present) :
    Remains settings before last place name content present := by
  cases remains with
  | kept => exact .kept
  | supplanted supplants => exact .supplanted (supplants.later kept)
  | fetched fetches named => exact .fetched fetches named

end Run

open Run (Supplants Remains)

section Stages

variable {σ : Type} {compiler : Compiler σ} {settings : Settings} {place spot : Place}

/-- A stage leaves a file as it is, or puts the module of its directory there. -/
theorem Stage.Writes.spares {stage : Stage} (writes : stage.Writes settings) {way : List Name}
    (found : stage.before.entry? (place ++ way) = some .directory)
    (output : stage.bundle.outputFile = settings.moduleOf (pathOf place) way) {content : Bytes}
    (isFile : stage.before.entry? spot = some (.file content)) :
    ∃ present, stage.after.entry? spot = some (.file present) ∧
      (present = content ∨ Supplants settings stage.after place spot.getLast? present) := by
  have keeps := writes.keeps.2
  rw [Stage.Writes] at writes
  split at writes
  · rw [writes]
    exact ⟨content, isFile, Or.inl rfl⟩
  · next put =>
    rw [not_or] at put
    obtain ⟨written, encoded, stored⟩ := writes
    rcases stored.spares isFile with same | ⟨named, replaced⟩
    · exact ⟨content, same, Or.inl rfl⟩
    · rw [output] at named
      exact ⟨written, replaced, Or.inr ⟨by simpa using put.2, ⟨way, keeps _ found, named⟩,
        ⟨_, put.1, encoded⟩⟩⟩

namespace Account

variable {first last : Situation σ} {stages : List Stage}

theorem wellFormed {walk : Walk} (account : Account compiler settings walk first stages last) :
    first.files.WellFormed → last.files.WellFormed := by
  induction account with
  | rest situation => exact id
  | silent _ _ ih => exact ih
  | stage _ _ _ stillWellFormed _ ih => exact fun _ => ih stillWellFormed

/-- A file stays as it is while a run comes past directories of its source, until the module of one
of them supplants it. -/
theorem spares {walk : Walk} (rooted : walk.root = pathOf place)
    (layout : walk.layout = settings.layout) (spellable : Spellable place)
    (account : Account compiler settings walk first stages last) :
    first.files.WellFormed → first.files.entry? place = some .directory →
      (∀ errand ∈ first.agenda, errand.Real walk.root first.files place) →
      ∀ content, first.files.entry? spot = some (.file content) →
        ∃ present, last.files.entry? spot = some (.file present) ∧
          (present = content ∨ Supplants settings last.files place spot.getLast? present) := by
  induction account with
  | rest situation => exact fun _ _ _ content isFile => ⟨content, isFile, Or.inl rfl⟩
  | @silent files errand agenda engineState stages last _ _ ih =>
      intro wellFormed isDirectory real content isFile
      have reached := FileTree.directoryOf_pathOf wellFormed isDirectory spellable
      rw [← rooted] at reached
      exact ih wellFormed isDirectory (Walk.Errand.real_next wellFormed reached real) content isFile
  | @stage stage errand agenda engineState next stages last yields _ writes stillWellFormed account
      ih =>
      intro wellFormed isDirectory real content isFile
      have isReal := (List.forall_mem_cons.mp real).1
      have reached := FileTree.directoryOf_pathOf wellFormed isDirectory spellable
      rw [← rooted] at reached
      obtain ⟨way, found, _, isBundle⟩ := isReal.bundle wellFormed reached yields
      have kept := writes.keeps.2
      have output : stage.bundle.outputFile = settings.moduleOf (pathOf place) way := by
        rw [isBundle, Settings.moduleOf, ← layout, ← rooted]
        rfl
      obtain ⟨middle, isThere, spared⟩ := writes.spares found output isFile
      obtain ⟨present, isLast, sparedLater⟩ := ih stillWellFormed (kept _ isDirectory)
        (fun other isNext =>
          (Walk.Errand.real_next wellFormed reached real other isNext).later kept) middle isThere
      refine ⟨present, isLast, ?_⟩
      rcases sparedLater with rfl | supplants
      · exact spared.imp_right fun supplants => supplants.later account.keeps.2
      · exact Or.inr supplants

end Account
end Stages

/-! ## Runs -/

namespace Run

variable {σ : Type} {compiler : Compiler σ} {settings : Settings} {cancelled : Cancellation}
  {world later : World} {place spot : Place}

theorem Readied.directory_kept {before ready : FileTree} (readied : Readied settings before ready)
    (found : before.entry? place = some .directory) : ready.entry? place = some .directory := by
  rcases readied with adds | ⟨_, stored⟩
  · exact adds.keeps found
  · exact stored.directory_kept found

/-- Before the walk, a file stays as it is unless the script of the engine has its name. -/
theorem Readied.spares {before ready : FileTree} (readied : Readied settings before ready)
    (plain : Engine.isPlainName settings.engine = true) {content : Bytes}
    (isFile : before.entry? spot = some (.file content)) :
    ∃ present, ready.entry? spot = some (.file present) ∧
      (present = content ∨ spot.getLast? = some (Bytes.ofString settings.engine)) := by
  rcases readied with adds | ⟨script, stored⟩
  · exact ⟨content, adds.keeps isFile, Or.inl rfl⟩
  · rcases stored.spares isFile with same | ⟨named, replaced⟩
    · exact ⟨content, same, Or.inl rfl⟩
    · have fileName : (settings.provisioning.cacheEntry settings.engine).path.fileName =
          some (Bytes.ofString settings.engine) :=
        Path.fileName_joinName _ (Engine.plain_of_isPlainName plain)
      exact ⟨script, replaced, Or.inr (named.symm.trans fileName)⟩

theorem prepare_spares (wellFormed : world.files.WellFormed)
    {result : Except RunError (Path × Engine × σ)}
    (ran : Effect.run (prepare compiler settings) world = (result, later))
    (isDirectory : world.files.entry? place = some .directory) {content : Bytes}
    (isFile : world.files.entry? spot = some (.file content)) :
    later.files.WellFormed ∧ later.files.entry? place = some .directory ∧
      ∃ present, later.files.entry? spot = some (.file present) ∧ (present = content ∨
        settings.provisioning.MustFetch settings.engine world.files ∧
          spot.getLast? = some (Bytes.ofString settings.engine)) := by
  obtain ⟨stillWellFormed, known⟩ := prepare_run wellFormed ran
  have readied : Readied settings world.files later.files := by
    cases result with
    | ok prepared => exact known.readied
    | error error => exact known.1
  refine ⟨stillWellFormed, readied.directory_kept isDirectory, ?_⟩
  by_cases fetches : settings.provisioning.MustFetch settings.engine world.files
  · obtain ⟨present, isThere, spared⟩ := readied.spares fetches.plain isFile
    exact ⟨present, isThere, spared.imp_right fun named => ⟨fetches, named⟩⟩
  · have adds := prepare_unfetched wellFormed fetches ran
    exact ⟨content, adds.keeps isFile, Or.inl rfl⟩

/-- What becomes of a file on the walk through the directory at a place.  The files in the end have
at most more directories than well-formed ones. -/
theorem walkThrough_spares {engine : Engine} {start : σ} (wellFormed : world.files.WellFormed)
    (isDirectory : world.files.entry? place = some .directory) (spellable : Spellable place)
    {result : Except RunError Report}
    (ran : walkThrough compiler settings cancelled (pathOf place) engine start world =
      (result, later))
    {content : Bytes} (isFile : world.files.entry? spot = some (.file content)) :
    ∃ last : FileTree, last.WellFormed ∧ (∀ place, world.files.entry? place = some .directory →
      last.entry? place = some .directory) ∧
      last.AddsDirectories later.files ∧ ∃ present, last.entry? spot = some (.file present) ∧
        (present = content ∨ Supplants settings last place spot.getLast? present) := by
  obtain ⟨stages, last, account, ended⟩ := walkThrough_stages wellFormed ran
  have begins : (walkOf settings (pathOf place)).begin world.files =
      [.enter true (pathOf place) []] := by
    have found : world.files.findItself (walkOf settings (pathOf place)).root = _ :=
      FileTree.findItself_pathOf wellFormed isDirectory spellable
    rw [Walk.begin, found]
    rfl
  rw [begins] at account
  have spared := account.spares rfl rfl spellable wellFormed isDirectory
    (List.forall_mem_singleton.mpr ⟨rfl, rfl, by rwa [List.append_nil]⟩) content isFile
  refine ⟨last.files, account.wellFormed wellFormed, account.keeps.2, ?_, spared⟩
  cases result with
  | ok report => exact ended.2.1 ▸ .refl _
  | error error =>
      rcases ended with ⟨_, _, adds⟩ | ⟨_, _, same⟩
      · exact adds
      · exact same ▸ .refl _

/-- What becomes of a file in a run whose source is the directory at a place.  The files in the end
have at most more directories than well-formed ones. -/
theorem precompile_remains (wellFormed : world.files.WellFormed)
    (source : world.files.find settings.sourceDirectory = .ok (place, .directory))
    (spellable : Spellable place) {result : Except RunError Report}
    (ran : Effect.run (precompile compiler settings cancelled) world = (result, later))
    {content : Bytes} (isFile : world.files.entry? spot = some (.file content)) :
    ∃ last : FileTree, last.WellFormed ∧ last.entry? place = some .directory ∧
      last.AddsDirectories later.files ∧ ∃ present, last.entry? spot = some (.file present) ∧
        Remains settings world.files last place spot.getLast? content present := by
  have isDirectory : world.files.entry? place = some .directory :=
    FileTree.entry?_of_directoryOf wellFormed (FileTree.directoryOf_eq_ok_iff.mpr source)
  rw [precompile_run] at ran
  rcases prepares : Effect.run (prepare compiler settings) world with ⟨prepared, ready⟩
  obtain ⟨readyWellFormed, stillDirectory, middle, isThere, spared⟩ :=
    prepare_spares wellFormed prepares isDirectory isFile
  have spared : Remains settings world.files ready.files place spot.getLast? content middle := by
    rcases spared with rfl | ⟨fetches, named⟩
    · exact .kept
    · exact .fetched fetches named
  rw [prepares] at ran
  cases prepared with
  | error error =>
      cases ran
      exact ⟨later.files, readyWellFormed, stillDirectory, .refl _, middle, isThere, spared⟩
  | ok prepared =>
      obtain ⟨root, engine, start⟩ := prepared
      obtain ⟨_, canonical, _⟩ := prepare_run wellFormed prepares
      have rooted : root = pathOf place := by
        obtain ⟨other, entry, found, rfl⟩ := FileTree.canonical_eq_ok_iff.mp canonical
        rw [source, Except.ok.injEq, Prod.mk.injEq] at found
        rw [found.1]
      subst rooted
      obtain ⟨last, lastWellFormed, kept, adds, present, isLast, sparedLater⟩ :=
        walkThrough_spares readyWellFormed stillDirectory spellable ran isThere
      refine ⟨last, lastWellFormed, kept place stillDirectory, adds, present, isLast, ?_⟩
      rcases sparedLater with rfl | supplants
      · exact spared.later kept
      · exact .supplanted supplants

/-- A walk from a directory that no path reaches yields no bundle. -/
theorem spellable_of_items {files : FileTree} (wellFormed : files.WellFormed)
    (isDirectory : files.entry? place = some .directory) {bundle : Bundle}
    (yields : .ok bundle ∈ ((walkOf settings (pathOf place)).items files).1) :
    Spellable place := by
  by_contra unspellable
  obtain ⟨failure, missing⟩ := FileTree.findItself_pathOf_error wellFormed isDirectory unspellable
  have nothing : ((walkOf settings (pathOf place)).items files).1 = _ :=
    Walk.items_of_missing missing
  rw [nothing] at yields
  simp at yields

/-- Each template that the walk through the files at first would find is as it was after a run,
whatever its outcome, unless the module of a directory with the name of the template supplants it,
or the engine has this name and must be fetched.  So all templates are as they were if modules are
told apart from templates and the engine is there, or may not be asked for. -/
theorem precompile_spares (compiler : Compiler σ) (settings : Settings) (cancelled : Cancellation)
    (wellFormed : world.files.WellFormed)
    (source : world.files.find settings.sourceDirectory = .ok (place, .directory))
    (linkless : ∀ below target, world.files.entry? (place ++ below) ≠ some (.link target))
    {bundle : Bundle} {template : TemplateSource}
    (yields : .ok bundle ∈ ((walkOf settings (pathOf place)).items world.files).1)
    (member : template ∈ bundle.templates) {outcome : Except RunError Report}
    (ran : Effect.run (precompile compiler settings cancelled) world = (outcome, later)) :
    ∃ content, world.files.contentOf template.path = .ok content ∧
      (∃ present, later.files.contentOf template.path = .ok present ∧
        Remains settings world.files later.files place template.path.fileName content present) ∧
      (settings.TellsApart → ¬ settings.provisioning.MustFetch settings.engine world.files →
        later.files.contentOf template.path = .ok content) := by
  have isDirectory : world.files.entry? place = some .directory :=
    FileTree.entry?_of_directoryOf wellFormed (FileTree.directoryOf_eq_ok_iff.mpr source)
  have spellable := spellable_of_items wellFormed isDirectory yields
  have isReal : world.files.findItself (walkOf settings (pathOf place)).root = _ :=
    FileTree.findItself_pathOf wellFormed isDirectory spellable
  have reached := FileTree.directoryOf_of_findItself isReal
  obtain ⟨relative, emits, rfl⟩ := (Walk.mem_items_of_real wellFormed isReal).mp yields
  obtain ⟨name, content, path, plain, wanted, fits, isFile⟩ := Walk.file_of_template wellFormed
    reached (Walk.entry?_of_yields wellFormed emits) linkless member
  obtain ⟨last, lastWellFormed, lastDirectory, adds, present, isLast, remains⟩ :=
    precompile_remains wellFormed source spellable ran isFile
  have lastReached := FileTree.directoryOf_pathOf lastWellFormed lastDirectory spellable
  have read := FileTree.find_descend_of_file wellFormed reached isFile fits
  have readLast := adds.find
    (FileTree.find_descend_of_file lastWellFormed lastReached isLast fits)
  have fileName : template.path.fileName = some name := by
    rw [path, Path.descend_concat, Path.fileName_joinName _ plain]
  rw [List.getLast?_concat] at remains
  refine ⟨content, ?_, ⟨present, ?_, ?_⟩, ?_⟩
  · rw [path]
    exact FileTree.contentOf_eq_ok_iff.mpr ⟨_, read⟩
  · rw [path]
    exact FileTree.contentOf_eq_ok_iff.mpr ⟨_, readLast⟩
  · rw [fileName]
    exact remains.later fun _ => adds.keeps
  · intro apart unfetched
    have endsIn := (Walk.isTemplateName_iff _ _ _ _ plain).mp wanted
    rw [path]
    cases remains with
    | kept => exact FileTree.contentOf_eq_ok_iff.mpr ⟨_, readLast⟩
    | supplanted supplants =>
        exact absurd supplants (Supplants.not_template lastWellFormed apart endsIn)
    | fetched fetches _ => exact absurd fetches unfetched

theorem sampleSettings_tellsApart : sampleSettings.TellsApart where
  filled := by decide
  slashless := by decide
  apart := by decide

theorem precompile_spares_of_sample :
    sampleWorld.files.find sampleSettings.sourceDirectory = .ok ([.ofString "s"], .directory) ∧
      Effect.run (precompile echoing sampleSettings Cancellation.never) sampleWorld =
        (.ok ⟨sampleEngine, [⟨.ofString "/o/s.js", ["a"]⟩], 1, false⟩, deliveredWorld) ∧
      ∃ content, sampleWorld.files.contentOf (.ofString "/s/a.h") = .ok content ∧
        deliveredWorld.files.contentOf (.ofString "/s/a.h") = .ok content := by
  have source : sampleWorld.files.find sampleSettings.sourceDirectory =
      .ok ([.ofString "s"], .directory) := by
    cbv
  have yields : ((walkOf sampleSettings (pathOf [.ofString "s"])).items sampleWorld.files).1 =
      [.ok sampleBundle] := by
    cbv
  have linkless : sampleWorld.files.LinkFree :=
    FileTree.linkFree_of_entries (by simp [sampleWorld, World.initial, Walk.sampleFiles])
  have unfetched :
      ¬ sampleSettings.provisioning.MustFetch sampleSettings.engine sampleWorld.files := by
    rintro ⟨_, _, online⟩
    cases online
  have isBundle : .ok sampleBundle ∈
      ((walkOf sampleSettings (pathOf [.ofString "s"])).items sampleWorld.files).1 := by
    rw [yields]
    exact List.mem_singleton_self _
  have isTemplate : ⟨.ofString "/s/a.h", "a"⟩ ∈ sampleBundle.templates := List.mem_singleton_self _
  obtain ⟨content, isFile, _, keeps⟩ := precompile_spares echoing sampleSettings Cancellation.never
    Walk.sampleFiles_wellFormed source (fun _ => linkless _) isBundle isTemplate echoing_run
  exact ⟨source, echoing_run, content, isFile, keeps sampleSettings_tellsApart unfetched⟩

/-! ### Templates that are lost -/

/-- With settings that a layer amounts to, a run changes a template that its walk would find at
first. -/
def Loses (compiler : Compiler Nat) (layer : ConfigLayer) (settings : Settings) (world : World) :
    Prop :=
  layer.resolve ⟨[]⟩ = .ok settings ∧ world.files.WellFormed ∧ world.files.LinkFree ∧
    ∃ place bundle template content,
      world.files.find settings.sourceDirectory = .ok (place, .directory) ∧
      .ok bundle ∈ ((walkOf settings (pathOf place)).items world.files).1 ∧
      template ∈ bundle.templates ∧ world.files.contentOf template.path = .ok content ∧
      (Effect.run (precompile compiler settings Cancellation.never) world).2.files.contentOf
        template.path ≠ .ok content

/-- Modules go into the source and have the extension of the templates. -/
def ownLayer : ConfigLayer where
  sourceDirectory := some (.ofString "/s")
  templateExtensions := some ["h"]
  outputExtension := some "h"
  engineIdentifier := some "e"
  scriptDirectories := some [.ofString "/"]
  cacheDirectory := some (.ofString "/c")

def ownSettings : Settings where
  sourceDirectory := .ofString "/s"
  outputDirectory := .ofString "/s"
  templateExtensions := ["h"]
  outputExtension := "h"
  hierarchy := .preserve
  whitespace := .keep
  knownHelpers := []
  strictHelpers := false
  encoding := .utf8
  engine := "e"
  provisioning := ⟨[.ofString "/"], .ofString "/c", .listing Provisioning.defaultListing, false,
    Provisioning.defaultTimeout⟩
  failurePolicy := .failFast
  dryRun := false

/-- A directory with a template of its own name. -/
def ownFiles (content : Bytes) : FileTree where
  entries := [
    ([Bytes.ofString "s"], .directory),
    ([Bytes.ofString "s", Bytes.ofString "s.h"], .file content),
    ([Bytes.ofString "e"], .file (Bytes.ofString "y"))]
  working := []

def ownBundle : Bundle :=
  ⟨.ofString "/s", ⟨[]⟩, .ofString "/s/s.h", [⟨.ofString "/s/s.h", "s"⟩]⟩

theorem ownLayer_resolve : ownLayer.resolve ⟨[]⟩ = .ok ownSettings := by
  cbv

def ownWorld (content : Bytes) : World :=
  .initial (ownFiles content) .unreachable

/-- The module of the template, in UTF-8. -/
def ownModule : Bytes :=
  (ModuleText.render [⟨"s", "x"⟩]).toList.flatMap Utf8.encodeChar

/-- A module has more than one line. -/
theorem newline_mem_ownModule : 0x0A ∈ ownModule := by
  refine List.mem_flatMap.mpr ⟨'\n', ?_, by decide⟩
  rw [ModuleText.render, String.toList_ofList]
  exact List.mem_append_right _ (by decide)

/-- The module of the directory takes the place of its template. -/
theorem own_run : Effect.run (precompile echoing ownSettings Cancellation.never)
    (ownWorld (.ofString "x")) =
      (.ok ⟨sampleEngine, [⟨.ofString "/s/s.h", ["s"]⟩], 1, false⟩, ownWorld ownModule) := by
  have prepared : Effect.run (prepare echoing ownSettings) (ownWorld (.ofString "x")) =
      (.ok (.ofString "/s", sampleEngine, 0), ownWorld (.ofString "x")) := by
    cbv
  have begins : (walkOf ownSettings (.ofString "/s")).begin (ownFiles (.ofString "x")) =
      [.enter true (.ofString "/s") []] := by
    cbv
  have yields : Walk.Errand.item? (walkOf ownSettings (.ofString "/s")) (ownFiles (.ofString "x"))
      (.enter true (.ofString "/s") []) = some (.ok ownBundle) := by
    cbv
  have compiles : steps.run
      (compileAll echoing ownSettings Cancellation.never sampleEngine ownBundle
        ownBundle.templates)
      ({ (starting 0 : Progress Nat) with polls := (starting 0 : Progress Nat).polls + 1 },
        { ownWorld (.ofString "x") with
          warnings := (ownWorld (.ofString "x")).warnings ++
            Walk.collisions ownBundle.sourceDirectory [] ownBundle.templates }) =
        .ok ([⟨"s", "x"⟩], ⟨1, [], [], 0, 1, 2⟩, ownWorld (.ofString "x")) := by
    cbv
  have made : (ownFiles (.ofString "x")).makeDirectories ownBundle.outputFile.directory =
      (.ok (), ownFiles (.ofString "x")) := by
    cbv
  have replaced : ∀ content, (ownFiles (.ofString "x")).replaceFile ownBundle.outputFile.directory
      ownBundle.outputFile content = (.ok (), ownFiles content) := by
    intro content
    cbv
  have writes : Effect.run (ModuleText.assemble ownBundle [⟨"s", "x"⟩] ownSettings.encoding)
      (ownWorld (.ofString "x")) = (.ok ⟨.ofString "/s/s.h", ["s"]⟩, ownWorld ownModule) :=
    assemble_of_replaced (Encoding.encode_utf8 _) made (replaced ownModule)
  exact precompile_of_one prepared (by decide) begins yields (by cbv)
    (take_of_written rfl compiles (by simp) rfl writes) rfl

/-- The engine is fetched to where, until the directory on the way is there, no path leads. -/
def strayLayer : ConfigLayer where
  sourceDirectory := some (.ofString "/c")
  templateExtensions := some ["h"]
  engineIdentifier := some "e.h"
  scriptDirectories := some [.ofString "b"]
  cacheDirectory := some (.ofString "n/../c")
  engineUrlTemplate := some "http://h/\x7bname\x7d"
  dryRun := some true

def straySettings : Settings where
  sourceDirectory := .ofString "/c"
  outputDirectory := .ofString "/c"
  templateExtensions := ["h"]
  outputExtension := "js"
  hierarchy := .preserve
  whitespace := .keep
  knownHelpers := []
  strictHelpers := false
  encoding := .utf8
  engine := "e.h"
  provisioning := ⟨[.ofString "b"], .ofString "n/../c", .template "http://h/\x7bname\x7d", false,
    Provisioning.defaultTimeout⟩
  failurePolicy := .failFast
  dryRun := true

theorem strayLayer_resolve : strayLayer.resolve ⟨[]⟩ = .ok straySettings := by
  cbv

/-- A template that has the name of the engine. -/
def strayFiles (content : Bytes) (others : List (Place × Entry)) : FileTree where
  entries := [([.ofString "c"], .directory), ([.ofString "c", .ofString "e.h"], .file content)] ++
    others
  working := []

def strayWorld : World :=
  { Provisioning.sampleWorld with files := strayFiles [0x79] [] }

/-- The script takes the place of the template, on a dry run as on any other. -/
theorem stray_files :
    (Effect.run (precompile echoing straySettings Cancellation.never) strayWorld).2.files =
      strayFiles [0x78] [([.ofString "n"], .directory)] := by
  have source : sourceIn straySettings strayWorld.files = .ok (.ofString "/c") := by cbv
  have made : strayWorld.files.makeDirectories straySettings.provisioning.cacheDirectory =
      (.ok (), strayFiles [0x79] [([.ofString "n"], .directory)]) := by
    cbv
  have fetched : Effect.run (straySettings.provisioning.fetch "e.h") strayWorld =
      (.ok (straySettings.provisioning.cacheEntry "e.h").path,
        { strayWorld with
          files := strayFiles [0x78] [([.ofString "n"], .directory)]
          network := strayWorld.network.after
            [(⟨Provisioning.urlOf "e.h", Fetch.agent⟩, .replied Provisioning.sampleReply)] }) :=
    straySettings.provisioning.fetch_of_reply "e.h" rfl Provisioning.requestUrl_dotted rfl rfl rfl
      rfl (by simp [Provisioning.sampleReply]) made (by cbv) (by cbv)
  have resolves := straySettings.provisioning.resolve_of_fetch "e.h" (by decide) (by cbv) (by cbv)
    rfl fetched
  rw [files_of_dry rfl (by decide), source]
  exact congrArg (fun ran => ran.2.files) resolves

/-- A run may change a template: the module of its directory may have its name, and so may the
engine. -/
theorem precompile_supplants : Loses echoing ownLayer ownSettings (ownWorld (.ofString "x")) ∧
    Loses echoing strayLayer straySettings strayWorld := by
  constructor
  · refine ⟨ownLayer_resolve, by decide, FileTree.linkFree_of_entries ?_, [.ofString "s"],
      ownBundle, ⟨.ofString "/s/s.h", "s"⟩, .ofString "x", by cbv, ?_, List.mem_singleton_self _,
      by cbv, ?_⟩
    · simp [ownWorld, World.initial, ownFiles]
    · have yields : ((walkOf ownSettings (pathOf [.ofString "s"])).items
          (ownWorld (.ofString "x")).files).1 = [.ok ownBundle] := by
        cbv
      rw [yields]
      exact List.mem_singleton_self _
    · rw [own_run]
      have read : ∀ content,
          (ownWorld content).files.contentOf (.ofString "/s/s.h") = .ok content := by
        intro content
        cbv
      rw [read]
      intro same
      have member := newline_mem_ownModule
      rw [Except.ok.inj same] at member
      exact absurd member (by decide)
  · refine ⟨strayLayer_resolve, by decide, FileTree.linkFree_of_entries ?_, [.ofString "c"],
      ⟨.ofString "/c", ⟨[]⟩, .ofString "/c/c.js", [⟨.ofString "/c/e.h", "e"⟩]⟩,
      ⟨.ofString "/c/e.h", "e"⟩, [0x79], by cbv, ?_, List.mem_singleton_self _, by cbv, ?_⟩
    · simp [strayWorld, strayFiles]
    · have yields : ((walkOf straySettings (pathOf [.ofString "c"])).items strayWorld.files).1 =
          [.ok ⟨.ofString "/c", ⟨[]⟩, .ofString "/c/c.js", [⟨.ofString "/c/e.h", "e"⟩]⟩] := by
        cbv
      rw [yields]
      exact List.mem_singleton_self _
    · rw [stray_files]
      have read : (strayFiles [0x78] [([.ofString "n"], .directory)]).contentOf
          (.ofString "/c/e.h") = .ok [0x78] := by
        cbv
      rw [read]
      decide

end Run

end TemplateBuild

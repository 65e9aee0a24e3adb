import TemplateBuild.Proofs.FileTree.Below
import TemplateBuild.Proofs.Walk.Growing
import TemplateBuild.Proofs.Walk.Output

/-!
# Modules in a directory of their own

A walk through a source tree yields the same bundles as long as files are only written elsewhere.
Their modules go into a directory that was empty, each one below it as its bundle lies below the
root.  A module is then only in the way of another where a directory has the name of the module
that lies beside it.
-/

set_option autoImplicit false

namespace TemplateBuild

/-- Whether another bundle lies in a directory that is in the directory of this one and has the
name of its module, or below that directory. -/
def Bundle.Blocks (bundle other : Bundle) : Prop :=
  ∃ name, bundle.outputFile.fileName = some name ∧
    (bundle.sourceDirectory.joinName name).components <+: other.sourceDirectory.components

instance (bundle other : Bundle) : Decidable (bundle.Blocks other) :=
  decidable_of_iff (∃ name ∈ bundle.outputFile.fileName,
    (bundle.sourceDirectory.joinName name).components <+: other.sourceDirectory.components) Iff.rfl

/-- The system accepts the path of the module and the name in it. -/
def Bundle.Short (bundle : Bundle) : Prop :=
  bundle.outputFile.bytes.length ≤ FileTree.longestPath ∧
    ∀ name, bundle.outputFile.fileName = some name → name.length ≤ FileTree.longestName

instance (bundle : Bundle) : Decidable bundle.Short :=
  decidable_of_iff (bundle.outputFile.bytes.length ≤ FileTree.longestPath ∧
    ∀ name ∈ bundle.outputFile.fileName, name.length ≤ FileTree.longestName) Iff.rfl

namespace Walk

variable {walk : Walk} {ready files : FileTree} {place target : Place} {relative way : List Name}

/-- The name of the module of the directory below the root by these names. -/
def moduleAt (walk : Walk) (relative : List Name) : Name :=
  walk.moduleFile (walk.root.descend relative)

/-- What a walk needs so that its modules have a directory of their own. -/
structure Sheltered (walk : Walk) (ready : FileTree) (place target : Place) : Prop where
  wellFormed : ready.WellFormed
  free : ready.LinkFree
  reached : ready.directoryOf walk.root = .ok place
  output : ready.directoryFor walk.layout.output = .ok target
  empty : ∀ name, ready.entry? (target ++ [name]) = none
  outside : ¬ place <+: target
  preserves : walk.layout.hierarchy = .preserve
  filled : walk.layout.extension ≠ ""
  slashless : '/' ∉ walk.layout.extension.toList
  zeroless : '\x00' ∉ walk.layout.extension.toList
  short : ∀ bundle, .ok bundle ∈ (walk.items ready).1 → bundle.Short
  apart : ∀ bundle other, .ok bundle ∈ (walk.items ready).1 →
    .ok other ∈ (walk.items ready).1 → ¬ bundle.Blocks other

namespace Sheltered

/-! ## Places -/

theorem target_directory (sheltered : walk.Sheltered ready place target) :
    ready.entry? target = some .directory :=
  FileTree.entry?_of_directoryFor sheltered.wellFormed sheltered.output

theorem nothing_below (sheltered : walk.Sheltered ready place target) {below : List Name}
    (inner : below ≠ []) : ready.entry? (target ++ below) = none := by
  obtain ⟨name, rest, rfl⟩ := List.exists_cons_of_ne_nil inner
  cases found : ready.entry? (target ++ name :: rest) with
  | none => rfl
  | some entry =>
      have absent := sheltered.empty name
      have whole : target ++ name :: rest = target ++ [name] ++ rest := by simp
      rw [whole] at found
      by_cases last : rest = []
      · rw [last, List.append_nil, absent] at found
        cases found
      · rw [sheltered.wellFormed.above _ rest entry last found] at absent
        cases absent

/-- Nothing below the root lies in the directory of the modules. -/
theorem elsewhere (sheltered : walk.Sheltered ready place target) (below : List Name) :
    ¬ target <+: place ++ below := by
  intro inside
  rcases List.prefix_or_prefix_of_prefix inside (List.prefix_append place below) with
    ⟨more, above⟩ | within
  · by_cases same : more = []
    · rw [same, List.append_nil] at above
      exact sheltered.outside (above ▸ List.prefix_refl _)
    · have isDirectory :=
        FileTree.entry?_of_directoryOf sheltered.wellFormed sheltered.reached
      rw [← above, sheltered.nothing_below same] at isDirectory
      cases isDirectory
  · exact sheltered.outside within

/-! ## Bundles -/

theorem plain_way (sheltered : walk.Sheltered ready place target)
    (yields : walk.Yields ready place way) : ∀ name ∈ way, Name.Plain name :=
  fun name member => sheltered.wellFormed.plain (entry?_of_yields sheltered.wellFormed yields) name
    (List.mem_append_right _ member)

theorem emits (sheltered : walk.Sheltered ready place target)
    (yields : walk.Yields ready place way) :
    walk.Emits way (walk.bundleOn ready place way) (walk.moduleAt way) := by
  have reached := sheltered.reached
  rw [FileTree.directoryOf_eq_ok_iff, FileTree.find_eq_ok_iff,
    FileTree.locateThrough_eq_ok_iff] at reached
  have zeroless := (FileTree.checkPath_eq_ok_iff.mp reached.1).1
  exact emits_of_preserve sheltered.preserves ready place (plain_moduleFile sheltered.filled
    sheltered.slashless sheltered.zeroless
    (FileTree.zeroless_descend zeroless way (sheltered.plain_way yields)))

theorem fileName (sheltered : walk.Sheltered ready place target)
    (yields : walk.Yields ready place way) :
    (walk.bundleOn ready place way).outputFile.fileName = some (walk.moduleAt way) := by
  have emits := sheltered.emits yields
  rw [emits.path]
  exact Path.fileName_joinName _ emits.plain

theorem isItem (sheltered : walk.Sheltered ready place target)
    (yields : walk.Yields ready place way) :
    .ok (walk.bundleOn ready place way) ∈ (walk.items ready).1 :=
  (mem_items_iff sheltered.wellFormed sheltered.free sheltered.reached).mpr ⟨way, yields, rfl⟩

/-- No directory of a bundle is in the place in which a module lies in the end. -/
theorem ways_apart (sheltered : walk.Sheltered ready place target)
    (yields : walk.Yields ready place way) {other : List Name}
    (yieldsOther : walk.Yields ready place other) : ¬ way ++ [walk.moduleAt way] <+: other := by
  intro inside
  apply sheltered.apart _ _ (sheltered.isItem yields) (sheltered.isItem yieldsOther)
  refine ⟨walk.moduleAt way, sheltered.fileName yields, ?_⟩
  have first : (walk.bundleOn ready place way).sourceDirectory = walk.root.descend way := rfl
  have second : (walk.bundleOn ready place other).sourceDirectory = walk.root.descend other := rfl
  rw [first, second,
    components_template (sheltered.plain_way yields) (sheltered.emits yields).plain,
    Path.components_descend _ _ (sheltered.plain_way yieldsOther)]
  exact (List.prefix_append_right_inj _).mpr (inside.map _)

end Sheltered

/-! ## While modules are written -/

/-- The files once some modules were written: below the directory of the modules there is nothing
but modules and the directories that lead to them, and all else is as it was. -/
structure Laid (walk : Walk) (ready : FileTree) (place target : Place) (files : FileTree) : Prop
    where
  wellFormed : files.WellFormed
  free : files.LinkFree
  working : files.working = ready.working
  kept : ∀ other, ready.entry? other = some .directory → files.entry? other = some .directory
  same : ∀ other, ¬ target <+: other → files.entry? other = ready.entry? other
  modules : ∀ below content, files.entry? (target ++ below) = some (.file content) →
    ∃ way, walk.Yields ready place way ∧ below = way ++ [walk.moduleAt way]
  directories : ∀ below, files.entry? (target ++ below) = some .directory →
    below = [] ∨ ∃ way, walk.Yields ready place way ∧ below <+: way

namespace Sheltered

theorem laid (sheltered : walk.Sheltered ready place target) :
    walk.Laid ready place target ready where
  wellFormed := sheltered.wellFormed
  free := sheltered.free
  working := rfl
  kept := fun _ found => found
  same := fun _ _ => rfl
  modules := by
    intro below content found
    by_cases inner : below = []
    · rw [inner, List.append_nil, sheltered.target_directory] at found
      cases found
    · rw [sheltered.nothing_below inner] at found
      cases found
  directories := by
    intro below found
    by_cases inner : below = []
    · exact Or.inl inner
    · rw [sheltered.nothing_below inner] at found
      cases found

end Sheltered

namespace Laid

theorem reached (laid : walk.Laid ready place target files)
    (sheltered : walk.Sheltered ready place target) : files.directoryOf walk.root = .ok place :=
  FileTree.directoryOf_of_kept sheltered.free laid.working laid.kept sheltered.reached

theorem output (laid : walk.Laid ready place target files)
    (sheltered : walk.Sheltered ready place target) :
    files.directoryFor walk.layout.output = .ok target :=
  FileTree.directoryFor_of_kept sheltered.free laid.working laid.kept sheltered.output

/-- Below the root, nothing has changed. -/
theorem source (laid : walk.Laid ready place target files)
    (sheltered : walk.Sheltered ready place target) (below : List Name) :
    files.entry? (place ++ below) = ready.entry? (place ++ below) :=
  laid.same _ (sheltered.elsewhere below)

theorem templatesAt (laid : walk.Laid ready place target files)
    (sheltered : walk.Sheltered ready place target)
    (found : files.entry? (place ++ relative) = some .directory) :
    walk.templatesAt files place relative = walk.templatesAt ready place relative := by
  apply (templatesAt_increasing walk laid.wellFormed place relative).eq_of_mem_iff
    (templatesAt_increasing walk sheltered.wellFormed place relative)
  intro name
  rw [mem_templatesAt_linkFree laid.wellFormed laid.free (laid.reached sheltered) found,
    mem_templatesAt_linkFree sheltered.wellFormed sheltered.free sheltered.reached
      (laid.source sheltered relative ▸ found), List.append_assoc, laid.source sheltered]

theorem real_iff (laid : walk.Laid ready place target files)
    (sheltered : walk.Sheltered ready place target) (errand : Errand) :
    errand.Real walk.root files place ↔ errand.Real walk.root ready place := by
  cases errand <;> simp only [Errand.Real, laid.source sheltered]

theorem real_next (laid : walk.Laid ready place target files)
    (sheltered : walk.Sheltered ready place target) {errand : Errand} {agenda : List Errand}
    (real : ∀ other ∈ errand :: agenda, other.Real walk.root ready place) :
    ∀ other ∈ errand.below files ++ agenda, other.Real walk.root ready place := by
  simp only [← laid.real_iff sheltered] at real ⊢
  exact Errand.real_next laid.wellFormed (laid.reached sheltered) real

/-- A bundle that is found is one of those that there were in the beginning. -/
theorem bundle (laid : walk.Laid ready place target files)
    (sheltered : walk.Sheltered ready place target) {errand : Errand}
    (real : errand.Real walk.root ready place) {found : Bundle}
    (yields : errand.item? walk files = some (.ok found)) :
    ∃ way, walk.Yields ready place way ∧ found = walk.bundleOn ready place way := by
  rw [← laid.real_iff sheltered] at real
  obtain ⟨relative, rfl, isThere, fits⟩ := real.fits laid.wellFormed (laid.reached sheltered)
    (by rw [yields]; simp)
  rw [item?_descend laid.wellFormed (laid.reached sheltered) isThere, if_pos fits, bundleOn,
    laid.templatesAt sheltered isThere] at yields
  split at yields
  · cases yields
  · next filled =>
    cases yields
    exact ⟨relative, ⟨fits, filled⟩, rfl⟩

theorem checked (laid : walk.Laid ready place target files)
    (sheltered : walk.Sheltered ready place target) (yields : walk.Yields ready place way) :
    FileTree.checkPath (walk.layout.output.descend (way ++ [walk.moduleAt way])) = .ok () := by
  have emits := sheltered.emits yields
  have short := (sheltered.short _ (sheltered.isItem yields)).1
  rw [emits.descend (sheltered.plain_way yields)] at short
  exact FileTree.checkPath_of_short (laid.output sheltered) (sheltered.plain_way yields)
    emits.plain short

/-- No file is in the way to a module. -/
theorem opening (laid : walk.Laid ready place target files)
    (sheltered : walk.Sheltered ready place target) (yields : walk.Yields ready place way) :
    files.Opening walk.layout.output target way where
  wellFormed := laid.wellFormed
  free := laid.free
  reached := laid.output sheltered
  plain := sheltered.plain_way yields
  checked := fun filled => FileTree.checkPath_before filled (sheltered.plain_way yields)
    (sheltered.emits yields).plain (laid.checked sheltered yields)
  short := yields.1.2
  clear := by
    intro above begins content found
    obtain ⟨other, yieldsOther, rfl⟩ := laid.modules above content found
    exact sheltered.ways_apart yieldsOther yields begins

/-- No directory is in the place of a module. -/
theorem leaf (laid : walk.Laid ready place target files)
    (sheltered : walk.Sheltered ready place target) (yields : walk.Yields ready place way) :
    files.entry? (target ++ way ++ [walk.moduleAt way]) ≠ some .directory := by
  intro found
  rw [List.append_assoc] at found
  rcases laid.directories _ found with none | ⟨other, yieldsOther, begins⟩
  · exact List.append_ne_nil_of_right_ne_nil _ (List.cons_ne_nil _ _) none
  · exact sheltered.ways_apart yields yieldsOther begins

theorem later (laid : walk.Laid ready place target files) (yields : walk.Yields ready place way)
    {content : Bytes} {after : FileTree}
    (writes : files.WritesBelow target way (walk.moduleAt way) content after) :
    walk.Laid ready place target after where
  wellFormed := writes.wellFormed
  free := writes.free
  working := writes.working.trans laid.working
  kept := fun other found => writes.kept other (laid.kept other found)
  same := by
    intro other outside
    rcases writes.entries other with same | ⟨⟨above, _, rfl⟩, _⟩ | ⟨rfl, _⟩
    · rw [same, laid.same other outside]
    · exact absurd (List.prefix_append target above) outside
    · rw [List.append_assoc] at outside
      exact absurd (List.prefix_append target _) outside
  modules := by
    intro below bytes found
    rcases writes.entries (target ++ below) with same | ⟨_, isDirectory⟩ | ⟨here, _⟩
    · exact laid.modules below bytes (same ▸ found)
    · rw [isDirectory] at found
      cases found
    · rw [List.append_assoc, List.append_cancel_left_eq] at here
      exact ⟨way, yields, here⟩
  directories := by
    intro below found
    rcases writes.entries (target ++ below) with same | ⟨⟨above, begins, here⟩, _⟩ | ⟨_, isFile⟩
    · exact laid.directories below (same ▸ found)
    · rw [List.append_cancel_left_eq] at here
      exact Or.inr ⟨way, yields, here ▸ begins⟩
    · rw [isFile] at found
      cases found

/-- The module of a bundle can be written, whatever modules were written before. -/
theorem written (laid : walk.Laid ready place target files)
    (sheltered : walk.Sheltered ready place target) (yields : walk.Yields ready place way)
    (content : Bytes) :
    let path := (walk.bundleOn ready place way).outputFile
    ∃ prepared after, files.makeDirectories path.directory = (.ok (), prepared) ∧
      prepared.replaceFile path.directory path content = (.ok (), after) ∧
      walk.Laid ready place target after := by
  have emits := sheltered.emits yields
  rw [emits.descend (sheltered.plain_way yields)]
  obtain ⟨prepared, after, made, replaced, writes⟩ := (laid.opening sheltered yields).written
    emits.plain (laid.checked sheltered yields)
    ((sheltered.short _ (sheltered.isItem yields)).2 _ (sheltered.fileName yields))
    (laid.leaf sheltered yields) content
  exact ⟨prepared, after, made, replaced, laid.later yields writes⟩

end Laid

end Walk

end TemplateBuild

import TemplateBuild.Proofs.FileTree.Growing
import TemplateBuild.Proofs.Walk.Discovery
import TemplateBuild.Walk.Read

/-!
# Walks through trees that grow

Directories that have come on the way have no templates in them, nor below them, and in the
others the templates are as they were.  So a walk yields the same bundles as if nothing had
come.

Whoever takes the items of a walk may write files on the way.  As long as these are no templates
and the new directories can be entered, the items are those of a walk through the tree as it was
before, taken in turn.
-/

set_option autoImplicit false

namespace TemplateBuild.Walk

open FileTree (Increasing Fits Grown)

/-- A name that a template can have. -/
def Wants (walk : Walk) (name : Name) : Prop :=
  walk.isTemplateName (walk.root.joinName name) = true

theorem isTemplateName_joinName_iff (walk : Walk) (directory : Path) {name : Name}
    (plain : Name.Plain name) :
    walk.isTemplateName (directory.joinName name) = true ↔ walk.Wants name := by
  rw [Wants, isTemplateName, isTemplateName, Path.extension_joinName directory plain,
    Path.extension_joinName walk.root plain]

/-- Through a tree that stays as it is there is one way. -/
theorem Sweep.unique {files : FileTree} {agenda left : List Errand}
    {done other : List (Errand × FileTree)} (sweep : Sweep agenda done left) : left = [] →
      Sweep agenda other [] → (∀ step ∈ done, step.2 = files) → (∀ step ∈ other, step.2 = files) →
      done = other := by
  induction sweep generalizing other with
  | rest agenda =>
      rintro rfl another _ _
      cases another
      rfl
  | next tree _ ih =>
      intro through another still stillOther
      cases another with
      | next tree' others =>
          rw [List.forall_mem_cons] at still stillOther
          obtain ⟨rfl, still⟩ := still
          obtain ⟨same, stillOther⟩ := stillOther
          simp only at same
          subst same
          rw [ih through others still stillOther]

/-- Whether an errand is about a directory that was there before. -/
def Errand.isKnown (before : FileTree) (place : Place) : Errand → Bool
  | .enter _ _ relative => before.isDirectoryAt (place ++ relative)
  | .report _ _ => true

theorem Errand.Real.later {root : Path} {files later : FileTree} {place : Place}
    (kept : ∀ place, files.entry? place = some .directory → later.entry? place = some .directory)
    {errand : Errand} (real : errand.Real root files place) : errand.Real root later place := by
  cases errand with
  | enter own directory relative => exact ⟨real.1, real.2.1, kept _ real.2.2⟩
  | report directory failure =>
      obtain ⟨long, relative, shape, found, unfit⟩ := real
      exact ⟨long, relative, shape, kept _ found, unfit⟩

/-- An errand that does not fail is about a directory whose path is not too long. -/
theorem Errand.Real.fits {walk : Walk} {files : FileTree} {place : Place}
    (wellFormed : files.WellFormed) (reached : files.directoryOf walk.root = .ok place)
    {errand : Errand} (real : errand.Real walk.root files place)
    (succeeds : ∀ error, errand.item? walk files ≠ some (.error error)) :
    ∃ relative, errand = .enter true (walk.root.descend relative) relative ∧
      files.entry? (place ++ relative) = some .directory ∧ Fits walk.root relative := by
  cases errand with
  | report directory failure => exact absurd rfl (succeeds _)
  | enter own directory relative =>
      obtain ⟨rfl, rfl, found⟩ := real
      refine ⟨relative, rfl, found, ?_⟩
      by_contra unfit
      rw [item?_descend wellFormed reached found, if_neg unfit] at succeeds
      exact absurd rfl (succeeds _)

/-- An errand that yields a bundle is about a directory with templates. -/
theorem Errand.Real.bundle {walk : Walk} {files : FileTree} {place : Place}
    (wellFormed : files.WellFormed) (reached : files.directoryOf walk.root = .ok place)
    {errand : Errand} (real : errand.Real walk.root files place) {bundle : Bundle}
    (yields : errand.item? walk files = some (.ok bundle)) :
    ∃ relative, files.entry? (place ++ relative) = some .directory ∧
      walk.Yields files place relative ∧ bundle = walk.bundleOn files place relative := by
  obtain ⟨relative, rfl, found, fits⟩ := real.fits wellFormed reached fun error fails => by
    rw [yields] at fails
    cases fails
  rw [item?_descend wellFormed reached found, if_pos fits] at yields
  split at yields
  · cases yields
  · next filled =>
    cases yields
    exact ⟨relative, found, ⟨fits, filled⟩, rfl⟩

/-- Whoever has come past an errand still has ahead what lies below its directory. -/
theorem Errand.Real.ahead {walk : Walk} {files : FileTree} {place : Place}
    (wellFormed : files.WellFormed) (reached : files.directoryOf walk.root = .ok place)
    {errand : Errand} (real : errand.Real walk.root files place)
    (succeeds : ∀ error, errand.item? walk files ≠ some (.error error)) {agenda : List Errand}
    {relative more : List Name}
    (member : .enter true (walk.root.descend relative) relative ∈ errand :: agenda)
    (found : files.entry? (place ++ (relative ++ more)) = some .directory) :
    Fits walk.root (relative ++ more) ∨ ∃ inner others, inner ++ others = relative ++ more ∧
      .enter true (walk.root.descend inner) inner ∈ errand.below files ++ agenda := by
  rcases List.mem_cons.mp member with rfl | later
  · obtain ⟨way, same, isDirectory, fits⟩ := real.fits wellFormed reached succeeds
    rw [Errand.enter.injEq] at same
    obtain ⟨_, _, rfl⟩ := same
    cases more with
    | nil =>
        rw [List.append_nil]
        exact Or.inl fits
    | cons name rest =>
        refine Or.inr ⟨relative ++ [name], rest, by simp, List.mem_append_left _ ?_⟩
        have inner : files.entry? (place ++ relative ++ [name]) = some .directory := by
          by_cases last : rest = []
          · rwa [last, ← List.append_assoc] at found
          · apply wellFormed.above (place ++ relative ++ [name]) rest .directory last
            rw [← found]
            simp
        rw [below_descend wellFormed reached isDirectory, if_pos fits, List.mem_map]
        exact ⟨name, (mem_directoriesAt_iff name).mpr inner, rfl⟩
  · exact Or.inr ⟨relative, more, rfl, List.mem_append_right _ later⟩

theorem begin_of_directoryOf {walk : Walk} {files : FileTree} {place : Place}
    (free : files.LinkFree) (reached : files.directoryOf walk.root = .ok place) :
    walk.begin files = [.enter true walk.root []] := by
  rw [begin, FileTree.findItself_of_directoryOf free reached]

/-- Directories with templates lie where directories are. -/
theorem entry?_of_yields {walk : Walk} {files : FileTree} {place : Place} {relative : List Name}
    (wellFormed : files.WellFormed) (yields : walk.Yields files place relative) :
    files.entry? (place ++ relative) = some .directory := by
  obtain ⟨name, member⟩ := List.exists_mem_of_ne_nil _ yields.2
  rw [templatesAt, mem_templateNames_iff, FileTree.mem_namesIn_iff] at member
  obtain ⟨entry, found⟩ := Option.isSome_iff_exists.mp member.1
  exact wellFormed.parent found

/-- The bundles that a walk yields are those of the directories that yield one. -/
theorem mem_items_of_real {walk : Walk} {files : FileTree} {place : Place}
    (wellFormed : files.WellFormed) (isReal : files.findItself walk.root = .ok (place, .directory))
    {bundle : Bundle} : .ok bundle ∈ (walk.items files).1 ↔
      ∃ relative, walk.Yields files place relative ∧
        bundle = walk.bundleOn files place relative := by
  have reached := FileTree.directoryOf_of_findItself isReal
  obtain ⟨done, items, _, _, real, complete⟩ := sweep_of_real wellFormed walk isReal
  constructor
  · intro member
    rw [items, given, List.mem_filterMap] at member
    obtain ⟨⟨errand, current⟩, isDone, yields⟩ := member
    obtain ⟨rfl, isReal⟩ := real _ isDone
    obtain ⟨relative, _, emits, isBundle⟩ := isReal.bundle wellFormed reached yields
    exact ⟨relative, emits, isBundle⟩
  · rintro ⟨relative, yields, rfl⟩
    have isEntered := complete relative
      ((reachable_iff wellFormed (FileTree.entry?_of_directoryOf wellFormed reached) relative).mpr
        (entry?_of_yields wellFormed yields)) yields.1
    have member : walk.bundleOn files place relative ∈ bundlesAmong (walk.given done) := by
      rw [bundlesAmong_given wellFormed walk reached done real]
      apply List.mem_map_of_mem
      rw [List.mem_filter, decide_eq_true_iff]
      exact ⟨isEntered, yields⟩
    rw [← items] at member
    obtain ⟨item, isItem, isBundle⟩ := List.mem_filterMap.mp member
    cases item with
    | error error => cases isBundle
    | ok bundle =>
        cases isBundle
        exact isItem

theorem mem_items_iff {walk : Walk} {files : FileTree} {place : Place}
    (wellFormed : files.WellFormed) (free : files.LinkFree)
    (reached : files.directoryOf walk.root = .ok place) {bundle : Bundle} :
    .ok bundle ∈ (walk.items files).1 ↔
      ∃ relative, walk.Yields files place relative ∧
        bundle = walk.bundleOn files place relative :=
  mem_items_of_real wellFormed (FileTree.findItself_of_directoryOf free reached)

section Grown

variable {walk : Walk} {before files : FileTree} {place : Place} {relative : List Name}

theorem templatesAt_increasing (walk : Walk) (wellFormed : files.WellFormed) (place : Place)
    (relative : List Name) : Increasing (walk.templatesAt files place relative) :=
  templateNames_increasing walk files _ _ (wellFormed.nodup_namesIn _)

/-- The templates in a directory that are no links. -/
theorem mem_templatesAt_of_linkless (wellFormed : files.WellFormed)
    (reached : files.directoryOf walk.root = .ok place)
    (found : files.entry? (place ++ relative) = some .directory) {name : Name}
    (linkless : ∀ target, files.entry? (place ++ relative ++ [name]) ≠ some (.link target)) :
    name ∈ walk.templatesAt files place relative ↔ Fits walk.root (relative ++ [name]) ∧
      (∃ content, files.entry? (place ++ relative ++ [name]) = some (.file content)) ∧
      walk.Wants name := by
  rw [templatesAt, mem_templateNames_iff, ← Path.descend_concat]
  constructor
  · rintro ⟨listed, isFile, named⟩
    have plain := wellFormed.plain_of_mem_namesIn listed
    rw [FileTree.isFile_descend_iff wellFormed reached found linkless plain] at isFile
    rw [Path.descend_concat, isTemplateName_joinName_iff walk _ plain] at named
    exact ⟨isFile.1, isFile.2, named⟩
  · rintro ⟨fits, ⟨content, isEntry⟩, named⟩
    have plain := wellFormed.plain isEntry name (by simp)
    refine ⟨?_, ?_, ?_⟩
    · rw [FileTree.mem_namesIn_iff, isEntry]
      rfl
    · exact (FileTree.isFile_descend_iff wellFormed reached found linkless plain).mpr
        ⟨fits, content, isEntry⟩
    · rw [Path.descend_concat]
      exact (isTemplateName_joinName_iff walk _ plain).mpr named

theorem mem_templatesAt_linkFree (wellFormed : files.WellFormed) (free : files.LinkFree)
    (reached : files.directoryOf walk.root = .ok place)
    (found : files.entry? (place ++ relative) = some .directory) (name : Name) :
    name ∈ walk.templatesAt files place relative ↔ Fits walk.root (relative ++ [name]) ∧
      (∃ content, files.entry? (place ++ relative ++ [name]) = some (.file content)) ∧
      walk.Wants name :=
  mem_templatesAt_of_linkless wellFormed reached found (free _)

variable (wellFormed : before.WellFormed) (stillWellFormed : files.WellFormed)
  (free : before.LinkFree) (grown : Grown walk.Wants before files)
  (reached : before.directoryOf walk.root = .ok place)

include wellFormed stillWellFormed free grown reached

/-- The templates of a directory that was there before are as they were. -/
theorem templatesAt_of_known (found : before.entry? (place ++ relative) = some .directory) :
    walk.templatesAt files place relative = walk.templatesAt before place relative := by
  apply (templatesAt_increasing walk stillWellFormed place relative).eq_of_mem_iff
    (templatesAt_increasing walk wellFormed place relative)
  intro name
  rw [mem_templatesAt_linkFree wellFormed free reached found,
    mem_templatesAt_linkFree stillWellFormed (grown.linkFree free) (grown.directoryOf free reached)
      (grown.directory found)]
  constructor
  · rintro ⟨fits, ⟨content, isFile⟩, named⟩
    exact ⟨fits, ⟨content, (grown.file_iff named).mp isFile⟩, named⟩
  · rintro ⟨fits, ⟨content, isFile⟩, named⟩
    exact ⟨fits, ⟨content, (grown.file_iff named).mpr isFile⟩, named⟩

/-- A directory that has come has no templates. -/
theorem templatesAt_of_new (absent : before.entry? (place ++ relative) ≠ some .directory)
    (found : files.entry? (place ++ relative) = some .directory) :
    walk.templatesAt files place relative = [] := by
  rw [List.eq_nil_iff_forall_not_mem]
  intro name member
  rw [mem_templatesAt_linkFree stillWellFormed (grown.linkFree free)
    (grown.directoryOf free reached) found] at member
  obtain ⟨_, ⟨content, isFile⟩, named⟩ := member
  exact absent (wellFormed.parent ((grown.file_iff named).mp isFile))

theorem item?_of_known (found : before.entry? (place ++ relative) = some .directory) :
    (Errand.enter true (walk.root.descend relative) relative).item? walk files =
      (Errand.enter true (walk.root.descend relative) relative).item? walk before := by
  rw [item?_descend wellFormed reached found,
    item?_descend stillWellFormed (grown.directoryOf free reached) (grown.directory found),
    bundleOn, bundleOn, templatesAt_of_known wellFormed stillWellFormed free grown reached found]

omit free reached in
theorem directoriesAt_of_known : (directoriesAt files place relative).filter (fun name =>
      before.isDirectoryAt (place ++ relative ++ [name])) =
        directoriesAt before place relative := by
  apply ((directoriesAt_increasing stillWellFormed).filter _).eq_of_mem_iff
    (directoriesAt_increasing wellFormed)
  intro name
  rw [List.mem_filter, mem_directoriesAt_iff, mem_directoriesAt_iff, FileTree.isDirectoryAt,
    decide_eq_true_iff]
  constructor
  · rintro ⟨_, isDirectory⟩
    exact isDirectory
  · intro isDirectory
    exact ⟨grown.directory isDirectory, isDirectory⟩

/-- The templates of a directory that was there before can be read as before. -/
theorem readText_of_known (found : before.entry? (place ++ relative) = some .directory)
    (encoding : Encoding) : ∀ template ∈ (walk.bundleOn before place relative).templates,
      template.readText files encoding = template.readText before encoding := by
  intro template member
  obtain ⟨name, isTemplate, rfl⟩ := List.mem_map.mp member
  obtain ⟨fits, ⟨content, isFile⟩, named⟩ :=
    (mem_templatesAt_linkFree wellFormed free reached found name).mp isTemplate
  have earlier := FileTree.find_descend_of_file wellFormed reached isFile fits
  have later := FileTree.find_descend_of_file stillWellFormed (grown.directoryOf free reached)
    ((grown.file_iff named).mpr isFile) fits
  rw [Path.descend_concat] at earlier later
  rw [TemplateSource.readText, TemplateSource.readText]
  have same : files.contentOf ((walk.root.descend relative).joinName name) =
      before.contentOf ((walk.root.descend relative).joinName name) := by
    rw [FileTree.contentOf, FileTree.contentOf, earlier, later]
  rw [TemplateSource.ofPath, same]

/-- Of what there is to do below a directory, what is about directories that were there before. -/
theorem below_filter_isKnown (fits : Fits walk.root relative)
    (found : files.entry? (place ++ relative) = some .directory) :
    ((Errand.enter true (walk.root.descend relative) relative).below files).filter
        (Errand.isKnown before place) =
      (directoriesAt before place relative).map fun name =>
        .enter true (walk.root.descend (relative ++ [name])) (relative ++ [name]) := by
  rw [below_descend stillWellFormed (grown.directoryOf free reached) found, if_pos fits,
    List.filter_map, ← directoriesAt_of_known wellFormed stillWellFormed grown]
  congr 1
  apply List.filter_congr
  intro name _
  rw [Function.comp_apply, Errand.isKnown, List.append_assoc]

/-- An errand in a tree that has grown yields what it yielded before and goes on with what there
was before, or it is about a directory that has come and yields nothing. -/
theorem known_or_new (fits : Fits walk.root relative)
    (found : files.entry? (place ++ relative) = some .directory) (agenda : List Errand) :
    let errand := Errand.enter true (walk.root.descend relative) relative
    (errand :: agenda).filter (Errand.isKnown before place) =
        errand :: agenda.filter (Errand.isKnown before place) ∧
      (errand.below files ++ agenda).filter (Errand.isKnown before place) =
        errand.below before ++ agenda.filter (Errand.isKnown before place) ∧
      errand.item? walk files = errand.item? walk before ∨
    (errand :: agenda).filter (Errand.isKnown before place) =
        (errand.below files ++ agenda).filter (Errand.isKnown before place) ∧
      errand.item? walk files = none := by
  intro errand
  have below := below_filter_isKnown wellFormed stillWellFormed free grown reached fits found
  by_cases known : before.entry? (place ++ relative) = some .directory
  · left
    refine ⟨List.filter_cons_of_pos (decide_eq_true known), ?_,
      item?_of_known wellFormed stillWellFormed free grown reached known⟩
    rw [List.filter_append, below, below_descend wellFormed reached known, if_pos fits]
  · right
    have isNew : ¬ errand.isKnown before place = true := by
      rw [Errand.isKnown, FileTree.isDirectoryAt, decide_eq_true_iff]
      exact known
    have nothing : directoriesAt before place relative = [] := by
      rw [List.eq_nil_iff_forall_not_mem]
      intro name member
      exact known (wellFormed.parent ((mem_directoriesAt_iff name).mp member))
    constructor
    · rw [List.filter_cons_of_neg isNew, List.filter_append, below, nothing, List.map_nil,
        List.nil_append]
    · rw [item?_descend stillWellFormed (grown.directoryOf free reached) found, if_pos fits,
        templatesAt_of_new wellFormed stillWellFormed free grown reached known found]
      rfl

/-- A walk that comes past an errand without an error in a tree that has grown comes past it in the
tree as it was before, if the errand was there, and the same is found. -/
theorem Sweep.past {errand : Errand} (real : errand.Real walk.root files place)
    (succeeds : ∀ error, errand.item? walk files ≠ some (.error error)) {agenda : List Errand}
    {done : List (Errand × FileTree)}
    (sweep : Sweep ((errand.below files ++ agenda).filter (Errand.isKnown before place)) done [])
    (still : ∀ step ∈ done, step.2 = before) :
    ∃ all, Sweep ((errand :: agenda).filter (Errand.isKnown before place)) all [] ∧
      (∀ step ∈ all, step.2 = before) ∧
      walk.given all = (errand.item? walk files).toList ++ walk.given done := by
  obtain ⟨relative, rfl, found, fits⟩ :=
    real.fits stillWellFormed (grown.directoryOf free reached) succeeds
  rcases known_or_new wellFormed stillWellFormed free grown reached fits found agenda with
    ⟨kept, goesOn, same⟩ | ⟨gone, none⟩
  · rw [goesOn] at sweep
    rw [kept, same]
    exact ⟨_, .next before sweep, List.forall_mem_cons.mpr ⟨rfl, still⟩, given_cons ..⟩
  · rw [gone, none]
    exact ⟨done, sweep, still, rfl⟩

/-- The other way round: what is still ahead in the tree as it was before. -/
theorem Sweep.ahead {errand : Errand} (real : errand.Real walk.root files place)
    (succeeds : ∀ error, errand.item? walk files ≠ some (.error error)) {agenda : List Errand}
    {all : List (Errand × FileTree)}
    (sweep : Sweep ((errand :: agenda).filter (Errand.isKnown before place)) all [])
    (still : ∀ step ∈ all, step.2 = before) :
    ∃ done, Sweep ((errand.below files ++ agenda).filter (Errand.isKnown before place)) done [] ∧
      (∀ step ∈ done, step.2 = before) ∧
      walk.given all = (errand.item? walk files).toList ++ walk.given done := by
  obtain ⟨relative, rfl, found, fits⟩ :=
    real.fits stillWellFormed (grown.directoryOf free reached) succeeds
  rcases known_or_new wellFormed stillWellFormed free grown reached fits found agenda with
    ⟨kept, goesOn, same⟩ | ⟨gone, none⟩
  · rw [kept] at sweep
    cases sweep with
    | next tree rest =>
        obtain ⟨unchanged, others⟩ := List.forall_mem_cons.mp still
        simp only at unchanged
        subst unchanged
        rw [goesOn, same]
        exact ⟨_, rest, others, given_cons ..⟩
  · rw [gone] at sweep
    rw [none]
    exact ⟨all, sweep, still, rfl⟩

/-- A bundle that is found in a tree that has grown was there before. -/
theorem bundle_of_item? (found : files.entry? (place ++ relative) = some .directory)
    {bundle : Bundle} (yields : (Errand.enter true (walk.root.descend relative) relative).item? walk
      files = some (.ok bundle)) :
    before.entry? (place ++ relative) = some .directory ∧
      walk.templatesAt before place relative ≠ [] ∧
      bundle = walk.bundleOn before place relative := by
  by_cases known : before.entry? (place ++ relative) = some .directory
  · rw [item?_of_known wellFormed stillWellFormed free grown reached known,
      item?_descend wellFormed reached known] at yields
    split at yields
    · split at yields
      · cases yields
      · next filled =>
        cases yields
        exact ⟨known, filled, rfl⟩
    · cases yields
  · rw [item?_descend stillWellFormed (grown.directoryOf free reached) found,
      templatesAt_of_new wellFormed stillWellFormed free grown reached known found] at yields
    split at yields
    · cases yields
    · cases yields

omit wellFormed stillWellFormed reached in
/-- A tree grows when a module is stored whose name no template can have. -/
theorem grown_of_stored {path : Path} (modest : walk.isTemplateName path = false)
    {after : FileTree} {content : Bytes} (stored : files.Stores path content after) :
    Grown walk.Wants before after := by
  apply grown.stores free stored
  intro name found plain wants
  rw [isTemplateName, Path.extension, found, Option.bind_some,
    ← Path.extension_joinName walk.root plain, ← isTemplateName, wants] at modest
  cases modest

omit stillWellFormed in
/-- A walk through a tree that has grown begins as in the tree before. -/
theorem begin_of_grown : walk.begin files = walk.begin before ∧
    (walk.begin before).filter (Errand.isKnown before place) = walk.begin before ∧
    ∀ errand ∈ walk.begin before, errand.Real walk.root files place := by
  have found : before.entry? (place ++ []) = some .directory := by
    rw [List.append_nil]
    exact FileTree.entry?_of_directoryOf wellFormed reached
  rw [begin_of_directoryOf free reached,
    begin_of_directoryOf (grown.linkFree free) (grown.directoryOf free reached)]
  refine ⟨rfl, List.filter_cons_of_pos (decide_eq_true found), ?_⟩
  intro errand member
  rw [List.mem_singleton] at member
  subst member
  exact ⟨rfl, rfl, grown.directory found⟩

end Grown

/-! ## Taking the items of a growing tree -/

section Taking

variable {S E : Type}

/-- The directories below the root that have come can be entered. -/
def FitsNew (walk : Walk) (before : FileTree) (place : Place) (files : FileTree) : Prop :=
  ∀ relative, files.entry? (place ++ relative) = some .directory →
    before.entry? (place ++ relative) = some .directory ∨ Fits walk.root relative

theorem fitsNew_of_entries (walk : Walk) {before files : FileTree} {place : Place}
    (known : ∀ each ∈ files.entries, each.2 = .directory → place <+: each.1 →
      before.entry? each.1 = some .directory) : walk.FitsNew before place files := by
  intro relative found
  left
  by_cases outer : place ++ relative = []
  · rw [outer]
    rfl
  · exact known _ (FileTree.mem_entries_of_found outer found) rfl (List.prefix_append _ _)

/-- Whoever takes items lets the tree only grow by what the walk does not want, and ends at the
first error.  `fine` says which items may be ahead in a state, `result` is how it all ends. -/
structure Heeds (walk : Walk) (before : FileTree) (place : Place) (tree : S → FileTree)
    (take : S → Item → Except E S) (result : Except E S) (fine : S → List Item → Prop) : Prop where
  grown : ∀ state items, fine state items →
    (tree state).WellFormed ∧ Grown walk.Wants before (tree state)
  goesOn : ∀ state item items later, fine state (item :: items) → take state item = .ok later →
    fine later items ∧ ∀ place, FileTree.entry? (tree state) place = some .directory →
      FileTree.entry? (tree later) place = some .directory
  refuses : ∀ state error later, take state (.error error) ≠ .ok later
  enters : ∀ state items error, fine state items → take state (.error error) = result →
    walk.FitsNew before place (tree state)

/-- What an errand does not succeed with was there before, if new directories can be entered. -/
theorem known_of_error {walk : Walk} {before files : FileTree} {place : Place}
    (wellFormed : files.WellFormed) (reached : files.directoryOf walk.root = .ok place)
    (fits : walk.FitsNew before place files) {errand : Errand}
    (real : errand.Real walk.root files place) {error : WalkError}
    (fails : errand.item? walk files = some (.error error)) :
    errand.isKnown before place = true := by
  cases errand with
  | report directory failure => rfl
  | enter own directory relative =>
      obtain ⟨rfl, rfl, found⟩ := real
      rw [Errand.isKnown, FileTree.isDirectoryAt, decide_eq_true_iff]
      refine (fits relative found).resolve_right fun fitsHere => ?_
      rw [item?_descend wellFormed reached found, if_pos fitsHere] at fails
      split at fails
      · cases fails
      · cases fails

/-- An errand that was there before yields what it yielded before. -/
theorem item?_of_isKnown {walk : Walk} {before files : FileTree} {place : Place}
    (wellFormed : before.WellFormed) (stillWellFormed : files.WellFormed) (free : before.LinkFree)
    (grown : Grown walk.Wants before files) (reached : before.directoryOf walk.root = .ok place)
    {errand : Errand} (real : errand.Real walk.root files place)
    (known : errand.isKnown before place = true) :
    errand.item? walk files = errand.item? walk before := by
  cases errand with
  | report directory failure => rfl
  | enter own directory relative =>
      obtain ⟨rfl, rfl, _⟩ := real
      rw [Errand.isKnown, FileTree.isDirectoryAt, decide_eq_true_iff] at known
      exact item?_of_known wellFormed stillWellFormed free grown reached known

/-- An error that comes in the grown tree is the next item of the tree as it was before. -/
theorem given_of_error {walk : Walk} {before files : FileTree} {place : Place}
    (wellFormed : before.WellFormed) (stillWellFormed : files.WellFormed) (free : before.LinkFree)
    (grown : Grown walk.Wants before files) (reached : before.directoryOf walk.root = .ok place)
    (fits : walk.FitsNew before place files) {errand : Errand} {agenda : List Errand}
    (real : errand.Real walk.root files place) {error : WalkError}
    (yields : errand.item? walk files = some (.error error)) {all : List (Errand × FileTree)}
    (sweep : Sweep ((errand :: agenda).filter (Errand.isKnown before place)) all [])
    (still : ∀ step ∈ all, step.2 = before) :
    ∃ items, walk.given all = .error error :: items := by
  have reachedNow := grown.directoryOf free reached
  have known := known_of_error stillWellFormed reachedNow fits real yields
  rw [item?_of_isKnown wellFormed stillWellFormed free grown reached real known] at yields
  rw [List.filter_cons_of_pos known] at sweep
  cases sweep with
  | next tree rest =>
      have unchanged := (List.forall_mem_cons.mp still).1
      simp only at unchanged
      subst unchanged
      exact ⟨_, given_cons_of_some _ yields⟩

variable {walk : Walk} {before : FileTree} {place : Place} {tree : S → FileTree}
  {take : S → Item → Except E S} {fine : S → List Item → Prop}

/-- A walk takes the items of the tree as it was before, one after the other. -/
theorem Course.takes (wellFormed : before.WellFormed) (free : before.LinkFree)
    (reached : before.directoryOf walk.root = .ok place) {state : S} {agenda : List Errand}
    {result : Except E S} (course : Course walk tree take state agenda result)
    (heeds : walk.Heeds before place tree take result fine) :
    ∀ all, Sweep (agenda.filter (Errand.isKnown before place)) all [] →
      (∀ step ∈ all, step.2 = before) →
      (∀ errand ∈ agenda, errand.Real walk.root (tree state) place) →
      fine state (walk.given all) → result = (walk.given all).foldlM take state := by
  -- The walk through the tree as it was before keeps pace: it has the same items ahead, for what
  -- has come in the meantime yields none.
  induction course with
  | finished =>
      intro all sweep _ _ _
      cases sweep
      rfl
  | @silent state errand agenda result yields _ ih =>
      intro all sweep still real isFine
      have isReal := (List.forall_mem_cons.mp real).1
      obtain ⟨stillWellFormed, grown⟩ := heeds.grown _ _ isFine
      have realNext := Errand.real_next stillWellFormed (grown.directoryOf free reached) real
      obtain ⟨done, ahead, stillAhead, items⟩ := Sweep.ahead wellFormed stillWellFormed free grown
        reached isReal (by simp [yields]) sweep still
      rw [yields, Option.toList_none, List.nil_append] at items
      rw [items] at isFine ⊢
      exact ih heeds done ahead stillAhead realNext isFine
  | @taken state later errand agenda item result yields takes _ ih =>
      intro all sweep still real isFine
      have isReal := (List.forall_mem_cons.mp real).1
      obtain ⟨stillWellFormed, grown⟩ := heeds.grown _ _ isFine
      have realNext := Errand.real_next stillWellFormed (grown.directoryOf free reached) real
      have succeeds : ∀ error, errand.item? walk (tree state) ≠ some (.error error) := by
        intro error fails
        rw [yields, Option.some.injEq] at fails
        rw [fails] at takes
        exact heeds.refuses _ _ _ takes
      obtain ⟨done, ahead, stillAhead, items⟩ :=
        Sweep.ahead wellFormed stillWellFormed free grown reached isReal succeeds sweep still
      rw [yields, Option.toList_some, List.singleton_append] at items
      rw [items] at isFine ⊢
      obtain ⟨fineLater, kept⟩ := heeds.goesOn _ _ _ _ isFine takes
      rw [List.foldlM_cons, takes]
      exact ih heeds done ahead stillAhead
        (fun other isNext => (realNext other isNext).later kept) fineLater
  | @stopped state errand agenda item error yields takes =>
      intro all sweep still real isFine
      obtain ⟨isReal, _⟩ := List.forall_mem_cons.mp real
      obtain ⟨stillWellFormed, grown⟩ := heeds.grown _ _ isFine
      have comesFirst : ∃ items, walk.given all = item :: items := by
        cases item with
        | ok bundle =>
            obtain ⟨done, _, _, items⟩ := Sweep.ahead wellFormed stillWellFormed free grown reached
              isReal (by rw [yields]; simp) sweep still
            rw [yields] at items
            exact ⟨_, items⟩
        | error fault =>
            exact given_of_error wellFormed stillWellFormed free grown reached
              (heeds.enters _ _ fault isFine takes) isReal yields sweep still
      obtain ⟨items, first⟩ := comesFirst
      rw [first, List.foldlM_cons, takes]
      rfl

end Taking

end TemplateBuild.Walk

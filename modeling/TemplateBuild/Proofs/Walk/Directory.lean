import TemplateBuild.Config.Settings
import TemplateBuild.Proofs.Walk.Order
import TemplateBuild.Proofs.Text.Bytes
import Mathlib.Data.List.TakeDrop
import Mathlib.Data.List.TakeWhile

/-!
# What directories yield

The templates of a directory are the files whose names end in one of the extensions.  Which
errands come below a directory, and which bundle it yields, can be told from the place of the
root and from what lies at the places below.

What was done yields items, and the bundles among them have their templates in the order of
their names.  No template is in two bundles, even if the files change on the way.
-/

set_option autoImplicit false

namespace TemplateBuild

/-! ## Extensions -/

theorem Path.extension_joinName (directory : Path) {name : Name} (plain : Name.Plain name) :
    (directory.joinName name).extension = (splitName name).2 := by
  rw [extension, fileName_joinName directory plain]
  rfl

theorem Path.splitName_append {stem ending : Bytes} (filled : stem ≠ []) (dotless : dot ∉ ending) :
    splitName (stem ++ dot :: ending) = (stem, some ending) := by
  have all : ∀ byte ∈ ending.reverse, decide (byte ≠ dot) = true := by
    intro byte member
    rw [decide_eq_true_eq]
    rintro rfl
    exact dotless (List.mem_reverse.mp member)
  obtain ⟨others, byte, rfl⟩ := List.eq_nil_or_concat' stem |>.resolve_left filled
  rw [splitName, List.span_eq_takeWhile_dropWhile, List.reverse_append, List.reverse_cons,
    List.append_assoc, List.takeWhile_append_of_pos all, List.dropWhile_append_of_pos all]
  simp

/-- The extension of a name is what follows its last dot, if something comes before the dot. -/
theorem Path.splitName_eq_some_iff (name : Name) (ending : Bytes) :
    (splitName name).2 = some ending ↔
      ∃ stem, stem ≠ [] ∧ name = stem ++ dot :: ending ∧ dot ∉ ending := by
  have parts := List.takeWhile_append_dropWhile (p := (· ≠ dot)) (l := name.reverse)
  constructor
  · intro found
    rw [splitName, List.span_eq_takeWhile_dropWhile] at found
    cases rest : name.reverse.dropWhile (· ≠ dot) with
    | nil =>
        rw [rest] at found
        cases found
    | cons first before =>
        have stopped := List.head_dropWhile_not (· ≠ dot) (l := name.reverse) (by rw [rest]; simp)
        simp only [rest, List.head_cons] at stopped
        have isDot : first = dot := by simpa using stopped
        cases before with
        | nil =>
            rw [rest] at found
            cases found
        | cons second others =>
            simp only [rest, Option.some.injEq] at found
            rw [rest, isDot] at parts
            refine ⟨(second :: others).reverse, by simp, ?_, ?_⟩
            · rw [← List.reverse_reverse name, ← parts, ← found]
              simp
            · rw [← found, List.mem_reverse]
              intro member
              simpa using List.mem_takeWhile_imp member
  · rintro ⟨stem, filled, rfl, dotless⟩
    exact congrArg Prod.snd (splitName_append filled dotless)

/-- The name ends in a dot and one of the extensions, whose own leading dots do not count, and
the dot is not the first character. -/
def Name.EndsIn (extensions : List String) (name : Name) : Prop :=
  ∃ stem extension, stem ≠ [] ∧ extension ∈ extensions ∧ ConfigLayer.dropDots extension ≠ "" ∧
    Path.dot ∉ Bytes.ofString (ConfigLayer.dropDots extension) ∧
    name = stem ++ Path.dot :: Bytes.ofString (ConfigLayer.dropDots extension)

theorem Walk.isTemplateName_iff (root : Path) (extensions : List String) (layout : Layout)
    (directory : Path) {name : Name} (plain : Name.Plain name) :
    (Walk.of root extensions layout).isTemplateName (directory.joinName name) = true ↔
      Name.EndsIn extensions name := by
  have wanted : ∀ extension, extension ∈ (Walk.of root extensions layout).extensions ↔
      ∃ given ∈ extensions, ConfigLayer.dropDots given ≠ "" ∧
        ConfigLayer.dropDots given = extension := by
    intro extension
    simp only [Walk.of, List.mem_filter, List.mem_map, ConfigLayer.dropDots]
    constructor
    · rintro ⟨⟨given, isGiven, rfl⟩, filled⟩
      exact ⟨given, isGiven, by simpa using filled, rfl⟩
    · rintro ⟨given, isGiven, filled, rfl⟩
      exact ⟨⟨given, isGiven, rfl⟩, by simpa using filled⟩
  rw [isTemplateName, Path.extension_joinName directory plain]
  constructor
  · intro matching
    cases found : (Path.splitName name).2 with
    | none => simp [found] at matching
    | some ending =>
        obtain ⟨stem, filled, shape, dotless⟩ := (Path.splitName_eq_some_iff name ending).mp found
        rw [found] at matching
        obtain ⟨extension, member, same⟩ := List.any_eq_true.mp matching
        obtain ⟨given, isGiven, nonempty, rfl⟩ := (wanted extension).mp member
        rw [beq_iff_eq] at same
        subst same
        exact ⟨stem, given, filled, isGiven, nonempty, dotless, shape⟩
  · rintro ⟨stem, given, filled, isGiven, nonempty, dotless, shape⟩
    have found := (Path.splitName_eq_some_iff name _).mpr ⟨stem, filled, shape, dotless⟩
    rw [found]
    exact List.any_eq_true.mpr ⟨_, (wanted _).mpr ⟨given, isGiven, nonempty, rfl⟩, by simp⟩

namespace Walk

open FileTree (Precedes Increasing Fits)

/-! ## Templates -/

/-- The names of the templates among the names in a directory. -/
def templateNames (walk : Walk) (files : FileTree) (directory : Path) (names : List Name) :
    List Name :=
  (FileTree.sortBy id names).filter fun name =>
    files.isFile (directory.joinName name) && walk.isTemplateName (directory.joinName name)

section Templates

variable (walk : Walk) (files : FileTree) (directory : Path) (names : List Name)

theorem templatesIn_eq : walk.templatesIn files directory names =
    (walk.templateNames files directory names).map fun name =>
      TemplateSource.ofPath (directory.joinName name) := by
  rw [templatesIn, templateNames, List.filter_map, List.map_map]
  rfl

theorem mem_templateNames_iff (name : Name) :
    name ∈ walk.templateNames files directory names ↔ name ∈ names ∧
      files.isFile (directory.joinName name) = true ∧
      walk.isTemplateName (directory.joinName name) = true := by
  rw [templateNames, List.mem_filter, FileTree.mem_sortBy_iff, Bool.and_eq_true]

theorem templateNames_increasing (distinct : names.Nodup) :
    Increasing (walk.templateNames files directory names) :=
  (FileTree.sortBy_increasing names distinct).filter _

end Templates

/-- The bundle of these templates in a directory that lies below the root by names. -/
def bundleOf (walk : Walk) (directory : Path) (relative : List Name)
    (templates : List TemplateSource) : Bundle :=
  ⟨directory, ⟨Path.joinSegments relative⟩,
    walk.layout.outputFile ⟨Path.joinSegments relative⟩
      ((directory.fileName.map Bytes.toStringLossy).getD ""),
    templates⟩

/-! ## Below the place of the root -/

section Places

variable {walk : Walk} {files : FileTree} {place : Place} {relative : List Name}

/-- The names of the templates in the directory below the root by these names. -/
def templatesAt (walk : Walk) (files : FileTree) (place : Place) (relative : List Name) :
    List Name :=
  walk.templateNames files (walk.root.descend relative) (files.namesIn (place ++ relative))

/-- The names of the directories in the directory below the root by these names. -/
def directoriesAt (files : FileTree) (place : Place) (relative : List Name) : List Name :=
  FileTree.sortBy id ((files.namesIn (place ++ relative)).filter fun name =>
    files.isDirectoryAt (place ++ relative ++ [name]))

theorem mem_directoriesAt_iff (name : Name) : name ∈ directoriesAt files place relative ↔
    files.entry? (place ++ relative ++ [name]) = some .directory := by
  rw [directoriesAt, FileTree.mem_sortBy_iff, List.mem_filter, FileTree.mem_namesIn_iff,
    FileTree.isDirectoryAt, decide_eq_true_eq]
  constructor
  · exact And.right
  · intro found
    exact ⟨by rw [found]; rfl, found⟩

theorem directoriesAt_increasing (wellFormed : files.WellFormed) :
    Increasing (directoriesAt files place relative) :=
  FileTree.sortBy_increasing _ ((wellFormed.nodup_namesIn _).filter _)

theorem directoriesIn_descend (wellFormed : files.WellFormed)
    (reached : files.directoryOf walk.root = .ok place)
    (found : files.entry? (place ++ relative) = some .directory) :
    directoriesIn files (walk.root.descend relative) =
      if Fits walk.root relative then .ok (directoriesAt files place relative)
      else .error .nameTooLong := by
  rw [directoriesIn, FileTree.directoryOf_descend wellFormed reached found]
  split <;> rfl

theorem below_descend (wellFormed : files.WellFormed)
    (reached : files.directoryOf walk.root = .ok place)
    (found : files.entry? (place ++ relative) = some .directory) (own : Bool) :
    (Errand.enter own (walk.root.descend relative) relative).below files =
      if Fits walk.root relative then
        (directoriesAt files place relative).map fun name =>
          .enter true (walk.root.descend (relative ++ [name])) (relative ++ [name])
      else [.report (walk.root.descend relative) .nameTooLong] := by
  rw [Errand.below, directoriesIn_descend wellFormed reached found]
  split
  · simp only [Errand.ofListing, Path.descend_concat]
  · rfl

/-- The bundle of the directory below the root by these names. -/
def bundleOn (walk : Walk) (files : FileTree) (place : Place) (relative : List Name) : Bundle :=
  walk.bundleOf (walk.root.descend relative) relative
    ((walk.templatesAt files place relative).map fun name =>
      TemplateSource.ofPath ((walk.root.descend relative).joinName name))

theorem item?_descend (wellFormed : files.WellFormed)
    (reached : files.directoryOf walk.root = .ok place)
    (found : files.entry? (place ++ relative) = some .directory) :
    (Errand.enter true (walk.root.descend relative) relative).item? walk files =
      if Fits walk.root relative then
        if walk.templatesAt files place relative = [] then none
        else some (.ok (walk.bundleOn files place relative))
      else some (.error (.listing (walk.root.descend relative) .nameTooLong)) := by
  rw [Errand.item?, bundleAt, FileTree.listing,
    FileTree.directoryOf_descend wellFormed reached found]
  by_cases fits : Fits walk.root relative
  · simp only [if_pos fits, bind, Except.bind, pure, Except.pure, Except.mapError,
      templatesIn_eq, List.isEmpty_iff, List.map_eq_nil_iff]
    by_cases empty : walk.templatesAt files place relative = []
    · rw [if_pos empty]
      rw [templatesAt] at empty
      rw [empty]
      rfl
    · rw [if_neg empty]
      rw [templatesAt] at empty
      rw [if_neg empty]
      rfl
  · simp only [if_neg fits, bind, Except.bind, Except.mapError]

end Places

/-! ## The bundles of a walk -/

/-- The items of what was done, in order. -/
def given (walk : Walk) (done : List (Errand × FileTree)) : List Item :=
  done.filterMap fun step => step.1.item? walk step.2

theorem given_cons (walk : Walk) (errand : Errand) (files : FileTree)
    (done : List (Errand × FileTree)) : walk.given ((errand, files) :: done) =
      (errand.item? walk files).toList ++ walk.given done := by
  rw [given, List.filterMap_cons]
  cases errand.item? walk files <;> rfl

theorem given_cons_of_none {walk : Walk} {errand : Errand} {files : FileTree}
    (done : List (Errand × FileTree)) (yields : errand.item? walk files = none) :
    walk.given ((errand, files) :: done) = walk.given done := by
  rw [given_cons, yields]
  rfl

theorem given_cons_of_some {walk : Walk} {errand : Errand} {files : FileTree} {item : Item}
    (done : List (Errand × FileTree)) (yields : errand.item? walk files = some item) :
    walk.given ((errand, files) :: done) = item :: walk.given done := by
  rw [given_cons, yields]
  rfl

/-- The bundles among items. -/
def bundlesAmong (items : List Item) : List Bundle :=
  items.filterMap Except.toOption

/-- The components of the paths of all templates of bundles, in order. -/
def templatePaths (bundles : List Bundle) : List (List Path.Component) :=
  bundles.flatMap fun bundle => bundle.templates.map fun template => template.path.components

/-- The bundle of a directory has the templates there, in the order of their names. -/
theorem bundleAt_eq_some {walk : Walk} {files : FileTree} {directory : Path}
    {relative : List Name} {bundle : Bundle} (wellFormed : files.WellFormed)
    (found : walk.bundleAt files directory relative = .ok (some bundle)) :
    ∃ names, names ≠ [] ∧ Increasing names ∧
      (∀ name ∈ names, Name.Plain name ∧ walk.isTemplateName (directory.joinName name) = true) ∧
      bundle = walk.bundleOf directory relative
        (names.map fun name => TemplateSource.ofPath (directory.joinName name)) := by
  rw [bundleAt, FileTree.listing] at found
  cases reached : files.directoryOf directory with
  | error failure =>
      simp [reached, bind, Except.bind, Except.mapError] at found
  | ok place =>
      simp only [reached, bind, Except.bind, pure, Except.pure, Except.mapError,
        templatesIn_eq, List.isEmpty_iff, List.map_eq_nil_iff] at found
      by_cases empty : walk.templateNames files directory (files.namesIn place) = []
      · rw [if_pos empty] at found
        cases found
      · rw [if_neg empty] at found
        cases found
        refine ⟨_, empty,
          templateNames_increasing walk files directory _ (wellFormed.nodup_namesIn place), ?_, rfl⟩
        intro name member
        obtain ⟨isIn, _, matching⟩ :=
          (mem_templateNames_iff walk files directory _ name).mp member
        exact ⟨wellFormed.plain_of_mem_namesIn isIn, matching⟩

theorem item?_eq_ok {walk : Walk} {files : FileTree} {errand : Errand} {bundle : Bundle}
    (wellFormed : files.WellFormed) (yields : errand.item? walk files = some (.ok bundle)) :
    ∃ directory relative names, errand = .enter true directory relative ∧ names ≠ [] ∧
      Increasing names ∧ (∀ name ∈ names, Name.Plain name) ∧
      bundle = walk.bundleOf directory relative
        (names.map fun name => TemplateSource.ofPath (directory.joinName name)) := by
  cases errand with
  | report directory failure => cases yields
  | enter own directory relative =>
      cases own with
      | false => cases yields
      | true =>
          have found : walk.bundleAt files directory relative = .ok (some bundle) := by
            rw [Errand.item?] at yields
            split at yields <;> cases yields
            assumption
          obtain ⟨names, filled, increasing, named, same⟩ := bundleAt_eq_some wellFormed found
          exact ⟨directory, relative, names, rfl, filled, increasing,
            fun name member => (named name member).1, same⟩

theorem components_template {root : Path} {relative : List Name} {name : Name}
    (plain : ∀ other ∈ relative, Name.Plain other) (last : Name.Plain name) :
    ((root.descend relative).joinName name).components =
      root.components ++ (relative ++ [name]).map .normal := by
  rw [Path.components_joinName last, Path.components_descend root relative plain]
  simp

/-- The components of the paths of the templates of a bundle, read off the names. -/
theorem paths_of_item? {walk : Walk} {files : FileTree} {errand : Errand} {bundle : Bundle}
    (wellFormed : files.WellFormed) (sound : errand.Sound walk.root)
    (yields : errand.item? walk files = some (.ok bundle)) :
    ∃ relative names, errand.relative? = some relative ∧ Increasing names ∧
      (bundle.templates.map fun template => template.path.components) =
        names.map fun name => walk.root.components ++ (relative ++ [name]).map .normal := by
  obtain ⟨directory, relative, names, rfl, _, increasing, plain, rfl⟩ :=
    item?_eq_ok wellFormed yields
  obtain ⟨rfl, plainWay⟩ := sound
  refine ⟨relative, names, rfl, increasing, ?_⟩
  rw [bundleOf, List.map_map, List.map_inj_left]
  intro name member
  exact components_template plainWay (plain name member)

theorem path_injective {root : Path} {first second : List Name}
    (same : root.components ++ first.map .normal = root.components ++ second.map .normal) :
    first = second := by
  rw [List.append_cancel_left_eq] at same
  exact List.map_injective_iff.mpr (fun _ _ => Path.Component.normal.inj) same

/-- No template is in two bundles, nor twice in one. -/
theorem Sweep.templates_nodup (walk : Walk) {agenda left : List Errand}
    {done : List (Errand × FileTree)} (sweep : Sweep agenda done left)
    (wellFormed : ∀ step ∈ done, step.2.WellFormed)
    (sound : ∀ errand ∈ agenda, errand.Sound walk.root)
    (apart : (agenda.filterMap Errand.relative?).Pairwise Apart) :
    (templatePaths (bundlesAmong (walk.given done))).Nodup := by
  have allSound := sweep.sound wellFormed sound
  have ordered := (sweep.ordered wellFormed apart).1
  rw [entered, List.pairwise_filterMap] at ordered
  have bundles : bundlesAmong (walk.given done) =
      done.filterMap fun step => (step.1.item? walk step.2).bind Except.toOption := by
    rw [bundlesAmong, given, List.filterMap_filterMap]
  have yielded : ∀ {item : Option Item} {bundle : Bundle}, item.bind Except.toOption = some bundle →
      item = some (.ok bundle) := by
    intro item bundle found
    match item with
    | none => cases found
    | some (.error _) => cases found
    | some (.ok _) => cases found; rfl
  rw [templatePaths, List.nodup_flatMap, bundles]
  constructor
  · intro bundle member
    obtain ⟨step, isDone, found⟩ := List.mem_filterMap.mp member
    obtain ⟨relative, names, _, increasing, paths⟩ :=
      paths_of_item? (wellFormed step isDone) (allSound step isDone) (yielded found)
    rw [paths]
    apply List.Nodup.map_on _ (List.Pairwise.nodup increasing)
    intro name _ other _ same
    exact List.singleton_inj.mp (List.append_cancel_left (path_injective same))
  · rw [List.pairwise_filterMap]
    apply List.Pairwise.imp_of_mem _ ordered
    intro step other isDone isDoneToo before bundle found another foundToo
    obtain ⟨relative, names, isWay, _, paths⟩ :=
      paths_of_item? (wellFormed step isDone) (allSound step isDone) (yielded found)
    obtain ⟨way, others, isWayToo, _, pathsToo⟩ :=
      paths_of_item? (wellFormed other isDoneToo) (allSound other isDoneToo) (yielded foundToo)
    simp only [Function.onFun]
    rw [paths, pathsToo, List.disjoint_left]
    intro path isIn isInToo
    obtain ⟨name, _, rfl⟩ := List.mem_map.mp isIn
    obtain ⟨last, _, same⟩ := List.mem_map.mp isInToo
    have ways := (List.append_inj' (path_injective same) rfl).1
    subst ways
    exact List.lex_irrefl FileTree.precedes_irrefl _ (before way isWay way isWayToo)

end Walk

end TemplateBuild

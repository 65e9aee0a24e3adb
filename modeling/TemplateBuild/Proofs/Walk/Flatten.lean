import TemplateBuild.Proofs.Text.Utf8
import TemplateBuild.Proofs.Walk.Discovery
import TemplateBuild.Proofs.Walk.Output

/-!
# Where modules go when the hierarchy is flattened

All modules lie directly in the output directory.  Two directories share a module exactly if their
names, read as text and joined with hyphens, spell the same; so they do not if no name has a hyphen
or is not text, and neither has the name that stands for the root.
-/

set_option autoImplicit false

namespace TemplateBuild

namespace Path

variable {base : Path} {first second : Name}

theorem joinName_injective (relative : (⟨first⟩ : Path).isAbsolute = false)
    (relativeToo : (⟨second⟩ : Path).isAbsolute = false)
    (same : base.joinName first = base.joinName second) : first = second := by
  rw [joinName, joinName, join, join, relative, relativeToo] at same
  simp only [Bool.false_eq_true, false_or] at same
  split at same
  · exact congrArg bytes same
  · split at same
    · exact List.append_cancel_left (congrArg bytes same)
    · exact (List.cons.inj (List.append_cancel_left (congrArg bytes same))).2

end Path

/-- A name that is text without hyphens. -/
def Name.Hyphenless (name : Name) : Prop :=
  ∃ text : String, name = Bytes.ofString text ∧ '-' ∉ text.toList

namespace Layout

variable {layout : Layout}

/-! ## Joined names -/

theorem slash_notMem_intercalate {texts : List String}
    (slashless : ∀ text ∈ texts, '/' ∉ text.toList) :
    '/' ∉ (flattenSeparator.intercalate texts).toList := by
  induction texts with
  | nil => decide
  | cons text rest ih =>
      rw [List.forall_mem_cons] at slashless
      by_cases last : rest = []
      · rw [last, String.intercalate_singleton]
        exact slashless.1
      · rw [String.intercalate_cons_of_ne_nil last, String.toList_append, String.toList_append,
          List.mem_append, List.mem_append, not_or, not_or]
        exact ⟨⟨slashless.1, by decide⟩, ih slashless.2⟩

theorem splitOn_intercalate {texts : List String} (filled : texts ≠ [])
    (hyphenless : ∀ text ∈ texts, '-' ∉ text.toList) :
    (flattenSeparator.intercalate texts).toList.splitOn '-' = texts.map String.toList := by
  have separator : flattenSeparator.toList = ['-'] := rfl
  rw [String.toList_intercalate, separator, List.splitOn_intercalate]
  · intro text member
    obtain ⟨other, isIn, rfl⟩ := List.mem_map.mp member
    exact hyphenless other isIn
  · rwa [ne_eq, List.map_eq_nil_iff]

/-- Texts without hyphens can be told from what they are joined to; none stand for the root. -/
theorem splitOn_orRootName {texts : List String} (filled : ∀ text ∈ texts, text ≠ "")
    (hyphenless : ∀ text ∈ texts, '-' ∉ text.toList) :
    (orRootName (flattenSeparator.intercalate texts)).toList.splitOn '-' =
      (if texts = [] then [rootName] else texts).map String.toList := by
  split
  · next none =>
    rw [none]
    decide
  · next some =>
    have split := splitOn_intercalate some hyphenless
    rw [orRootName, if_neg, split]
    intro empty
    rw [String.isEmpty_iff.mp empty] at split
    have only : texts = [""] := by
      apply List.map_injective_iff.mpr fun _ _ => String.toList_inj.mp
      exact split.symm
    exact filled "" (by rw [only]; exact List.mem_singleton_self _) rfl

theorem flattenedName_joinSegments {names : List Name} (plain : ∀ name ∈ names, Name.Plain name) :
    flattenedName ⟨Path.joinSegments names⟩ =
      flattenSeparator.intercalate (names.map Bytes.toStringLossy) := by
  rw [flattenedName, Path.normalNames_joinSegments names plain]

theorem slash_notMem_flattenedName {names : List Name} (plain : ∀ name ∈ names, Name.Plain name) :
    '/' ∉ (flattenedName ⟨Path.joinSegments names⟩).toList := by
  rw [flattenedName_joinSegments plain]
  apply slash_notMem_intercalate
  intro text member
  obtain ⟨name, isIn, rfl⟩ := List.mem_map.mp member
  exact Bytes.slash_notMem_toStringLossy (plain name isIn).slashless

/-! ## Names that flattening keeps apart -/

/-- The directory below the root has names without hyphens and does not have the name that stands
for the root. -/
structure Unblurred (names : List Name) : Prop where
  hyphenless : ∀ name ∈ names, Name.Hyphenless name
  notRoot : names ≠ [Bytes.ofString rootName]

theorem texts_of_hyphenless {names : List Name}
    (hyphenless : ∀ name ∈ names, Name.Hyphenless name) :
    ∃ texts : List String, names = texts.map Bytes.ofString ∧
      ∀ text ∈ texts, '-' ∉ text.toList := by
  induction names with
  | nil => exact ⟨[], rfl, fun _ member => absurd member List.not_mem_nil⟩
  | cons name rest ih =>
      rw [List.forall_mem_cons] at hyphenless
      obtain ⟨⟨text, rfl, noHyphen⟩, others⟩ := hyphenless
      obtain ⟨texts, rfl, noHyphens⟩ := ih others
      exact ⟨text :: texts, rfl, List.forall_mem_cons.mpr ⟨noHyphen, noHyphens⟩⟩

/-- The names of the directory can be told from the name of its module. -/
theorem splitOn_flattenedName {names : List Name} (plain : ∀ name ∈ names, Name.Plain name)
    (unblurred : Unblurred names) : ∃ texts : List String, names = texts.map Bytes.ofString ∧
      texts ≠ [rootName] ∧
      (orRootName (flattenedName ⟨Path.joinSegments names⟩)).toList.splitOn '-' =
        (if texts = [] then [rootName] else texts).map String.toList := by
  obtain ⟨texts, rfl, noHyphens⟩ := texts_of_hyphenless unblurred.hyphenless
  refine ⟨texts, rfl, ?_, ?_⟩
  · rintro rfl
    exact unblurred.notRoot rfl
  · have filled : ∀ text ∈ texts, text ≠ "" := by
      intro text member
      have nonempty := (plain _ (List.mem_map_of_mem member)).nonempty
      rwa [ne_eq, Bytes.ofString_eq_nil_iff] at nonempty
    have same : (texts.map Bytes.ofString).map Bytes.toStringLossy = texts := by
      rw [List.map_map]
      exact (List.map_congr_left fun text _ => Bytes.toStringLossy_ofString text).trans
        (List.map_id texts)
    rw [flattenedName_joinSegments plain, same, splitOn_orRootName filled noHyphens]

theorem flattenedName_injective {first second : List Name}
    (plain : ∀ name ∈ first, Name.Plain name) (plainToo : ∀ name ∈ second, Name.Plain name)
    (unblurred : Unblurred first) (unblurredToo : Unblurred second)
    (same : orRootName (flattenedName ⟨Path.joinSegments first⟩) =
      orRootName (flattenedName ⟨Path.joinSegments second⟩)) : first = second := by
  obtain ⟨texts, rfl, notRoot, split⟩ := splitOn_flattenedName plain unblurred
  obtain ⟨others, rfl, notRootToo, splitToo⟩ := splitOn_flattenedName plainToo unblurredToo
  rw [same, splitToo] at split
  have whole := List.map_injective_iff.mpr (fun _ _ => String.toList_inj.mp) split
  split at whole
  · next none =>
    split at whole
    · next noneToo => rw [none, noneToo]
    · exact absurd whole.symm notRoot
  · split at whole
    · exact absurd whole notRootToo
    · rw [whole]

/-! ## Output files -/

theorem outputFile_flatten (flattens : layout.hierarchy = .flatten) (relative : Path)
    (directoryName : String) : layout.outputFile relative directoryName =
      layout.output.joinName (layout.moduleFile (flattenedName relative)) := by
  rw [outputFile, flattens]
  rfl

theorem moduleName_injective {first second : String}
    (same : layout.moduleName first = layout.moduleName second) : first = second := by
  rw [moduleName, moduleName] at same
  split at same
  · exact same
  · rw [String.append_assoc, String.append_assoc] at same
    exact String.append_left_inj _ |>.mp same

theorem isAbsolute_moduleFile {name : String} (slashless : '/' ∉ name.toList) :
    (⟨layout.moduleFile name⟩ : Path).isAbsolute = false := by
  have begins : ∃ ending, layout.moduleName (orRootName name) = orRootName name ++ ending := by
    rw [moduleName]
    split
    · exact ⟨"", String.append_empty.symm⟩
    · exact ⟨"." ++ layout.extension, String.append_assoc ..⟩
  obtain ⟨ending, shape⟩ := begins
  have filled : Bytes.ofString (orRootName name) ≠ [] := by
    rw [ne_eq, Bytes.ofString_eq_nil_iff]
    exact orRootName_ne_empty name
  have inner : Path.slash ∉ Bytes.ofString (orRootName name) := by
    rw [Bytes.mem_ofString_iff (by decide)]
    rintro ⟨character, member, same⟩
    obtain rfl : character = '/' := Char.ext (UInt32.toNat_inj.mp same)
    exact notMem_orRootName (by decide) slashless member
  rw [Path.isAbsolute, decide_eq_false_iff_not, moduleFile, shape, Bytes.ofString_append,
    List.head?_append_of_ne_nil _ filled]
  exact fun first => inner (List.mem_of_mem_head? first)

/-- Two directories have the same output file exactly if their names spell the same. -/
theorem outputFile_flatten_eq_iff (flattens : layout.hierarchy = .flatten)
    {first second : List Name} (plain : ∀ name ∈ first, Name.Plain name)
    (plainToo : ∀ name ∈ second, Name.Plain name) (firstName secondName : String) :
    layout.outputFile ⟨Path.joinSegments first⟩ firstName =
        layout.outputFile ⟨Path.joinSegments second⟩ secondName ↔
      orRootName (flattenedName ⟨Path.joinSegments first⟩) =
        orRootName (flattenedName ⟨Path.joinSegments second⟩) := by
  rw [outputFile_flatten flattens, outputFile_flatten flattens]
  constructor
  · intro same
    exact moduleName_injective (Bytes.ofString_injective (Path.joinName_injective
      (isAbsolute_moduleFile (slash_notMem_flattenedName plain))
      (isAbsolute_moduleFile (slash_notMem_flattenedName plainToo)) same))
  · intro same
    rw [moduleFile, moduleFile, same]

end Layout

/-! ## Bundles -/

namespace Bundle

/-- What the name of the module spells, if the hierarchy is flattened. -/
def spelling (bundle : Bundle) : String :=
  Layout.orRootName (Layout.flattenedName bundle.relativeDirectory)

/-- Flattening keeps the directory of the bundle apart from others. -/
def Unblurred (bundle : Bundle) : Prop :=
  Layout.Unblurred bundle.relativeDirectory.normalNames

/-- When two bundles share a module: exactly if it is spelled the same for both, and never if
flattening keeps their directories apart. -/
structure Parted (bundle another : Bundle) : Prop where
  shared : bundle.outputFile = another.outputFile ↔ bundle.spelling = another.spelling
  own : bundle.Unblurred → another.Unblurred → bundle.outputFile = another.outputFile →
    bundle.relativeDirectory = another.relativeDirectory

end Bundle

namespace Walk

variable {walk : Walk} {files : FileTree}

/-- A bundle lies below the root by these names, and its module goes where the layout says. -/
structure Places (walk : Walk) (names : List Name) (bundle : Bundle) : Prop where
  plain : ∀ name ∈ names, Name.Plain name
  relative : bundle.relativeDirectory = ⟨Path.joinSegments names⟩
  output : ∃ directoryName, bundle.outputFile =
    walk.layout.outputFile bundle.relativeDirectory directoryName
  templates : bundle.templates ≠ []

/-- The name of the module of a bundle, if the hierarchy is flattened. -/
def flatFile (walk : Walk) (bundle : Bundle) : Name :=
  walk.layout.moduleFile (Layout.flattenedName bundle.relativeDirectory)

/-- The module of a bundle has a name of its own right in the output directory. -/
structure EmitsFlat (walk : Walk) (bundle : Bundle) : Prop where
  path : bundle.outputFile = walk.layout.output.joinName (walk.flatFile bundle)
  plain : Name.Plain (walk.flatFile bundle)

namespace Places

variable {names others : List Name} {bundle another : Bundle}

theorem normalNames (places : walk.Places names bundle) :
    bundle.relativeDirectory.normalNames = names := by
  rw [places.relative, Path.normalNames_joinSegments names places.plain]

theorem parted (flattens : walk.layout.hierarchy = .flatten)
    (places : walk.Places names bundle) (placesToo : walk.Places others another) :
    bundle.Parted another := by
  have shared : bundle.outputFile = another.outputFile ↔ bundle.spelling = another.spelling := by
    obtain ⟨directoryName, output⟩ := places.output
    obtain ⟨otherName, outputToo⟩ := placesToo.output
    rw [Bundle.spelling, Bundle.spelling, output, outputToo, places.relative, placesToo.relative]
    exact Layout.outputFile_flatten_eq_iff flattens places.plain placesToo.plain directoryName
      otherName
  refine ⟨shared, fun unblurred unblurredToo same => ?_⟩
  rw [Bundle.Unblurred, places.normalNames] at unblurred
  rw [Bundle.Unblurred, placesToo.normalNames] at unblurredToo
  rw [shared, Bundle.spelling, Bundle.spelling, places.relative, placesToo.relative] at same
  rw [places.relative, placesToo.relative, Layout.flattenedName_injective places.plain
    placesToo.plain unblurred unblurredToo same]

theorem outputFile_flatten (flattens : walk.layout.hierarchy = .flatten)
    (places : walk.Places names bundle) :
    bundle.outputFile = walk.layout.output.joinName (walk.flatFile bundle) := by
  obtain ⟨directoryName, output⟩ := places.output
  rw [output, Layout.outputFile_flatten flattens, flatFile]

/-- Where the module of a bundle goes, once it could be stored. -/
theorem emitsFlat_of_stored (flattens : walk.layout.hierarchy = .flatten)
    (slashless : '/' ∉ walk.layout.extension.toList) (places : walk.Places names bundle)
    {before after : FileTree} {content : Bytes}
    (stored : before.Stores bundle.outputFile content after) : walk.EmitsFlat bundle := by
  have path := places.outputFile_flatten flattens
  have inner : Path.slash ∉ walk.flatFile bundle := by
    apply Layout.slash_notMem_moduleFile slashless
    rw [places.relative]
    exact Layout.slash_notMem_flattenedName places.plain
  obtain ⟨checked, ends, bare⟩ := stored.endsInName
  rw [path] at checked ends bare
  exact ⟨path, Path.plain_of_endsInName (Layout.moduleFile_ne_nil _ _) inner checked ends bare⟩

end Places

theorem places_of_item? {errand : Errand} {bundle : Bundle} (wellFormed : files.WellFormed)
    (sound : errand.Sound walk.root) (yields : errand.item? walk files = some (.ok bundle)) :
    ∃ names, errand.relative? = some names ∧ walk.Places names bundle := by
  obtain ⟨directory, relative, names, rfl, filled, _, _, rfl⟩ := item?_eq_ok wellFormed yields
  obtain ⟨rfl, plain⟩ := sound
  refine ⟨relative, rfl, plain, rfl, ⟨_, rfl⟩, ?_⟩
  rw [bundleOf, ne_eq, List.map_eq_nil_iff]
  exact filled

/-- All bundles of a walk lie below the root, and no two in the same directory. -/
theorem Sweep.places (walk : Walk) {agenda left : List Errand} {done : List (Errand × FileTree)}
    (sweep : Sweep agenda done left) (wellFormed : ∀ step ∈ done, step.2.WellFormed)
    (sound : ∀ errand ∈ agenda, errand.Sound walk.root)
    (apart : (agenda.filterMap Errand.relative?).Pairwise Apart) :
    (∀ bundle, .ok bundle ∈ walk.given done → ∃ names, walk.Places names bundle) ∧
      (walk.given done).Pairwise fun item other => ∀ bundle another, item = .ok bundle →
        other = .ok another → bundle.relativeDirectory ≠ another.relativeDirectory := by
  have allSound := sweep.sound wellFormed sound
  have ordered := (sweep.ordered wellFormed apart).1
  rw [entered, List.pairwise_filterMap] at ordered
  constructor
  · intro bundle member
    obtain ⟨step, isDone, yields⟩ := List.mem_filterMap.mp member
    obtain ⟨names, _, places⟩ :=
      places_of_item? (wellFormed step isDone) (allSound step isDone) yields
    exact ⟨names, places⟩
  · rw [given, List.pairwise_filterMap]
    apply List.Pairwise.imp_of_mem _ ordered
    rintro step other isDone isDoneToo before _ yields _ yieldsToo bundle another rfl rfl same
    obtain ⟨names, isWay, places⟩ :=
      places_of_item? (wellFormed step isDone) (allSound step isDone) yields
    obtain ⟨others, isWayToo, placesToo⟩ :=
      places_of_item? (wellFormed other isDoneToo) (allSound other isDoneToo) yieldsToo
    have ways : names = others := by
      rw [← places.normalNames, same, placesToo.normalNames]
    exact List.lex_irrefl FileTree.precedes_irrefl _ (ways ▸ before names isWay others isWayToo)

theorem places_of_mem_items (wellFormed : files.WellFormed) {bundle : Bundle}
    (member : .ok bundle ∈ (walk.items files).1) : ∃ names, walk.Places names bundle := by
  obtain ⟨done, sweep, same, items⟩ := items_sweep walk wellFormed
  obtain ⟨sound, apart⟩ := begin_sound walk files
  rw [items] at member
  exact (sweep.places walk (fun step isDone => same step isDone ▸ wellFormed) sound apart).1
    bundle member

end Walk

end TemplateBuild

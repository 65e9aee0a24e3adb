import TemplateBuild.Proofs.FileTree.Growing
import TemplateBuild.Proofs.Path.Endings
import TemplateBuild.Proofs.Text.Bytes
import TemplateBuild.Proofs.Walk.Directory

/-!
# Where modules go when the hierarchy is preserved

The module of a directory lies below the output directory as the directory lies below the root,
and has one more name.  So no two directories share a module.
-/

set_option autoImplicit false

namespace TemplateBuild

namespace Path

/-- The name at the end of a path is one of the pieces between its slashes. -/
theorem mem_segments_of_fileName {path : Path} {name : Name} (found : path.fileName = some name) :
    name ∈ path.segments := by
  rw [fileName] at found
  split at found
  · next last isLast =>
    cases found
    have member := List.mem_of_getLast? isLast
    rw [components] at member
    split at member
    · cases member
    · split at member
      · cases member
      · next first rest shape =>
        rw [shape]
        rcases List.mem_cons.mp member with leading | others
        · rw [leadingComponent] at leading
          split at leading
          · cases leading
          · split at leading
            · cases leading
            · split at leading
              · cases leading
              · cases leading
                exact List.mem_cons_self ..
        · obtain ⟨segment, isIn, reads⟩ := List.mem_filterMap.mp others
          rw [componentOf] at reads
          split at reads
          · cases reads
          · split at reads
            · cases reads
            · cases reads
              exact List.mem_cons_of_mem _ isIn
  · cases found

theorem slash_notMem_fileName {path : Path} {name : Name} (found : path.fileName = some name) :
    slash ∉ name :=
  (slash_notMem_of_mem_segmentsOf _ _ (mem_segments_of_fileName found)).1

theorem zero_notMem_fileName {path : Path} {name : Name} (zeroless : (0 : UInt8) ∉ path.bytes)
    (found : path.fileName = some name) : (0 : UInt8) ∉ name :=
  fun zero => zeroless
    ((slash_notMem_of_mem_segmentsOf _ _ (mem_segments_of_fileName found)).2 0 zero)

theorem components_join_names (base : Path) (names : List Name)
    (plain : ∀ name ∈ names, Name.Plain name) :
    (base.join ⟨joinSegments names⟩).components = base.components ++ names.map .normal := by
  by_cases empty : base.bytes = []
  · rw [join_of_isEmpty _ empty, components_joinSegments names plain]
    simp [components, isEmpty, empty]
  · rw [components_join_joinSegments empty names plain, components_descend base names plain]

theorem mem_joinName {base : Path} {name : Name} {byte : UInt8} (member : byte ∈ name) :
    byte ∈ (base.joinName name).bytes := by
  rw [joinName, join]
  split
  · exact member
  · split
    · exact List.mem_append_right _ member
    · exact List.mem_append_right _ (List.mem_cons_of_mem _ member)

/-- A name without slashes at which a file can be has all that names have. -/
theorem plain_of_endsInName {base : Path} {name : Name} (nonempty : name ≠ [])
    (slashless : slash ∉ name) (checked : FileTree.checkPath (base.joinName name) = .ok ())
    (ends : FileTree.endsInName (base.joinName name) = true)
    (bare : (base.joinName name).hasSlashAtEnd = false) : Name.Plain name := by
  have zeroless := (FileTree.checkPath_eq_ok_iff.mp checked).1
  have entered : moveOf name ≠ .stay ∧ moveOf name ≠ .up := by
    rw [FileTree.endsInName, dropSlashes_eq bare, joinName,
      moves_join_slashless base slashless nonempty,
      way_join (isAbsolute_of_slashless slashless), way, way,
      segments_of_slashless slashless] at ends
    simp only [ne_eq, nonempty, not_false_eq_true, decide_true, List.filter_cons_of_pos,
      List.filter_nil, List.map_cons, List.map_nil, List.getLast?_concat] at ends
    constructor
    · intro stays
      rw [stays] at ends
      cases ends
    · intro goesUp
      rw [goesUp] at ends
      cases ends
  refine ⟨nonempty, ?_, ?_, slashless, fun member => zeroless (mem_joinName member)⟩
  · rintro rfl
    exact entered.1 rfl
  · rintro rfl
    exact entered.2 rfl

end Path

namespace Layout

variable {layout : Layout}

/-- The name of a module. -/
def moduleFile (layout : Layout) (directoryName : String) : Name :=
  Bytes.ofString (layout.moduleName (orRootName directoryName))

theorem outputFile_preserve (preserves : layout.hierarchy = .preserve) (relative : Path)
    (directoryName : String) : layout.outputFile relative directoryName =
      (layout.output.join relative).joinName (layout.moduleFile directoryName) := by
  rw [outputFile, preserves]
  rfl

theorem orRootName_ne_empty (name : String) : orRootName name ≠ "" := by
  rw [orRootName]
  split
  · decide
  · next filled =>
    rintro rfl
    exact filled rfl

theorem notMem_orRootName {character : Char} {name : String} (other : character ∉ rootName.toList)
    (inner : character ∉ name.toList) : character ∉ (orRootName name).toList := by
  rw [orRootName]
  split
  · exact other
  · exact inner

theorem moduleFile_ne_nil (layout : Layout) (directoryName : String) :
    layout.moduleFile directoryName ≠ [] := by
  rw [moduleFile, ne_eq, Bytes.ofString_eq_nil_iff, moduleName]
  split
  · exact orRootName_ne_empty directoryName
  · intro empty
    have lists := congrArg String.toList empty
    simp at lists

/-- A byte below 128 comes into the name of a module with the directory or with the extension. -/
theorem notMem_moduleFile {byte : UInt8} {character : Char} (low : byte.toNat < 128)
    (same : character.toNat = byte.toNat)
    (other : character ∉ (rootName ++ ".").toList)
    (absent : character ∉ layout.extension.toList) {directoryName : String}
    (inner : character ∉ directoryName.toList) : byte ∉ layout.moduleFile directoryName := by
  rw [String.toList_append, List.mem_append, not_or] at other
  have stem := notMem_orRootName other.1 inner
  have whole : character ∉ (layout.moduleName (orRootName directoryName)).toList := by
    rw [moduleName]
    split
    · exact stem
    · rw [String.toList_append, String.toList_append, List.mem_append, List.mem_append]
      rintro ((inStem | inDot) | inExtension)
      · exact stem inStem
      · exact other.2 inDot
      · exact absent inExtension
  rw [moduleFile, Bytes.mem_ofString_iff low]
  rintro ⟨found, member, sameToo⟩
  have isCharacter : found = character := Char.ext (UInt32.toNat_inj.mp (sameToo.trans same.symm))
  rw [isCharacter] at member
  exact whole member

theorem slash_notMem_moduleFile (slashless : '/' ∉ layout.extension.toList)
    {directoryName : String} (inner : '/' ∉ directoryName.toList) :
    Path.slash ∉ layout.moduleFile directoryName :=
  notMem_moduleFile (by decide) rfl (by decide) slashless inner

/-- With an extension, the name of a module ends in it. -/
theorem moduleFile_eq (filled : layout.extension ≠ "") (directoryName : String) :
    layout.moduleFile directoryName = Bytes.ofString (orRootName directoryName) ++
      Path.dot :: Bytes.ofString layout.extension := by
  rw [moduleFile, moduleName, if_neg (by simpa using filled), Bytes.ofString_append,
    Bytes.ofString_append, List.append_assoc]
  rfl

theorem two_lt_length_moduleFile (filled : layout.extension ≠ "") (directoryName : String) :
    2 < (layout.moduleFile directoryName).length := by
  have stem := List.length_pos_iff.mpr
    (mt (Bytes.ofString_eq_nil_iff _).mp (orRootName_ne_empty directoryName))
  have ending := List.length_pos_iff.mpr (mt (Bytes.ofString_eq_nil_iff _).mp filled)
  rw [moduleFile_eq filled, List.length_append, List.length_cons]
  omega

/-- With an extension, the name of a module is one that a file can have. -/
theorem plain_moduleFile (filled : layout.extension ≠ "")
    (slashless : '/' ∉ layout.extension.toList) (zeroless : '\x00' ∉ layout.extension.toList)
    {directoryName : String} (inner : '/' ∉ directoryName.toList)
    (innerZeroless : '\x00' ∉ directoryName.toList) :
    Name.Plain (layout.moduleFile directoryName) := by
  have long := two_lt_length_moduleFile filled directoryName
  refine ⟨moduleFile_ne_nil layout directoryName, ?_, ?_,
    slash_notMem_moduleFile slashless inner,
    notMem_moduleFile (by decide) rfl (by decide) zeroless innerZeroless⟩
  · intro current
    rw [current] at long
    exact absurd long (by decide)
  · intro parent
    rw [parent] at long
    exact absurd long (by decide)

/-- The place of a file whose directory lies below the output directory. -/
theorem landingOf_output (files : FileTree) (output : Path) {relative : List Name} {name : Name}
    (plainWay : ∀ other ∈ relative, Name.Plain other) (plain : Name.Plain name) :
    files.landingOf ((output.join ⟨Path.joinSegments relative⟩).joinName name) =
      FileTree.landing (files.startPlace output) output.way ++ relative ++ [name] := by
  have below := Path.isAbsolute_joinSegments relative plainWay
  have start : files.startPlace ((output.join ⟨Path.joinSegments relative⟩).joinName name) =
      files.startPlace output := by
    rw [FileTree.startPlace, FileTree.startPlace, Path.joinName,
      Path.isAbsolute_join (Path.isAbsolute_of_slashless plain.slashless),
      Path.isAbsolute_join below]
  rw [FileTree.landingOf, start, Path.joinName,
    Path.moves_join_slashless _ plain.slashless plain.nonempty,
    Path.way_join (Path.isAbsolute_of_slashless plain.slashless), Path.way_join below,
    Path.way_joinSegments relative plainWay, Path.way_name plain, FileTree.landing_append,
    FileTree.landing_append, FileTree.landing_enters]
  exact FileTree.landing_enters [name] _

theorem components_output (output : Path) {relative : List Name} {name : Name}
    (plainWay : ∀ other ∈ relative, Name.Plain other) (plain : Name.Plain name) :
    ((output.join ⟨Path.joinSegments relative⟩).joinName name).components =
      output.components ++ (relative ++ [name]).map .normal := by
  rw [Path.components_joinName plain, Path.components_join_names output relative plainWay]
  simp

end Layout

namespace Walk

variable {walk : Walk}

/-- The name of the module of a directory. -/
def moduleFile (walk : Walk) (directory : Path) : Name :=
  walk.layout.moduleFile ((directory.fileName.map Bytes.toStringLossy).getD "")

theorem slash_notMem_moduleFile (slashless : '/' ∉ walk.layout.extension.toList)
    (directory : Path) : Path.slash ∉ walk.moduleFile directory := by
  apply Layout.slash_notMem_moduleFile slashless
  cases found : directory.fileName with
  | none => decide
  | some name => exact Bytes.slash_notMem_toStringLossy (Path.slash_notMem_fileName found)

theorem plain_moduleFile (filled : walk.layout.extension ≠ "")
    (slashless : '/' ∉ walk.layout.extension.toList)
    (zeroless : '\x00' ∉ walk.layout.extension.toList) {directory : Path}
    (clean : (0 : UInt8) ∉ directory.bytes) : Name.Plain (walk.moduleFile directory) := by
  rw [moduleFile]
  cases found : directory.fileName with
  | none => exact Layout.plain_moduleFile filled slashless zeroless (by decide) (by decide)
  | some name =>
      exact Layout.plain_moduleFile filled slashless zeroless
        (Bytes.slash_notMem_toStringLossy (Path.slash_notMem_fileName found))
        (Bytes.notMem_toStringLossy (by decide) (Path.zero_notMem_fileName clean found) rfl)

/-- Where the module of a directory goes. -/
structure Emits (walk : Walk) (relative : List Name) (bundle : Bundle) (name : Name) : Prop where
  path : bundle.outputFile =
    (walk.layout.output.join ⟨Path.joinSegments relative⟩).joinName name
  plain : Name.Plain name

namespace Emits

variable {way other : List Name} {bundle another : Bundle} {name last : Name}

theorem descend (emits : walk.Emits way bundle name) (plainWay : ∀ each ∈ way, Name.Plain each) :
    bundle.outputFile = walk.layout.output.descend (way ++ [name]) := by
  rw [emits.path, Path.joinName_join_joinSegments _ plainWay emits.plain]

/-- Modules at the same place are of the same directory. -/
theorem eq_of_landing (files : FileTree) (emits : walk.Emits way bundle name)
    (emitsToo : walk.Emits other another last) (plainWay : ∀ each ∈ way, Name.Plain each)
    (plainOther : ∀ each ∈ other, Name.Plain each)
    (same : files.landingOf bundle.outputFile = files.landingOf another.outputFile) :
    way = other := by
  rw [emits.path, emitsToo.path, Layout.landingOf_output files _ plainWay emits.plain,
    Layout.landingOf_output files _ plainOther emitsToo.plain] at same
  exact List.append_cancel_left (List.append_inj' same rfl).1

/-- Modules with the same path are of the same directory. -/
theorem eq_of_components (emits : walk.Emits way bundle name)
    (emitsToo : walk.Emits other another last) (plainWay : ∀ each ∈ way, Name.Plain each)
    (plainOther : ∀ each ∈ other, Name.Plain each)
    (same : bundle.outputFile.components = another.outputFile.components) : way = other := by
  rw [emits.path, emitsToo.path, Layout.components_output _ plainWay emits.plain,
    Layout.components_output _ plainOther emitsToo.plain, List.append_cancel_left_eq] at same
  have names := List.map_injective_iff.mpr (fun _ _ => Path.Component.normal.inj) same
  exact (List.append_inj' names rfl).1

end Emits

theorem emits_of_preserve (preserves : walk.layout.hierarchy = .preserve) (files : FileTree)
    (place : Place) {relative : List Name}
    (plain : Name.Plain (walk.moduleFile (walk.root.descend relative))) :
    walk.Emits relative (walk.bundleOn files place relative)
      (walk.moduleFile (walk.root.descend relative)) :=
  ⟨Layout.outputFile_preserve preserves _ _, plain⟩

/-- What could be written has a name that a file can have. -/
theorem emits_of_stored (preserves : walk.layout.hierarchy = .preserve)
    (slashless : '/' ∉ walk.layout.extension.toList) {files : FileTree} {place : Place}
    {relative : List Name} {before after : FileTree} {content : Bytes}
    (stored : before.Stores (walk.bundleOn files place relative).outputFile content after) :
    walk.Emits relative (walk.bundleOn files place relative)
      (walk.moduleFile (walk.root.descend relative)) := by
  have path : (walk.bundleOn files place relative).outputFile =
      (walk.layout.output.join ⟨Path.joinSegments relative⟩).joinName
        (walk.moduleFile (walk.root.descend relative)) :=
    Layout.outputFile_preserve preserves _ _
  obtain ⟨checked, ends, bare⟩ := stored.endsInName
  rw [path] at checked ends bare
  exact emits_of_preserve preserves files place (Path.plain_of_endsInName
    (Layout.moduleFile_ne_nil _ _) (slash_notMem_moduleFile slashless _) checked ends bare)

end Walk

end TemplateBuild

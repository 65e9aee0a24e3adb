import TemplateBuild.Proofs.Engine.Resolving
import TemplateBuild.Proofs.FileTree.Entering

/-!
# Names of engines

A name is accepted exactly if, read as a path, it is one name and nothing else, and has neither a
backslash nor a zero.  Joined to whatever directory it comes last, so what the joined path leads to
lies directly in that directory.
-/

set_option autoImplicit false

namespace TemplateBuild

/-! ## Paths that are one name -/

theorem Path.leadingComponent_eq_normal {segment : Bytes} {name : Name}
    (normal : leadingComponent segment = .normal name) : segment = name ∧ name ≠ [] ∧
      name ≠ currentSegment ∧ name ≠ parentSegment := by
  rw [leadingComponent] at normal
  split at normal
  · cases normal
  · next nonempty =>
    split at normal
    · cases normal
    · next notCurrent =>
      split at normal
      · cases normal
      · next notParent =>
        cases normal
        exact ⟨rfl, nonempty, notCurrent, notParent⟩

theorem Path.components_eq_self_iff (path : Path) : path.components = [.normal path.bytes] ↔
    path.bytes ≠ [] ∧ path.bytes ≠ currentSegment ∧ path.bytes ≠ parentSegment ∧
      slash ∉ path.bytes := by
  obtain ⟨first, rest, shape⟩ := List.exists_cons_of_ne_nil (segmentsOf_ne_nil path.bytes)
  constructor
  · intro alone
    have filled : path.bytes ≠ [] := by
      intro empty
      rw [components, isEmpty, empty] at alone
      cases alone
    rw [components_of_nonempty filled shape, List.cons.injEq] at alone
    obtain ⟨same, nonempty, notCurrent, notParent⟩ := leadingComponent_eq_normal alone.1
    have slashless := slash_notMem_of_mem_segmentsOf path.bytes first (by simp [shape])
    rw [same] at slashless
    exact ⟨nonempty, notCurrent, notParent, slashless.1⟩
  · rintro ⟨nonempty, notCurrent, notParent, slashless⟩
    rw [components_of_nonempty nonempty (segments_of_slashless slashless)]
    simp [leadingComponent, nonempty, notCurrent, notParent]

theorem Path.joinName_bytes (base : Path) {name : Name} (plain : Name.Plain name) :
    ∃ between, (base.joinName name).bytes = base.bytes ++ between ++ name := by
  have relative := isAbsolute_of_slashless plain.slashless
  rw [joinName, join, relative]
  by_cases empty : base.bytes = []
  · exact ⟨[], by simp [isEmpty, empty]⟩
  · by_cases slashed : base.bytes.getLast? = some slash
    · exact ⟨[], by simp [isEmpty, empty, slashed]⟩
    · exact ⟨[slash], by simp [isEmpty, empty, slashed]⟩

/-! ## Where joined names lie -/

namespace FileTree

/-- The place of the directory in which a name is looked up that is joined to the path: the working
directory, if the path is empty. -/
def baseOf (tree : FileTree) (base : Path) : Except FileFailure Place :=
  if base.isEmpty then .ok tree.working else tree.directoryOf base

section

variable {tree : FileTree} {base : Path} {name : Name} {directory place : Place}

theorem hosts_empty_iff : tree.Hosts ⟨[]⟩ directory ↔ directory = tree.working := by
  have still : (⟨[]⟩ : Path).way = [] := rfl
  have working : tree.startPlace ⟨[]⟩ = tree.working := rfl
  rw [Hosts, still, working, ← follow_eq_ok_iff, follow_nil]
  simp [eq_comm]

theorem directoryOf_of_hosts (checked : checkPath base = .ok ())
    (hosts : tree.Hosts base directory) : tree.directoryOf base = .ok directory := by
  rw [directoryOf_eq_ok_iff, find_eq_ok_iff, locateThrough_eq_ok_iff, Path.moves_eq]
  refine ⟨checked, ?_⟩
  split
  · exact hosts.staying true
  · rw [List.append_nil]
    exact hosts

/-- What a path begins with is accepted if the path is, unless it is empty. -/
theorem checkPath_of_joinName (plain : Name.Plain name) (filled : base.bytes ≠ [])
    (checked : checkPath (base.joinName name) = .ok ()) : checkPath base = .ok () := by
  obtain ⟨zeroless, _, short⟩ := checkPath_eq_ok_iff.mp checked
  have longer := Path.length_lt_joinName base plain.nonempty plain.slashless
  obtain ⟨between, whole⟩ := Path.joinName_bytes base plain
  refine checkPath_eq_ok_iff.mpr ⟨fun zero => zeroless ?_, filled, by omega⟩
  rw [whole]
  exact List.mem_append_left _ (List.mem_append_left _ zero)

theorem baseOf_of_destination (plain : Name.Plain name)
    (reached : tree.destination (base.joinName name) = .ok place) :
    ∃ directory, tree.baseOf base = .ok directory ∧ place = directory ++ [name] := by
  obtain ⟨directory, hosts, rfl⟩ := hosts_of_destination plain reached
  refine ⟨directory, ?_, rfl⟩
  obtain ⟨arrival, located, _⟩ := destination_eq_ok_iff.mp reached
  have checked := (locateItself_eq_ok_iff.mp located).1
  obtain ⟨bytes⟩ := base
  cases bytes with
  | nil => rw [hosts_empty_iff.mp hosts]; rfl
  | cons first rest =>
      have filled : (⟨first :: rest⟩ : Path).bytes ≠ [] := List.cons_ne_nil _ _
      exact directoryOf_of_hosts (checkPath_of_joinName plain filled checked) hosts

/-- The last name of a path is not followed any further. -/
theorem follow_last (tree : FileTree) (links : Nat) (place : Place) (name : Name) :
    (∃ arrival, tree.follow false links place [.enter name] = .ok arrival ∧
      arrival.place = place ++ [name]) ∨
      tree.follow false links place [.enter name] = .error .nameTooLong := by
  by_cases short : name.length ≤ longestName
  · left
    cases found : tree.entry? (place ++ [name]) with
    | none => exact ⟨_, (follow_missing short found).trans (if_pos rfl), rfl⟩
    | some entry =>
        cases entry with
        | directory => exact ⟨_, (follow_directory short found).trans (follow_nil ..), rfl⟩
        | file content => exact ⟨_, (follow_file short found).trans (if_pos rfl), rfl⟩
        | link target => exact ⟨_, (follow_link short found).trans (if_pos ⟨rfl, rfl⟩), rfl⟩
  · exact Or.inr (follow_long (Nat.lt_of_not_le short))

/-- When the directory is reached, the name is all that is left of a joined path. -/
theorem follow_joinName (plain : Name.Plain name) (reached : tree.baseOf base = .ok directory) :
    ∃ left, tree.follow false mostLinks (tree.startPlace (base.joinName name))
      (base.joinName name).moves = tree.follow false left directory [.enter name] := by
  have alone : ∀ each ∈ [name], Name.Plain each := by simpa using plain
  have starts : tree.startPlace (base.joinName name) = tree.startPlace base :=
    startPlace_descend tree base [name] alone
  have moves : (base.joinName name).moves = base.way ++ [.enter name] :=
    moves_descend base (List.cons_ne_nil _ _) alone
  rw [starts, moves]
  obtain ⟨bytes⟩ := base
  cases bytes with
  | nil =>
      cases reached
      exact ⟨mostLinks, rfl⟩
  | cons first rest =>
      obtain ⟨left, goesOn⟩ := follow_way_of_directory reached false
      exact ⟨left, goesOn _ (List.cons_ne_nil _ _)⟩

theorem zeroless_of_baseOf (reached : tree.baseOf base = .ok directory) :
    (0 : UInt8) ∉ base.bytes := by
  obtain ⟨bytes⟩ := base
  cases bytes with
  | nil => exact List.not_mem_nil
  | cons first rest =>
      have found : tree.directoryOf ⟨first :: rest⟩ = .ok directory := reached
      rw [directoryOf_eq_ok_iff, find_eq_ok_iff, locateThrough_eq_ok_iff] at found
      exact (checkPath_eq_ok_iff.mp found.1).1

theorem checkPath_or {path : Path} (zeroless : (0 : UInt8) ∉ path.bytes)
    (filled : path.isEmpty = false) :
    checkPath path = .ok () ∨ checkPath path = .error .nameTooLong := by
  rw [checkPath, if_neg (by simpa using zeroless), filled, if_neg Bool.false_ne_true]
  split
  · exact Or.inr rfl
  · exact Or.inl rfl

/-- Where there is the directory, the joined path leads into it, unless it or the name is longer
than the system takes. -/
theorem destination_of_baseOf (plain : Name.Plain name)
    (reached : tree.baseOf base = .ok directory) :
    tree.destination (base.joinName name) = .ok (directory ++ [name]) ∨
      tree.destination (base.joinName name) = .error .nameTooLong := by
  obtain ⟨left, follows⟩ := follow_joinName plain reached
  have clean : (0 : UInt8) ∉ (base.joinName name).bytes :=
    zeroless_descend (zeroless_of_baseOf reached) [name] (by simpa using plain)
  rw [destination, locateItself, Path.dropSlashes_eq (Path.bare_joinName base plain),
    locateThrough, follows]
  rcases checkPath_or clean (Path.isEmpty_joinName base plain) with checked | checked
  · rw [checked]
    rcases follow_last tree left directory name with ⟨arrival, arrives, lies⟩ | long
    · rw [arrives, ← lies]
      exact Or.inl rfl
    · rw [long]
      exact Or.inr rfl
  · rw [checked]
    exact Or.inr rfl

end

end FileTree

/-! ## Children of directories -/

/-- The path is that of the name in the directory.  What it stands for, be it a link, lies under
this name directly in the directory, and nowhere else. -/
structure Path.IsChild (path directory : Path) (name : Name) : Prop where
  components : path.components = directory.components ++ [.normal name]
  fileName : path.fileName = some name
  inside : ∀ (files : FileTree) (place : Place), files.destination path = .ok place →
    ∃ base, files.baseOf directory = .ok base ∧ place = base ++ [name]
  reached : ∀ (files : FileTree) (base : Place), files.baseOf directory = .ok base →
    files.destination path = .ok (base ++ [name]) ∨
      files.destination path = .error .nameTooLong

theorem Path.isChild_joinName (directory : Path) {name : Name} (plain : Name.Plain name) :
    (directory.joinName name).IsChild directory name where
  components := components_joinName plain
  fileName := fileName_joinName directory plain
  inside _ _ reached := FileTree.baseOf_of_destination plain reached
  reached _ _ reached := FileTree.destination_of_baseOf plain reached

/-! ## Names of engines -/

namespace Engine

open Effect

theorem isPlainName_iff (name : String) : isPlainName name = true ↔
    (Path.ofString name).components = [.normal (Bytes.ofString name)] ∧
      '\\' ∉ name.toList ∧ '\u0000' ∉ name.toList := by
  have single := Path.components_eq_self_iff (Path.ofString name)
  rw [show (Path.ofString name).bytes = Bytes.ofString name from rfl] at single
  constructor
  · intro plain
    have isPlain := plain_of_isPlainName plain
    simp only [isPlainName, Bool.not_eq_true', Bool.or_eq_false_iff, List.any_eq_false,
      beq_iff_eq, Bool.or_eq_true, not_or] at plain
    obtain ⟨_, others⟩ := plain
    rw [single]
    exact ⟨⟨isPlain.nonempty, isPlain.notCurrent, isPlain.notParent, isPlain.slashless⟩,
      fun member => (others _ member).1.2 rfl, fun member => (others _ member).2 rfl⟩
  · rintro ⟨alone, noBackslash, noZero⟩
    obtain ⟨nonempty, notCurrent, notParent, slashless⟩ := single.mp alone
    rw [Bytes.mem_ofString_iff (by decide)] at slashless
    rw [ne_eq, Bytes.ofString_eq_nil_iff] at nonempty
    simp only [isPlainName, Bool.not_eq_true', Bool.or_eq_false_iff, List.any_eq_false,
      beq_eq_false_iff_ne, beq_iff_eq, Bool.or_eq_true, not_or]
    refine ⟨⟨⟨?_, ?_⟩, ?_⟩, fun character member => ⟨⟨?_, ?_⟩, ?_⟩⟩
    · simpa using nonempty
    · rintro rfl
      exact notCurrent rfl
    · rintro rfl
      exact notParent rfl
    · rintro rfl
      exact slashless ⟨_, member, rfl⟩
    · rintro rfl
      exact noBackslash member
    · rintro rfl
      exact noZero member

theorem isChild_join {name : String} (plain : isPlainName name = true) (directory : Path) :
    (directory.join (Path.ofString name)).IsChild directory (Bytes.ofString name) :=
  Path.isChild_joinName directory (plain_of_isPlainName plain)

/-- All candidates lie directly in the directories in which the engine is looked for. -/
theorem isChild_candidates {name : String} (plain : isPlainName name = true)
    (provisioning : Provisioning) :
    List.Forall₂ (fun directory location => location.path.IsChild directory (Bytes.ofString name))
      (provisioning.scriptDirectories ++ [provisioning.cacheDirectory])
      (provisioning.candidates name) := by
  rw [Provisioning.candidates]
  apply List.rel_append
  · rw [List.forall₂_map_right_iff, List.forall₂_same]
    exact fun directory _ => isChild_join plain directory
  · exact .cons (isChild_join plain provisioning.cacheDirectory) .nil

theorem isChild_of_resolve {name : String} {provisioning : Provisioning} {world later : World}
    {found : Engine} (wellFormed : world.files.WellFormed)
    (resolved : run (provisioning.resolve name) world = (.ok found, later)) :
    ∃ directory ∈ provisioning.scriptDirectories ++ [provisioning.cacheDirectory],
      found.location.path.IsChild directory (Bytes.ofString name) := by
  have plain := provisioning.isPlainName_of_resolve name resolved
  obtain ⟨sent, _, _, _, outcome⟩ := provisioning.resolve_does name wellFormed
  rw [resolved] at outcome
  obtain ⟨_, present, fetched⟩ := outcome
  by_cases new : found.location.availability = .fetched
  · rw [(fetched new).1]
    exact ⟨provisioning.cacheDirectory, by simp, isChild_join plain provisioning.cacheDirectory⟩
  · have member := List.mem_of_find?_eq_some (present new).2
    rw [Provisioning.candidates, List.mem_append, List.mem_map, List.mem_singleton] at member
    rcases member with ⟨directory, listed, same⟩ | same
    · rw [← same]
      exact ⟨directory, List.mem_append_left _ listed, isChild_join plain directory⟩
    · rw [same]
      exact ⟨provisioning.cacheDirectory, by simp, isChild_join plain provisioning.cacheDirectory⟩

/-- A name is accepted exactly if it is one name as a path and has neither a backslash nor a zero;
with any other nothing is looked for.  Whatever the directories, all paths at which an engine with
an accepted name is looked for, and the one at which it is found or to which it is fetched, are
those of the name directly in them. -/
theorem isPlainName_confines (name : String) :
    (isPlainName name = true ↔
      (Path.ofString name).components = [.normal (Bytes.ofString name)] ∧
        '\\' ∉ name.toList ∧ '\u0000' ∉ name.toList) ∧
    (isPlainName name = true → ∀ directory : Path,
      (directory.join (Path.ofString name)).IsChild directory (Bytes.ofString name) ∧
      (CacheEntry.mk directory name).path.IsChild directory (Bytes.ofString name)) ∧
    ∀ provisioning : Provisioning,
      (isPlainName name = true →
        List.Forall₂ (fun directory location => location.path.IsChild directory
            (Bytes.ofString name))
          (provisioning.scriptDirectories ++ [provisioning.cacheDirectory])
          (provisioning.candidates name) ∧
        ∀ files path, provisioning.findBundled files name = some path →
          ∃ directory ∈ provisioning.scriptDirectories,
            path.IsChild directory (Bytes.ofString name)) ∧
      ∀ world : World, world.files.WellFormed →
        (isPlainName name = false →
          run (provisioning.resolve name) world = (.error (.invalidName name), world)) ∧
        ∀ found later, run (provisioning.resolve name) world = (.ok found, later) →
          ∃ directory ∈ provisioning.scriptDirectories ++ [provisioning.cacheDirectory],
            found.location.path.IsChild directory (Bytes.ofString name) := by
  refine ⟨isPlainName_iff name, ?_, fun provisioning => ⟨?_, ?_⟩⟩
  · intro plain directory
    exact ⟨isChild_join plain directory, isChild_join plain directory⟩
  · intro plain
    refine ⟨isChild_candidates plain provisioning, fun files path bundled => ?_⟩
    obtain ⟨directory, listed, rfl⟩ := List.mem_map.mp (List.mem_of_find?_eq_some bundled)
    exact ⟨directory, listed, isChild_join plain directory⟩
  · intro world wellFormed
    refine ⟨fun refused => ?_, fun _ _ resolved => isChild_of_resolve wellFormed resolved⟩
    rw [Provisioning.resolve, refused]
    rfl

/-- Three dots are a name like any other, and a directory may be written with dots and slashes. -/
theorem isPlainName_confines_of_sample : isPlainName "..." = true ∧
    ((Path.ofString "../a//.").join (Path.ofString "...")).components =
      [.parent, .normal (Bytes.ofString "a"), .normal (Bytes.ofString "...")] ∧
    Provisioning.sampleWorld.files.WellFormed ∧
    (∃ directory ∈ Provisioning.sample.scriptDirectories ++ [Provisioning.sample.cacheDirectory],
      (Path.ofString "c/e").IsChild directory (Bytes.ofString "e")) ∧
    run (Provisioning.sample.resolve "../e") Provisioning.sampleWorld =
      (.error (.invalidName "../e"), Provisioning.sampleWorld) := by
  have plain : isPlainName "..." = true := by decide
  have wellFormed : Provisioning.sampleWorld.files.WellFormed := by decide
  have child := ((isPlainName_confines "...").2.1 plain (Path.ofString "../a//.")).1
  have resolved := ((isPlainName_confines "e").2.2 Provisioning.sample).2 _ wellFormed
  have refused := ((isPlainName_confines "../e").2.2 Provisioning.sample).2 _ wellFormed
  refine ⟨plain, child.components.trans ?_, wellFormed, ?_, refused.1 (by decide)⟩
  · cbv
  · exact resolved.2 _ _ Provisioning.resolve_sample

end Engine

end TemplateBuild

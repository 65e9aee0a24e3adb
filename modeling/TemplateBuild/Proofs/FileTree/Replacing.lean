import TemplateBuild.Proofs.FileTree.Changing
import TemplateBuild.Proofs.Text.Bytes
import Mathlib.Data.List.Perm.Subperm

/-!
# Replacing a file

There is always a name that nothing in a directory has, so a temporary file never takes the
place of anything.
-/

set_option autoImplicit false

namespace TemplateBuild.FileTree

/-! ## Fresh names -/

/-- The name that is tried for a number. -/
def candidate (number : Nat) : Name :=
  Bytes.ofString (".tmp" ++ toString number)

theorem candidate_injective {first second : Nat} (same : candidate first = candidate second) :
    first = second := by
  have text := Bytes.ofString_injective same
  rw [← String.toList_inj, String.toList_append, String.toList_append,
    List.append_cancel_left_eq, Nat.toString_eq_repr, Nat.toString_eq_repr, Nat.toList_repr,
    Nat.toList_repr] at text
  rw [← Nat.ofDigitChars_ten_toDigits (n := first), text, Nat.ofDigitChars_ten_toDigits]

theorem candidate_plain (number : Nat) : Name.Plain (candidate number) := by
  have shape : candidate number = Bytes.ofString ".tmp" ++ Bytes.ofString (toString number) :=
    Bytes.ofString_append _ _
  have start : Bytes.ofString ".tmp" = [0x2E, 0x74, 0x6D, 0x70] := by decide
  have digits : ∀ byte : UInt8, byte.toNat < 48 → byte ∉ Bytes.ofString (toString number) := by
    intro byte low member
    obtain ⟨character, isIn, same⟩ := (Bytes.mem_ofString_iff (by omega) _).mp member
    rw [Nat.toString_eq_repr, Nat.toList_repr] at isIn
    have digit := Nat.isDigit_of_mem_toDigits (by decide) (by decide) isIn
    have bound : 48 ≤ character.toNat := (Char.isDigit_iff_toNat.mp digit).1
    omega
  rw [start] at shape
  refine ⟨by simp [shape], by simp [shape, Path.currentSegment],
    by simp [shape, Path.parentSegment],
    ?_, ?_⟩
  · rw [shape, List.mem_append, not_or]
    exact ⟨by decide, digits _ (by decide)⟩
  · rw [shape, List.mem_append, not_or]
    exact ⟨by decide, digits _ (by decide)⟩

/-- Of more candidates than names, one is no name. -/
theorem exists_candidate (names : List Name) :
    ∃ number ∈ List.range (names.length + 1), candidate number ∉ names := by
  by_contra none
  have all : ∀ number ∈ List.range (names.length + 1), candidate number ∈ names := by
    simpa using none
  have distinct : ((List.range (names.length + 1)).map candidate).Nodup :=
    List.Nodup.map (fun _ _ => candidate_injective) List.nodup_range
  have inside : (List.range (names.length + 1)).map candidate ⊆ names := by
    intro name member
    obtain ⟨number, isIn, rfl⟩ := List.mem_map.mp member
    exact all number isIn
  have few := (distinct.subperm inside).length_le
  rw [List.length_map, List.length_range] at few
  omega

theorem freshName_spec (names : List Name) :
    ∃ number, freshName names = candidate number ∧ freshName names ∉ names := by
  obtain ⟨number, isIn, free⟩ := exists_candidate names
  have shape : freshName names =
      (((List.range (names.length + 1)).map candidate).find? fun name =>
        !names.contains name).getD (Bytes.ofString ".tmp") := rfl
  cases found : ((List.range (names.length + 1)).map candidate).find? fun name =>
      !names.contains name with
  | none =>
      have taken := List.find?_eq_none.mp found (candidate number)
        (List.mem_map_of_mem isIn)
      simp [free] at taken
  | some name =>
      rw [found, Option.getD_some] at shape
      obtain ⟨other, _, same⟩ := List.mem_map.mp (List.mem_of_find?_eq_some found)
      have notIn := List.find?_some found
      rw [shape]
      exact ⟨other, same.symm, by simpa using notIn⟩

theorem temporaryPlace_fresh {tree : FileTree} (wellFormed : tree.WellFormed) {directory : Path}
    {temporary : Place} (success : tree.temporaryPlace directory = .ok temporary) :
    ∃ place name, temporary = place ++ [name] ∧ tree.Fresh place name := by
  rw [temporaryPlace] at success
  simp only [bind, Except.bind] at success
  split at success
  · cases success
  · next place reached =>
    simp only [pure, Except.pure, Except.ok.injEq] at success
    rw [directoryOf_eq_ok_iff, find_eq_ok_iff, locateThrough_eq_ok_iff] at reached
    have above : tree.entry? place = some .directory :=
      reached.2.holds wellFormed (wellFormed.startPlace _)
    obtain ⟨number, shape, free⟩ := freshName_spec (tree.namesIn place)
    refine ⟨place, freshName (tree.namesIn place), success.symm, above, ?_, ?_⟩
    · rw [shape]
      exact candidate_plain number
    · rw [mem_namesIn_iff, Option.not_isSome_iff_eq_none] at free
      exact free

/-! ## Whole files -/

theorem replaceFile_written {tree : FileTree} (wellFormed : tree.WellFormed)
    (directory path : Path) (content : Bytes) :
    Written tree path content (tree.replaceFile directory path content) := by
  rw [replaceFile]
  split
  · exact .failed (.refl tree) wellFormed
  · next temporary success =>
    obtain ⟨place, name, rfl, fresh⟩ := temporaryPlace_fresh wellFormed success
    have written := withTemporary_written wellFormed fresh [content] path
    rwa [List.flatten_singleton] at written

/-- A file that is replaced lies where its path leads. -/
theorem puts_of_replaceFile {tree : FileTree} (wellFormed : tree.WellFormed)
    {directory path : Path} {content : Bytes}
    (replaced : (tree.replaceFile directory path content).1 = .ok ()) :
    ∃ place last, tree.replaceFile directory path content = (.ok (), last) ∧
      tree.destination path = .ok place ∧ last.WellFormed ∧ tree.PutsFile place content last := by
  have written := replaceFile_written wellFormed directory path content
  cases outcome : tree.replaceFile directory path content with
  | mk success last =>
      rw [outcome] at replaced written
      cases replaced
      cases written with
      | @done place last reached _ _ _ puts lastWellFormed =>
          exact ⟨place, last, rfl, reached, lastWellFormed, puts⟩

/-- A temporary file that is filled and then removed leaves nothing behind. -/
theorem agrees_of_filling {tree : FileTree} (wellFormed : tree.WellFormed) {place : Place}
    {name : Name} (fresh : tree.Fresh place name) (pieces : List Bytes) :
    ∃ filled, tree.withTemporary (place ++ [name])
        (WriteStep.filling (place ++ [name]) pieces) = (.ok (), filled) ∧
      tree.Agrees (filled.erase (place ++ [name])) ∧
      (filled.erase (place ++ [name])).WellFormed := by
  obtain ⟨filled, puts, filledWellFormed, performed⟩ := filling wellFormed fresh pieces
  have whole := performed []
  rw [List.append_nil] at whole
  have temporary : filled.entry? (place ++ [name]) = some (.file pieces.flatten) := by
    rw [puts.entries, if_pos rfl]
  refine ⟨filled, ?_, puts.erase filledWellFormed fresh.absent,
    filledWellFormed.erase (by rw [temporary]; simp)⟩
  rw [withTemporary, whole]
  rfl

/-! ## Files that may be refused -/

/-- What replacing a file may come to, by way of a temporary file that has any unused name, if the
system may refuse any step for a reason of its own.  The temporary file may be refused, it may be
given up with what had been written to it by then, or it is written in any number of pieces and
moved. -/
inductive Replaces (before : FileTree) (directory path : Path) (content : Bytes) :
    Except FileFailure Unit → FileTree → Prop
  | refused (failure : FileFailure) : Replaces before directory path content (.error failure) before
  | givenUp {place : Place} {name : Name} {pieces : List Bytes} {filled : FileTree}
      (failure : FileFailure) : before.directoryOf directory = .ok place →
      before.Fresh place name → pieces.flatten <+: content →
      WriteStep.performAll before (WriteStep.filling (place ++ [name]) pieces) =
        (.ok (), filled) →
      Replaces before directory path content (.error failure) (filled.erase (place ++ [name]))
  | ended {place : Place} {name : Name} {pieces : List Bytes}
      {result : Except FileFailure Unit} {after : FileTree} :
      before.directoryOf directory = .ok place → before.Fresh place name →
      pieces.flatten = content →
      before.withTemporary (place ++ [name])
        (WriteStep.writing (place ++ [name]) pieces path) = (result, after) →
      Replaces before directory path content result after

section

variable {before after : FileTree} {directory path : Path} {content : Bytes}
  {result : Except FileFailure Unit}

theorem Replaces.written (replaces : before.Replaces directory path content result after)
    (wellFormed : before.WellFormed) : Written before path content (result, after) := by
  cases replaces with
  | refused failure => exact .failed (.refl before) wellFormed
  | @givenUp place name pieces filled failure _ fresh _ performed =>
      obtain ⟨other, ended, agrees, stillWellFormed⟩ := agrees_of_filling wellFormed fresh pieces
      rw [withTemporary, performed] at ended
      cases ended
      exact .failed agrees stillWellFormed
  | @ended place name pieces _ _ _ fresh whole ran =>
      have written := withTemporary_written wellFormed fresh pieces path
      rwa [ran, whole] at written

end

/-! ## Storing a file -/

/-- A file of this content is put where the path ends, after directories that were missing. -/
def Stores (before : FileTree) (path : Path) (content : Bytes) (after : FileTree) : Prop :=
  ∃ middle place, before.AddsDirectories middle ∧ middle.destination path = .ok place ∧
    middle.entry? place ≠ some .directory ∧ endsInName path = true ∧
    path.hasSlashAtEnd = false ∧ middle.PutsFile place content after

/-- What is said of a tree in which something was tried: it is done, or there are at most new
directories. -/
def Leaves {ε α : Type} (before : FileTree) (done : FileTree → Prop) :
    Except ε α × FileTree → Prop
  | (.ok _, after) => after.WellFormed ∧ done after
  | (.error _, after) => after.WellFormed ∧ before.AddsDirectories after

theorem Stores.after {before between after : FileTree} {path : Path} {content : Bytes}
    (adds : before.AddsDirectories between) (stores : between.Stores path content after) :
    before.Stores path content after := by
  obtain ⟨middle, place, more, rest⟩ := stores
  exact ⟨middle, place, adds.trans more, rest⟩

theorem Leaves.after {ε α : Type} {before between : FileTree} {done last : FileTree → Prop}
    {outcome : Except ε α × FileTree} (adds : before.AddsDirectories between)
    (leaves : between.Leaves done outcome) (enough : ∀ after, done after → last after) :
    before.Leaves last outcome := by
  obtain ⟨result, after⟩ := outcome
  cases result with
  | ok value => exact ⟨leaves.1, enough after leaves.2⟩
  | error error => exact ⟨leaves.1, adds.trans leaves.2⟩

theorem Written.leaves {before middle : FileTree} {path : Path} {content : Bytes}
    {outcome : Except FileFailure Unit × FileTree} (adds : before.AddsDirectories middle)
    (written : Written middle path content outcome) :
    Leaves before (before.Stores path content) outcome := by
  cases written with
  | done reached leaf named slashless puts wellFormed =>
      exact ⟨wellFormed, middle, _, adds, reached, leaf, named, slashless, puts⟩
  | failed agrees wellFormed => exact ⟨wellFormed, adds.trans agrees.addsDirectories⟩

theorem makeDirectories_leaves {tree : FileTree} (wellFormed : tree.WellFormed) (path : Path) :
    Leaves tree tree.AddsDirectories (tree.makeDirectories path) := by
  obtain ⟨adds, stillWellFormed⟩ := makeDirectories_adds wellFormed path
  unfold Leaves
  split
  · next same => rw [same] at adds stillWellFormed; exact ⟨stillWellFormed, adds⟩
  · next same => rw [same] at adds stillWellFormed; exact ⟨stillWellFormed, adds⟩

end TemplateBuild.FileTree

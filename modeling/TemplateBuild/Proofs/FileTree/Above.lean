import TemplateBuild.Proofs.FileTree.Arriving
import TemplateBuild.Proofs.FileTree.Entering

/-!
# What is above a path

Where a path leads to a directory, so do the paths above it.  What is created for a path lies where
these paths lead, and so in no other directory.  A file that was put where a path leads is read by
this path, as long as the path above it leads to a directory: a file may have taken the place of a
link on the way.
-/

set_option autoImplicit false

namespace TemplateBuild

theorem Path.isEmpty_directory (path : Path) : path.directory.isEmpty = false := by
  rw [directory]
  split
  · split
    · rfl
    · next filled => exact Bool.eq_false_iff.mpr filled
  · rfl

namespace FileTree

variable {tree : FileTree} {path parent : Path} {place : Place}

/-! ## Directories above directories -/

theorem landingOf_way (tree : FileTree) (path : Path) :
    tree.landingOf path = landing (tree.startPlace path) path.way := by
  rw [landingOf, Path.moves_eq, landing_append]
  split <;> rfl

theorem landingOf_of_directoryOf (free : tree.LinkFree)
    (reached : tree.directoryOf path = .ok place) : tree.landingOf path = place := by
  rw [directoryOf_eq_ok_iff, find_eq_ok_iff, locateThrough_eq_ok_iff] at reached
  exact (reached.2.place_eq_landing free).symm

theorem landingOf_of_directoryFor (free : tree.LinkFree)
    (reached : tree.directoryFor path = .ok place) : tree.landingOf path = place := by
  rcases directoryFor_cases reached with ⟨empty, rfl⟩ | reached
  · simp [landingOf_way, startPlace, Path.isAbsolute, Path.way, Path.segments, Path.segmentsOf,
      empty, landing]
  · exact landingOf_of_directoryOf free reached

theorem landingOf_joinName {name : Name} (free : tree.LinkFree) (plain : Name.Plain name)
    (reached : tree.directoryFor path = .ok place) :
    tree.landingOf (path.joinName name) = place ++ [name] := by
  have start : tree.startPlace (path.joinName name) = tree.startPlace path := by
    rw [startPlace, startPlace, (Path.enters_joinName path plain).absolute]
  rw [landingOf_way, Path.way_joinName path plain, landing_append, start, ← landingOf_way,
    landingOf_of_directoryFor free reached]
  rfl

/-- Neither a path nor one above it spells out something directly in a directory. -/
def PassesBy (tree : FileTree) (place : Place) (path : Path) : Prop :=
  ∀ above, path.Upward above → ∀ name, tree.landingOf above ≠ place ++ [name]

theorem PassesBy.congr {other : FileTree} (passes : tree.PassesBy place path)
    (working : other.working = tree.working) : other.PassesBy place path := by
  intro above upward name
  rw [landingOf_congr working]
  exact passes above upward name

/-- Creating directories for a path that passes by brings nothing into a directory. -/
theorem Opens.absent {after : FileTree} (opens : tree.Opens path after) (free : after.LinkFree)
    (working : after.working = tree.working) (passes : tree.PassesBy place path) {name : Name}
    (absent : tree.entry? (place ++ [name]) = none) : after.entry? (place ++ [name]) = none := by
  rcases opens (place ++ [name]) with same | ⟨above, upward, reached⟩
  · rwa [same]
  · have landing := landingOf_of_directoryOf free reached
    rw [landingOf_congr working] at landing
    exact absurd landing (passes above upward name)

/-! ## Files in directories -/

theorem directoryOf_dot (tree : FileTree) :
    tree.directoryOf (.ofString ".") = .ok tree.working := by
  rw [directoryOf_eq_ok_iff, find_eq_ok_iff, locateThrough_eq_ok_iff]
  exact ⟨by decide, .stay (.finished _ _)⟩

/-- The directory of a path is that in which its name lies. -/
theorem directoryOf_directory (isParent : path.parent = some parent) :
    tree.directoryOf path.directory = tree.directoryFor parent := by
  rw [Path.directory, isParent, directoryFor]
  simp only
  split
  · exact directoryOf_dot tree
  · rfl

theorem exists_enters_of_endsInName (bare : path.hasSlashAtEnd = false)
    (ends : endsInName path = true) :
    ∃ parent name, path.parent = some parent ∧ path.Enters parent name := by
  rw [endsInName, Path.dropSlashes_eq bare] at ends
  split at ends
  · next name last =>
    obtain ⟨parent, isParent, enters⟩ := Path.exists_enters bare last
    exact ⟨parent, name, isParent, enters⟩
  · cases ends

/-- A file is read by the path by which it was put, if the path still leads to its directory. -/
theorem PutsFile.contentOf {after : FileTree} {content : Bytes}
    (puts : tree.PutsFile place content after) (destination : tree.destination path = .ok place)
    (bare : path.hasSlashAtEnd = false) (ends : endsInName path = true)
    (isDirectory : after.isDirectory path.directory = true) :
    after.contentOf path = .ok content := by
  obtain ⟨parent, name, isParent, enters⟩ := exists_enters_of_endsInName bare ends
  obtain ⟨directory, found⟩ := isDirectory_iff.mp isDirectory
  rw [← directoryOf_eq_ok_iff, directoryOf_directory isParent] at found
  obtain ⟨rfl, checked, short⟩ := destination_of_enters enters (puts.directoryFor found) destination
  apply contentOf_of_enters enters checked short found
  rw [puts.entries, if_pos rfl]

end FileTree

end TemplateBuild

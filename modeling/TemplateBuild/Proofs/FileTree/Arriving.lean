import TemplateBuild.Proofs.FileTree.Directories
import TemplateBuild.Proofs.Path.Endings

/-!
# Arriving in trees without links

Where there are no links, a path leads on from where the path above it leads.  So it can be told
from one arrival whether a directory can be created, and whether it is there already.

The absolute path of a directory leads through no link in any tree.  So it leads there in all trees
that have the directory.
-/

set_option autoImplicit false

namespace TemplateBuild.FileTree

variable {tree other : FileTree} {path parent : Path} {place : Place}

/-- Where the way of a path leads, whether it ends in slashes or not. -/
def arrivalOf (tree : FileTree) (path : Path) : Except FileFailure Arrival :=
  tree.follow false mostLinks (tree.startPlace path) path.way

/-- How moves go on from where others have led. -/
def onwards (tree : FileTree) (through : Bool) (links : Nat) (more : List Path.Move) :
    Except FileFailure Arrival → Except FileFailure Arrival
  | .ok (.present place .directory) => tree.follow through links place more
  | .ok (.present _ _) => .error .notDirectory
  | .ok (.absent _ _) => .error .notFound
  | .error failure => .error failure

theorem Agrees.linkFree (agrees : tree.Agrees other) (free : tree.LinkFree) : other.LinkFree :=
  agrees.addsDirectories.linkFree free

theorem Agrees.arrivalOf (agrees : tree.Agrees other) (path : Path) :
    other.arrivalOf path = tree.arrivalOf path := by
  rw [FileTree.arrivalOf, FileTree.arrivalOf, agrees.follow, startPlace, startPlace, agrees.working]

/-! ## Following without links -/

section Following

variable (free : tree.LinkFree) (through : Bool) (links : Nat)

include free

theorem LinkFree.follow_append {more : List Path.Move} (filled : more ≠ []) (moves : List Path.Move)
    (place : Place) : tree.follow through links place (moves ++ more) =
      tree.onwards through links more (tree.follow through links place moves) := by
  induction moves generalizing place with
  | nil => rw [follow_nil]; rfl
  | cons move rest ih =>
      cases move with
      | stay => rw [List.cons_append, follow_stay, follow_stay, ih]
      | up => rw [List.cons_append, follow_up, follow_up, ih]
      | enter name =>
          rw [List.cons_append]
          by_cases short : name.length ≤ longestName
          · cases found : tree.entry? (place ++ [name]) with
            | none =>
                rw [follow_missing short found, follow_missing short found,
                  if_neg (by simp [filled])]
                split <;> rfl
            | some entry =>
                cases entry with
                | directory => rw [follow_directory short found, follow_directory short found, ih]
                | file content =>
                    rw [follow_file short found, follow_file short found, if_neg (by simp [filled])]
                    split <;> rfl
                | link target => exact absurd found (free _ target)
          · rw [follow_long (Nat.not_le.mp short), follow_long (Nat.not_le.mp short)]
            rfl

/-- Without links there is no difference. -/
theorem LinkFree.follow_through (moves : List Path.Move) (place : Place) :
    tree.follow through links place moves = tree.follow false links place moves := by
  induction moves generalizing place with
  | nil => rw [follow_nil, follow_nil]
  | cons move rest ih =>
      cases move with
      | stay => rw [follow_stay, follow_stay, ih]
      | up => rw [follow_up, follow_up, ih]
      | enter name =>
          by_cases short : name.length ≤ longestName
          · cases found : tree.entry? (place ++ [name]) with
            | none => rw [follow_missing short found, follow_missing short found]
            | some entry =>
                cases entry with
                | directory => rw [follow_directory short found, follow_directory short found, ih]
                | file content => rw [follow_file short found, follow_file short found]
                | link target => exact absurd found (free _ target)
          · rw [follow_long (Nat.not_le.mp short), follow_long (Nat.not_le.mp short)]

end Following

/-! ## Paths that are checked -/

theorem checkPath_dropSlashes (checked : checkPath path = .ok ()) :
    checkPath path.dropSlashes = .ok () := by
  rw [checkPath_eq_ok_iff] at checked ⊢
  obtain ⟨zeroless, filled, short⟩ := checked
  obtain ⟨left, more, whole⟩ := Path.dropSlashes_prefix filled
  rw [whole, List.length_append] at short
  refine ⟨fun zero => zeroless ?_, left, by omega⟩
  rw [whole]
  exact List.mem_append_left more zero

theorem locateItself_of_checked (checked : checkPath path = .ok ()) :
    tree.locateItself path = tree.arrivalOf path := by
  rw [locateItself, checked, locateThrough, checkPath_dropSlashes checked, startPlace,
    Path.isAbsolute_dropSlashes, ← startPlace, arrivalOf]
  rcases path.moves_dropSlashes with same | ⟨none, stays⟩
  · rw [same]
    rfl
  · rw [none, stays, follow_nil]
    simp [bind, Except.bind]

/-- A directory is created where nothing is, and cannot be where something is. -/
theorem makeDirectory_of_checked (checked : checkPath path = .ok ()) :
    tree.makeDirectory path = match tree.arrivalOf path with
      | .ok (.present _ _) => .error .exists
      | .ok (.absent directory name) => .ok (tree.store (directory ++ [name]) .directory)
      | .error failure => .error failure := by
  rw [makeDirectory, locateItself_of_checked checked]
  cases tree.arrivalOf path with
  | error failure => rfl
  | ok arrival => cases arrival <;> rfl

theorem checkPath_of_missing (filled : path.isEmpty = false)
    (missing : tree.makeDirectory path = .error .notFound) : checkPath path = .ok () := by
  cases checked : checkPath path with
  | ok done => rfl
  | error failure =>
      rw [makeDirectory, locateItself, checked] at missing
      cases missing
      rw [checkPath, filled] at checked
      split at checked
      · cases checked
      · simp only [Bool.false_eq_true, if_false] at checked
        split at checked
        · cases checked
        · cases checked

theorem LinkFree.directoryOf_eq_ok_iff (free : tree.LinkFree) :
    tree.directoryOf path = .ok place ↔
      checkPath path = .ok () ∧ tree.arrivalOf path = .ok (.present place .directory) := by
  rw [FileTree.directoryOf_eq_ok_iff, find_eq_ok_iff, locateThrough_eq_ok_iff, ← follow_eq_ok_iff,
    free.follow_through, Path.moves_eq, arrivalOf]
  split
  · rw [free.follow_append false mostLinks (by simp)]
    cases tree.follow false mostLinks (tree.startPlace path) path.way with
    | error failure => simp [onwards]
    | ok arrival =>
        cases arrival with
        | absent directory name => simp [onwards]
        | present found entry => cases entry <;> simp [onwards]
  · rw [List.append_nil]

theorem LinkFree.isDirectory_eq_false (free : tree.LinkFree)
    (elsewhere : ∀ place, tree.arrivalOf path ≠ .ok (.present place .directory)) :
    tree.isDirectory path = false := by
  rw [← Bool.not_eq_true, isDirectory_iff]
  rintro ⟨place, found⟩
  rw [← FileTree.directoryOf_eq_ok_iff, free.directoryOf_eq_ok_iff] at found
  exact elsewhere place found.2

/-! ## The path above -/

section Above

variable (isParent : path.parent = some parent)

include isParent

theorem checkPath_parent (filled : parent.isEmpty = false) (checked : checkPath path = .ok ()) :
    checkPath parent = .ok () := by
  obtain ⟨rest, _, whole, _⟩ := Path.parent_prefix isParent
  rw [checkPath_eq_ok_iff] at checked ⊢
  obtain ⟨zeroless, _, short⟩ := checked
  rw [whole, List.length_append] at short
  refine ⟨fun zero => zeroless ?_, ?_, by omega⟩
  · rw [whole]
    exact List.mem_append_left rest zero
  · rwa [Path.isEmpty, List.isEmpty_eq_false_iff] at filled

theorem length_parent : parent.bytes.length < path.bytes.length := by
  obtain ⟨rest, _, whole, more, _⟩ := Path.parent_prefix isParent
  have positive := List.length_pos_iff.mpr more
  rw [whole, List.length_append]
  omega

/-- A path is followed from where its parent is. -/
theorem startPlace_parent (tree : FileTree) : tree.startPlace path = tree.startPlace parent := by
  rw [startPlace, startPlace, Path.isAbsolute_parent isParent]

/-- A path leads on from where its parent leads. -/
theorem LinkFree.arrivalOf_parent (free : tree.LinkFree) :
    ∃ more, more ≠ [] ∧ path.way = parent.way ++ more ∧ tree.arrivalOf path =
      tree.onwards false mostLinks more (tree.arrivalOf parent) := by
  obtain ⟨rest, more, whole, _, way, moves⟩ := Path.parent_prefix isParent
  refine ⟨more, moves, way, ?_⟩
  rw [arrivalOf, startPlace_parent isParent tree, way, free.follow_append false mostLinks moves]
  rfl

end Above

/-! ## The path of a place -/

theorem bytes_pathOf : ∀ (names : List Name) (first : Name),
    first ++ names.flatMap (fun name => Path.slash :: name) =
      Path.joinSegments (first :: names) := by
  intro names
  induction names with
  | nil => exact fun first => List.append_nil first
  | cons name rest ih =>
      intro first
      rw [List.flatMap_cons, List.cons_append, ih, Path.joinSegments_cons first (by simp)]

theorem moves_pathOf (inner : place ≠ []) (plain : ∀ name ∈ place, Name.Plain name) :
    (pathOf place).moves = place.map .enter := by
  have bytes : (pathOf place).bytes = Path.joinSegments ([] :: place) := by
    rw [← bytes_pathOf]
    cases place with
    | nil => exact absurd rfl inner
    | cons name rest => rfl
  have segments : (pathOf place).segments = [] :: place := by
    rw [Path.segments, bytes]
    exact Path.segmentsOf_joinSegments _ (by simp) (List.forall_mem_cons.mpr
      ⟨by simp, fun name member => (plain name member).slashless⟩)
  have filled : place.filter (fun segment => segment ≠ []) = place := by
    rw [List.filter_eq_self]
    intro name member
    simpa using (plain name member).nonempty
  rw [Path.moves_eq, Path.way, segments, if_neg, List.append_nil, List.filter_cons_of_neg (by simp),
    filled, List.map_inj_left]
  · exact fun name member => Path.moveOf_plain (plain name member)
  · intro trailing
    exact (plain [] (List.mem_of_getLast? trailing)).nonempty rfl

/-- The path of a place spells it out. -/
theorem landing_pathOf (tree : FileTree) (plain : ∀ name ∈ place, Name.Plain name) :
    landing (tree.startPlace (pathOf place)) (pathOf place).moves = place := by
  cases place with
  | nil => rfl
  | cons name rest =>
      have start : tree.startPlace (pathOf (name :: rest)) = [] := rfl
      rw [moves_pathOf (List.cons_ne_nil _ _) plain, landing_enters, start, List.nil_append]

/-- The absolute path of the place is one that the system accepts. -/
def Spellable (place : Place) : Prop :=
  checkPath (pathOf place) = .ok () ∧ ∀ name ∈ place, name.length ≤ longestName

instance (place : Place) : Decidable (Spellable place) :=
  inferInstanceAs (Decidable (_ ∧ _))

theorem follow_pathOf (wellFormed : tree.WellFormed) (found : tree.entry? place = some .directory)
    (through : Bool) :
    tree.follow through mostLinks (tree.startPlace (pathOf place)) (pathOf place).moves =
      if ∀ name ∈ place, name.length ≤ longestName then .ok (.present place .directory)
      else .error .nameTooLong := by
  cases place with
  | nil =>
      have moves : (pathOf []).moves = [.stay] := by decide
      rw [moves, follow_stay, follow_nil, if_pos fun _ member => absurd member List.not_mem_nil]
      rfl
  | cons first rest =>
      have start : tree.startPlace (pathOf (first :: rest)) = [] := rfl
      have whole := moves_pathOf (List.cons_ne_nil first rest) (wellFormed.plain found)
      rw [start, whole, ← List.append_nil (List.map _ _)]
      split
      · next short =>
        rw [follow_enters wellFormed through _ [] _ [] found short, follow_nil, List.nil_append]
      · next long =>
        simp only [not_forall, Nat.not_le] at long
        obtain ⟨name, member, isLong⟩ := long
        exact follow_enters_long wellFormed through _ [] _ [] found ⟨name, member, isLong⟩

/-- The absolute path of a directory leads to it, unless something is too long. -/
theorem locateThrough_pathOf (wellFormed : tree.WellFormed)
    (found : tree.entry? place = some .directory) (through : Bool) :
    (Spellable place ∧
        tree.locateThrough through (pathOf place) = .ok (.present place .directory)) ∨
      ¬ Spellable place ∧ ∃ failure, tree.locateThrough through (pathOf place) = .error failure := by
  have follows := follow_pathOf wellFormed found through
  rw [Spellable, locateThrough]
  cases checked : checkPath (pathOf place) with
  | error failure => exact Or.inr ⟨fun both => (by cases both.1), failure, rfl⟩
  | ok done =>
      split at follows
      · next short => exact Or.inl ⟨⟨rfl, short⟩, follows⟩
      · next long => exact Or.inr ⟨fun both => long both.2, .nameTooLong, follows⟩

theorem findItself_pathOf (wellFormed : tree.WellFormed)
    (found : tree.entry? place = some .directory) (spellable : Spellable place) :
    tree.findItself (pathOf place) = .ok (place, .directory) := by
  rcases locateThrough_pathOf wellFormed found false with ⟨_, located⟩ | ⟨unspellable, _⟩
  · rw [findItself_eq_ok_iff, located]
  · exact absurd spellable unspellable

theorem directoryOf_pathOf (wellFormed : tree.WellFormed)
    (found : tree.entry? place = some .directory) (spellable : Spellable place) :
    tree.directoryOf (pathOf place) = .ok place := by
  rcases locateThrough_pathOf wellFormed found true with ⟨_, located⟩ | ⟨unspellable, _⟩
  · rw [directoryOf_eq_ok_iff, find_eq_ok_iff, located]
  · exact absurd spellable unspellable

theorem findItself_pathOf_error (wellFormed : tree.WellFormed)
    (found : tree.entry? place = some .directory) (unspellable : ¬ Spellable place) :
    ∃ failure, tree.findItself (pathOf place) = .error failure := by
  rcases locateThrough_pathOf wellFormed found false with ⟨spellable, _⟩ | ⟨_, failure, located⟩
  · exact absurd spellable unspellable
  · exact ⟨failure, by rw [findItself, located]; rfl⟩

theorem canonical_eq_ok_iff {root : Path} : tree.canonical path = .ok root ↔
    ∃ place entry, tree.find path = .ok (place, entry) ∧ root = pathOf place := by
  rw [canonical]
  cases tree.find path with
  | error failure => simp [bind, Except.bind]
  | ok found => simp [bind, Except.bind, pure, Except.pure, Prod.ext_iff, eq_comm]

/-- If the canonical path of a path leads to a directory, so does the path. -/
theorem LinkFree.directoryOf_of_canonical (free : tree.LinkFree) (wellFormed : tree.WellFormed)
    {root : Path} (canonical : tree.canonical path = .ok root)
    (isDirectory : tree.isDirectory root = true) :
    ∃ place, root = pathOf place ∧ tree.directoryOf path = .ok place ∧
      tree.directoryOf root = .ok place := by
  obtain ⟨place, entry, found, rfl⟩ := canonical_eq_ok_iff.mp canonical
  have holds : tree.entry? place = some entry := by
    rw [find_eq_ok_iff, locateThrough_eq_ok_iff] at found
    exact found.2.holds wellFormed (wellFormed.startPlace path)
  obtain ⟨other, reached⟩ := isDirectory_iff.mp isDirectory
  rw [← FileTree.directoryOf_eq_ok_iff] at reached
  have same : other = place := by
    have leads := reached
    rw [FileTree.directoryOf_eq_ok_iff, find_eq_ok_iff, locateThrough_eq_ok_iff] at leads
    exact (leads.2.place_eq_landing free).trans
      (landing_pathOf tree fun name member => wellFormed.plain holds name member)
  subst same
  rw [entry?_of_directoryOf wellFormed reached, Option.some.injEq] at holds
  subst holds
  exact ⟨other, rfl, FileTree.directoryOf_eq_ok_iff.mpr found, reached⟩

end TemplateBuild.FileTree

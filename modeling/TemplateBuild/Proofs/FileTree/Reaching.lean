import TemplateBuild.Proofs.FileTree.Following
import Mathlib.Data.List.Basic

/-!
# Reaching places by paths

A path is checked, and then its moves are followed from the root or the working directory.  What
is reached by names below a directory can be told from the place of that directory, as long as
neither the path nor a name is longer than the system takes.
-/

set_option autoImplicit false

namespace TemplateBuild

/-- The names that a path enters can lie in a directory. -/
theorem Path.plain_of_enter_mem_moves {path : Path} {name : Name}
    (zeroless : (0 : UInt8) ∉ path.bytes) (entered : Move.enter name ∈ path.moves) :
    Name.Plain name := by
  have inWay : Move.enter name ∈ path.way := by
    rw [moves_eq, List.mem_append] at entered
    rcases entered with entered | entered
    · exact entered
    · split at entered <;> simp at entered
  obtain ⟨segment, member, moved⟩ := List.mem_map.mp inWay
  rw [List.mem_filter] at member
  obtain ⟨slashless, inside⟩ := slash_notMem_of_mem_segmentsOf path.bytes segment member.1
  simp only [moveOf] at moved
  split at moved
  · cases moved
  · next notStay =>
    split at moved
    · cases moved
    · next notUp =>
      cases moved
      rw [not_or] at notStay
      exact ⟨notStay.1, notStay.2, notUp, slashless, fun zero => zeroless (inside 0 zero)⟩

namespace FileTree

variable {tree : FileTree} {path : Path} {place : Place}

theorem checkPath_eq_ok_iff : checkPath path = .ok () ↔
    (0 : UInt8) ∉ path.bytes ∧ path.bytes ≠ [] ∧ path.bytes.length ≤ longestPath := by
  unfold checkPath
  split
  · next zero => simp [List.contains_iff_mem.mp zero]
  · next zeroless =>
    have notIn : (0 : UInt8) ∉ path.bytes := fun zero => zeroless (List.contains_iff_mem.mpr zero)
    split
    · next empty => simp [List.isEmpty_iff.mp empty]
    · next filled =>
      have nonempty : path.bytes ≠ [] := fun empty => filled (List.isEmpty_iff.mpr empty)
      split
      · next long => simp [Nat.not_le.mpr long]
      · next short => simp [notIn, nonempty, Nat.not_lt.mp short]

theorem WellFormed.startPlace (wellFormed : tree.WellFormed) (path : Path) :
    tree.entry? (tree.startPlace path) = some .directory := by
  unfold FileTree.startPlace
  split
  · rfl
  · exact wellFormed.working

theorem locateThrough_eq_ok_iff {through : Bool} {arrival : Arrival} :
    tree.locateThrough through path = .ok arrival ↔ checkPath path = .ok () ∧
      tree.Leads through mostLinks (tree.startPlace path) path.moves arrival := by
  rw [← follow_eq_ok_iff, locateThrough]
  cases checkPath path with
  | error failure => simp [bind, Except.bind]
  | ok checked => simp [bind, Except.bind]

theorem find_eq_ok_iff {entry : Entry} : tree.find path = .ok (place, entry) ↔
    tree.locateThrough true path = .ok (.present place entry) := by
  rw [find, locate]
  cases tree.locateThrough true path with
  | error failure => simp [bind, Except.bind]
  | ok arrival => cases arrival <;> simp [bind, Except.bind, present]

theorem findItself_eq_ok_iff {entry : Entry} : tree.findItself path = .ok (place, entry) ↔
    tree.locateThrough false path = .ok (.present place entry) := by
  rw [findItself]
  cases tree.locateThrough false path with
  | error failure => simp [bind, Except.bind]
  | ok arrival => cases arrival <;> simp [bind, Except.bind, present]

theorem directoryOf_eq_ok_iff :
    tree.directoryOf path = .ok place ↔ tree.find path = .ok (place, .directory) := by
  rw [directoryOf]
  cases found : tree.find path with
  | error failure => simp [bind, Except.bind]
  | ok reached =>
      obtain ⟨other, entry⟩ := reached
      cases entry <;>
        simp [bind, Except.bind, throw, throwThe, MonadExceptOf.throw, pure, Except.pure]

/-- A directory that is found without following a link at the end is found as well by following. -/
theorem entry?_of_directoryOf (wellFormed : tree.WellFormed)
    (reached : tree.directoryOf path = .ok place) : tree.entry? place = some .directory := by
  rw [directoryOf_eq_ok_iff, find_eq_ok_iff, locateThrough_eq_ok_iff] at reached
  exact reached.2.holds wellFormed (wellFormed.startPlace path)

theorem directoryOf_of_findItself (found : tree.findItself path = .ok (place, .directory)) :
    tree.directoryOf path = .ok place := by
  rw [findItself_eq_ok_iff, locateThrough_eq_ok_iff] at found
  rw [directoryOf_eq_ok_iff, find_eq_ok_iff, locateThrough_eq_ok_iff]
  exact ⟨found.1, found.2.through_of_directory rfl⟩

theorem isFile_iff :
    tree.isFile path = true ↔ ∃ found content, tree.find path = .ok (found, .file content) := by
  unfold isFile
  split
  · next found content same => simp [same]
  · next other =>
    constructor
    · intro absurd
      cases absurd
    · rintro ⟨found, content, same⟩
      exact absurd same (other found content)

theorem isDirectory_iff :
    tree.isDirectory path = true ↔ ∃ found, tree.find path = .ok (found, .directory) := by
  unfold isDirectory
  split
  · next found same => simp [same]
  · next other =>
    constructor
    · intro absurd
      cases absurd
    · rintro ⟨found, same⟩
      exact absurd same (other found)

theorem contentOf_eq_ok_iff {content : Bytes} : tree.contentOf path = .ok content ↔
    ∃ found, tree.find path = .ok (found, .file content) := by
  rw [contentOf]
  cases found : tree.find path with
  | error failure => simp [bind, Except.bind]
  | ok reached =>
      obtain ⟨other, entry⟩ := reached
      cases entry <;>
        simp [bind, Except.bind, throw, throwThe, MonadExceptOf.throw, pure, Except.pure]

/-! ## Below a directory -/

/-- Entering directories one after the other arrives at the last of them. -/
theorem follow_enters (wellFormed : tree.WellFormed) (through : Bool) (links : Nat)
    (more : List Path.Move) : ∀ (names : List Name) (place : Place),
      tree.entry? (place ++ names) = some .directory →
      (∀ name ∈ names, name.length ≤ longestName) →
      tree.follow through links place (names.map .enter ++ more) =
        tree.follow through links (place ++ names) more := by
  intro names
  induction names with
  | nil => intro place _ _; simp
  | cons name rest ih =>
      intro place found short
      have split : place ++ name :: rest = place ++ [name] ++ rest := by simp
      have first : tree.entry? (place ++ [name]) = some .directory := by
        by_cases empty : rest = []
        · rwa [split, empty, List.append_nil] at found
        · rw [split] at found
          exact wellFormed.above _ rest _ empty found
      rw [List.map_cons, List.cons_append,
        follow_directory (short name (List.mem_cons_self ..)) first, split]
      rw [split] at found
      exact ih (place ++ [name]) found fun other member =>
        short other (List.mem_cons_of_mem _ member)

theorem follow_enters_long (wellFormed : tree.WellFormed) (through : Bool) (links : Nat)
    (more : List Path.Move) : ∀ (names : List Name) (place : Place),
      tree.entry? (place ++ names) = some .directory →
      (∃ name ∈ names, longestName < name.length) →
      tree.follow through links place (names.map .enter ++ more) = .error .nameTooLong := by
  intro names
  induction names with
  | nil => rintro place _ ⟨name, member, _⟩; cases member
  | cons name rest ih =>
      rintro place found ⟨other, member, long⟩
      have split : place ++ name :: rest = place ++ [name] ++ rest := by simp
      rw [List.map_cons, List.cons_append]
      by_cases short : name.length ≤ longestName
      · have later : other ∈ rest := by
          rcases List.mem_cons.mp member with rfl | later
          · exact absurd short (Nat.not_le.mpr long)
          · exact later
        have first : tree.entry? (place ++ [name]) = some .directory := by
          rw [split] at found
          exact wellFormed.above _ rest _ (List.ne_nil_of_mem later) found
        rw [follow_directory short first]
        rw [split] at found
        exact ih (place ++ [name]) found ⟨other, later, long⟩
      · exact follow_long (Nat.not_le.mp short)

theorem leads_way_of_directory (reached : tree.directoryOf path = .ok place) (through : Bool) :
    tree.Leads through mostLinks (tree.startPlace path) (path.way ++ [.stay])
      (.present place .directory) := by
  rw [directoryOf_eq_ok_iff, find_eq_ok_iff, locateThrough_eq_ok_iff, Path.moves_eq] at reached
  obtain ⟨_, leads⟩ := reached
  split at leads
  · exact leads.either_of_stay through List.getLast?_concat
  · rw [List.append_nil] at leads
    exact leads.staying through

/-- A path that leads to a directory is followed further from the place of the directory. -/
theorem follow_way_of_directory (reached : tree.directoryOf path = .ok place) (through : Bool) :
    ∃ left, ∀ more, more ≠ [] →
      tree.follow through mostLinks (tree.startPlace path) (path.way ++ more) =
        tree.follow through left place more := by
  obtain ⟨left, _, goesOn⟩ :=
    follow_append_of_stay (leads_way_of_directory reached through) path.way rfl rfl
  exact ⟨left, goesOn⟩

/-- Neither the path below a root nor a name on the way down is longer than the system takes. -/
def Fits (root : Path) (names : List Name) : Prop :=
  (root.descend names).bytes.length ≤ longestPath ∧ ∀ name ∈ names, name.length ≤ longestName

instance (root : Path) (names : List Name) : Decidable (Fits root names) :=
  inferInstanceAs (Decidable (_ ∧ _))

theorem startPlace_descend (tree : FileTree) (root : Path) (names : List Name)
    (plain : ∀ name ∈ names, Name.Plain name) :
    tree.startPlace (root.descend names) = tree.startPlace root := by
  rw [startPlace, startPlace, Path.isAbsolute_descend root names plain]

theorem moves_descend (root : Path) {names : List Name} (inner : names ≠ [])
    (plain : ∀ name ∈ names, Name.Plain name) :
    (root.descend names).moves = root.way ++ names.map .enter := by
  obtain ⟨before, last, rfl⟩ := (List.eq_nil_or_concat' names).resolve_left inner
  have lastPlain : Name.Plain last := plain last (by simp)
  rw [← Path.way_descend root _ plain, Path.descend_concat, Path.joinName,
    Path.moves_join_slashless _ lastPlain.slashless lastPlain.nonempty]

theorem zeroless_descend {root : Path} (zeroless : (0 : UInt8) ∉ root.bytes) :
    ∀ names : List Name, (∀ name ∈ names, Name.Plain name) →
      (0 : UInt8) ∉ (root.descend names).bytes := by
  intro names
  induction names using List.reverseRecOn with
  | nil => intro _; exact zeroless
  | append_singleton names name ih =>
      intro plain
      have earlier := ih fun other member => plain other (List.mem_append_left _ member)
      have last := (plain name (by simp)).zeroless
      rw [Path.descend_concat, Path.joinName, Path.join]
      split
      · exact last
      · split
        · simp [earlier, last]
        · simp [earlier, last, Path.slash]

theorem checkPath_descend {root : Path} (checked : checkPath root = .ok ()) (names : List Name)
    (plain : ∀ name ∈ names, Name.Plain name) : checkPath (root.descend names) =
      if (root.descend names).bytes.length ≤ longestPath then .ok () else .error .nameTooLong := by
  rw [checkPath_eq_ok_iff] at checked
  obtain ⟨zeroless, nonempty, _⟩ := checked
  have stillZeroless := zeroless_descend zeroless names plain
  have stillNonempty : (root.descend names).bytes ≠ [] := by
    clear stillZeroless
    induction names using List.reverseRecOn with
    | nil => exact nonempty
    | append_singleton names name _ =>
        have last := plain name (by simp)
        rw [Path.descend_concat]
        intro empty
        have longer := Path.length_lt_joinName (root.descend names) last.nonempty last.slashless
        rw [empty] at longer
        cases longer
  split
  · next short => exact checkPath_eq_ok_iff.mpr ⟨stillZeroless, stillNonempty, short⟩
  · next long =>
    simp [checkPath, stillZeroless, Path.isEmpty, stillNonempty, Nat.not_le.mp long]

/-- Directories below a directory are reached by the names on the way, unless something is too
long for the system. -/
theorem directoryOf_descend (wellFormed : tree.WellFormed) {root : Path}
    (reached : tree.directoryOf root = .ok place) {names : List Name}
    (found : tree.entry? (place ++ names) = some .directory) :
    tree.directoryOf (root.descend names) =
      if Fits root names then .ok (place ++ names) else .error .nameTooLong := by
  have plain : ∀ name ∈ names, Name.Plain name := fun name member =>
    wellFormed.plain found name (List.mem_append_right _ member)
  have checked : checkPath root = .ok () := by
    rw [directoryOf_eq_ok_iff, find_eq_ok_iff, locateThrough_eq_ok_iff] at reached
    exact reached.1
  have checkedBelow := checkPath_descend checked names plain
  by_cases inner : names = []
  · subst inner
    have short := (checkPath_eq_ok_iff.mp checked).2.2
    rw [List.append_nil, Path.descend_nil, reached, if_pos]
    exact ⟨short, by simp⟩
  · obtain ⟨left, goesOn⟩ := follow_way_of_directory reached true
    have further := goesOn (names.map .enter) (by simpa using inner)
    rw [← moves_descend root inner plain, ← startPlace_descend tree root names plain] at further
    by_cases short : (root.descend names).bytes.length ≤ longestPath
    · rw [if_pos short] at checkedBelow
      by_cases shortNames : ∀ name ∈ names, name.length ≤ longestName
      · rw [if_pos ⟨short, shortNames⟩, directoryOf_eq_ok_iff, find_eq_ok_iff,
          locateThrough_eq_ok_iff, ← follow_eq_ok_iff, further]
        refine ⟨checkedBelow, ?_⟩
        have arrived := follow_enters wellFormed true left [] names place
          found shortNames
        rwa [List.append_nil, follow_nil] at arrived
      · rw [if_neg fun fits => shortNames fits.2]
        have long : ∃ name ∈ names, longestName < name.length := by
          simpa using shortNames
        have failed := follow_enters_long wellFormed true left [] names
          place found long
        rw [List.append_nil] at failed
        rw [failed] at further
        simp [directoryOf, find, locate, locateThrough, checkedBelow, further, bind, Except.bind]
    · rw [if_neg short] at checkedBelow
      rw [if_neg fun fits => short fits.1]
      simp [directoryOf, find, locate, locateThrough, checkedBelow, bind, Except.bind]

/-- How a name in a directory below a directory is reached. -/
theorem locate_descend (wellFormed : tree.WellFormed) {root : Path}
    (reached : tree.directoryOf root = .ok place) {names : List Name} {name : Name}
    (found : tree.entry? (place ++ names) = some .directory) (plain : Name.Plain name) :
    ∃ left, tree.locate (root.descend (names ++ [name])) =
      if Fits root (names ++ [name]) then tree.follow true left (place ++ names) [.enter name]
      else .error .nameTooLong := by
  have plainAll : ∀ other ∈ names ++ [name], Name.Plain other := by
    intro other member
    rcases List.mem_append.mp member with member | member
    · exact wellFormed.plain found other (List.mem_append_right _ member)
    · rw [List.mem_singleton.mp member]
      exact plain
  have checked : checkPath root = .ok () := by
    rw [directoryOf_eq_ok_iff, find_eq_ok_iff, locateThrough_eq_ok_iff] at reached
    exact reached.1
  have checkedBelow := checkPath_descend checked _ plainAll
  obtain ⟨left, goesOn⟩ := follow_way_of_directory reached true
  have further := goesOn ((names ++ [name]).map .enter) (by simp)
  rw [← moves_descend root (by simp) plainAll, ← startPlace_descend tree root _ plainAll,
    List.map_append] at further
  refine ⟨left, ?_⟩
  by_cases short : (root.descend (names ++ [name])).bytes.length ≤ longestPath
  · rw [if_pos short] at checkedBelow
    by_cases shortNames : ∀ other ∈ names, other.length ≤ longestName
    · rw [follow_enters wellFormed true left _ names place found shortNames] at further
      by_cases shortName : name.length ≤ longestName
      · have fits : Fits root (names ++ [name]) := by
          refine ⟨short, ?_⟩
          intro other member
          rcases List.mem_append.mp member with member | member
          · exact shortNames other member
          · rw [List.mem_singleton.mp member]
            exact shortName
        rw [if_pos fits]
        simp only [locate, locateThrough, checkedBelow, bind, Except.bind]
        exact further
      · rw [if_neg fun fits => shortName (fits.2 name (by simp))]
        simp only [locate, locateThrough, checkedBelow, bind, Except.bind]
        exact further.trans (follow_long (Nat.not_le.mp shortName))
    · have long : ∃ other ∈ names, longestName < other.length := by simpa using shortNames
      rw [if_neg fun fits => shortNames fun other member =>
        fits.2 other (List.mem_append_left _ member)]
      simp only [locate, locateThrough, checkedBelow, bind, Except.bind]
      exact further.trans (follow_enters_long wellFormed true left _ names place found long)
  · rw [if_neg short] at checkedBelow
    rw [if_neg fun fits => short fits.1]
    simp only [locate, locateThrough, checkedBelow, bind, Except.bind]

/-- A path is not followed to its end: it is too long, or leads through too many links. -/
def Limited (tree : FileTree) (path : Path) : Prop :=
  tree.find path = .error .nameTooLong ∨ tree.find path = .error .tooManyLinks

/-- By two paths to one directory the same is found below it, within the limits of the system. -/
theorem find_descend_of_same (wellFormed : tree.WellFormed) {root other : Path}
    (reached : tree.directoryOf root = .ok place) (alsoReached : tree.directoryOf other = .ok place)
    {names : List Name} {name : Name}
    (found : tree.entry? (place ++ names) = some .directory) (plain : Name.Plain name) :
    tree.find (root.descend (names ++ [name])) = tree.find (other.descend (names ++ [name])) ∨
      tree.Limited (root.descend (names ++ [name])) ∨
      tree.Limited (other.descend (names ++ [name])) := by
  obtain ⟨left, located⟩ := locate_descend wellFormed reached found plain
  obtain ⟨remaining, alsoLocated⟩ := locate_descend wellFormed alsoReached found plain
  by_cases fits : Fits root (names ++ [name])
  · by_cases alsoFits : Fits other (names ++ [name])
    · rw [if_pos fits] at located
      rw [if_pos alsoFits] at alsoLocated
      simp only [Limited, find, located, alsoLocated]
      rcases Nat.le_total left remaining with fewer | fewer
      · rcases follow_of_fewer tree true remaining (place ++ names) [.enter name] left fewer with
          same | limited
        · exact Or.inl (by rw [same])
        · exact Or.inr (Or.inl (Or.inr (by rw [limited]; rfl)))
      · rcases follow_of_fewer tree true left (place ++ names) [.enter name] remaining fewer with
          same | limited
        · exact Or.inl (by rw [same])
        · exact Or.inr (Or.inr (Or.inr (by rw [limited]; rfl)))
    · rw [if_neg alsoFits] at alsoLocated
      exact Or.inr (Or.inr (Or.inl (by rw [find, alsoLocated]; rfl)))
  · rw [if_neg fits] at located
    exact Or.inr (Or.inl (Or.inl (by rw [find, located]; rfl)))

theorem Fits.of_concat {root : Path} {names : List Name} {name : Name} (plain : Name.Plain name)
    (fits : Fits root (names ++ [name])) : Fits root names := by
  obtain ⟨short, shortNames⟩ := fits
  have shorter := Path.length_lt_joinName (root.descend names) plain.nonempty plain.slashless
  rw [Path.descend_concat] at short
  exact ⟨by omega, fun other member => shortNames other (List.mem_append_left _ member)⟩

/-- A file below a directory is found by the names on the way, unless something is too long. -/
theorem find_descend_of_file (wellFormed : tree.WellFormed) {root : Path}
    (reached : tree.directoryOf root = .ok place) {names : List Name} {name : Name}
    {content : Bytes} (found : tree.entry? (place ++ names ++ [name]) = some (.file content))
    (fits : Fits root (names ++ [name])) :
    tree.find (root.descend (names ++ [name])) = .ok (place ++ names ++ [name], .file content) := by
  have plain := wellFormed.plain found name (by simp)
  obtain ⟨left, located⟩ := locate_descend wellFormed reached (wellFormed.parent found) plain
  rw [if_pos fits, follow_file (fits.2 name (by simp)) found, if_pos rfl] at located
  rw [find, located]
  rfl

/-- What is a file by its path below a directory lies in a directory that can be reached. -/
theorem fits_of_isFile (wellFormed : tree.WellFormed) {root : Path}
    (reached : tree.directoryOf root = .ok place) {names : List Name} {name : Name}
    (found : tree.entry? (place ++ names) = some .directory) (plain : Name.Plain name)
    (isFile : tree.isFile (root.descend (names ++ [name])) = true) :
    Fits root (names ++ [name]) := by
  obtain ⟨target, content, reachedFile⟩ := isFile_iff.mp isFile
  obtain ⟨left, located⟩ := locate_descend wellFormed reached found plain
  by_contra long
  rw [if_neg long] at located
  rw [find, located] at reachedFile
  cases reachedFile

/-- Where there is no link, a file by its path is a file in its directory. -/
theorem isFile_descend_iff (wellFormed : tree.WellFormed) {root : Path}
    (reached : tree.directoryOf root = .ok place) {names : List Name} {name : Name}
    (found : tree.entry? (place ++ names) = some .directory)
    (real : ∀ target, tree.entry? (place ++ names ++ [name]) ≠ some (.link target))
    (plain : Name.Plain name) :
    tree.isFile (root.descend (names ++ [name])) = true ↔ Fits root (names ++ [name]) ∧
      ∃ content, tree.entry? (place ++ names ++ [name]) = some (.file content) := by
  constructor
  · intro isFile
    have fits := fits_of_isFile wellFormed reached found plain isFile
    refine ⟨fits, ?_⟩
    obtain ⟨target, content, reachedFile⟩ := isFile_iff.mp isFile
    obtain ⟨left, located⟩ := locate_descend wellFormed reached found plain
    rw [if_pos fits] at located
    rw [find, located] at reachedFile
    have short := fits.2 name (by simp)
    cases entry : tree.entry? (place ++ names ++ [name]) with
    | none =>
        rw [follow_missing short entry, if_pos rfl] at reachedFile
        cases reachedFile
    | some other =>
        cases other with
        | file bytes => exact ⟨bytes, rfl⟩
        | directory =>
            rw [follow_directory short entry, follow_nil] at reachedFile
            cases reachedFile
        | link target => exact absurd entry (real target)
  · rintro ⟨fits, content, entry⟩
    rw [isFile_iff]
    exact ⟨_, content, find_descend_of_file wellFormed reached entry fits⟩

/-! ## Trees that agree -/

/-- What is found stays so when directories are created. -/
theorem AddsDirectories.find {before after : FileTree} (adds : before.AddsDirectories after)
    {path : Path} {place : Place} {entry : Entry} (found : before.find path = .ok (place, entry)) :
    after.find path = .ok (place, entry) := by
  rw [find_eq_ok_iff, locateThrough_eq_ok_iff] at found ⊢
  obtain ⟨checked, leads⟩ := found
  refine ⟨checked, ?_⟩
  rw [startPlace, adds.working]
  exact leads.keeps (fun _ _ => adds.keeps) place entry rfl

theorem AddsDirectories.isFile {before after : FileTree} (adds : before.AddsDirectories after)
    {path : Path} (isFile : before.isFile path = true) : after.isFile path = true := by
  obtain ⟨place, content, found⟩ := isFile_iff.mp isFile
  exact isFile_iff.mpr ⟨place, content, adds.find found⟩

theorem Agrees.follow {before after : FileTree} (agrees : before.Agrees after) (through : Bool)
    (links : Nat) (place : Place) (moves : List Path.Move) :
    after.follow through links place moves = before.follow through links place moves := by
  fun_induction before.follow through links place moves with
  | case1 links place => exact follow_nil ..
  | case2 links place rest ih => rw [follow_stay, ih]
  | case3 links place rest ih => rw [follow_up, ih]
  | case4 links place name rest long => exact follow_long long
  | case5 links place name short found =>
      rw [follow_missing (Nat.not_lt.mp short) ((agrees.entries _).trans found), if_pos rfl]
  | case6 links place name rest short found more =>
      rw [follow_missing (Nat.not_lt.mp short) ((agrees.entries _).trans found), if_neg more]
  | case7 links place name rest short found ih =>
      rw [follow_directory (Nat.not_lt.mp short) ((agrees.entries _).trans found), ih]
  | case8 links place name short content found =>
      rw [follow_file (Nat.not_lt.mp short) ((agrees.entries _).trans found), if_pos rfl]
  | case9 links place name rest short content found more =>
      rw [follow_file (Nat.not_lt.mp short) ((agrees.entries _).trans found), if_neg more]
  | case10 links place name rest short target found last =>
      rw [follow_link (Nat.not_lt.mp short) ((agrees.entries _).trans found), if_pos last]
  | case11 place name rest short target found more =>
      rw [follow_link (Nat.not_lt.mp short) ((agrees.entries _).trans found), if_neg more]
  | case12 place name rest short target found more links empty =>
      rw [follow_link (Nat.not_lt.mp short) ((agrees.entries _).trans found), if_neg more]
      simp only [empty, if_true]
  | case13 place name rest short target found more links filled ih =>
      rw [follow_link (Nat.not_lt.mp short) ((agrees.entries _).trans found), if_neg more]
      simp only [filled, Bool.false_eq_true, if_false]
      exact ih

section Agreeing

variable {before after : FileTree} (agrees : before.Agrees after)

include agrees

theorem Agrees.locateThrough (through : Bool) (path : Path) :
    after.locateThrough through path = before.locateThrough through path := by
  rw [FileTree.locateThrough, FileTree.locateThrough, FileTree.startPlace, FileTree.startPlace,
    agrees.working]
  simp only [agrees.follow]

theorem Agrees.find (path : Path) : after.find path = before.find path := by
  rw [FileTree.find, FileTree.find, locate, locate, agrees.locateThrough]

theorem Agrees.findItself (path : Path) : after.findItself path = before.findItself path := by
  rw [FileTree.findItself, FileTree.findItself, agrees.locateThrough]

theorem Agrees.isFile (path : Path) : after.isFile path = before.isFile path := by
  rw [FileTree.isFile, FileTree.isFile, agrees.find]

theorem Agrees.directoryOf (path : Path) : after.directoryOf path = before.directoryOf path := by
  rw [FileTree.directoryOf, FileTree.directoryOf, agrees.find]

theorem Agrees.mem_namesIn_iff (place : Place) (name : Name) :
    name ∈ after.namesIn place ↔ name ∈ before.namesIn place := by
  rw [FileTree.mem_namesIn_iff, FileTree.mem_namesIn_iff, agrees.entries]

end Agreeing

end FileTree

end TemplateBuild

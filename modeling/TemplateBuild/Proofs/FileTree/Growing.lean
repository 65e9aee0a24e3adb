import TemplateBuild.Proofs.FileTree.Replacing
import TemplateBuild.Proofs.Path.Endings

/-!
# Trees that grow

In a tree without links, a path leads to the place that it spells out.  In any tree, a file is
stored under the last name of its path, so what has another name stays as it is.

A tree grows when directories are created and files are written that do not have names of a
certain kind: what was a directory stays one, and the files with such names stay as they are.
-/

set_option autoImplicit false

namespace TemplateBuild

namespace FileTree

/-! ## Where paths lead -/

section LinkFree

variable {tree other : FileTree} {through : Bool} {links : Nat} {place : Place}
  {moves : List Path.Move}

/-- Without links there is nothing to follow. -/
theorem Leads.either (free : tree.LinkFree) {arrival : Arrival}
    (leads : tree.Leads through links place moves arrival) (another : Bool) :
    tree.Leads another links place moves arrival := by
  induction leads with
  | finished links place => exact .finished links place
  | stay _ ih => exact .stay ih
  | up _ ih => exact .up ih
  | missing short absent => exact .missing short absent
  | directory short found _ ih => exact .directory short found ih
  | file short found => exact .file short found
  | itself _ _ found => exact absurd found (free _ _)
  | link _ _ found => exact absurd found (free _ _)

/-- The way to a directory is a way through directories. -/
theorem Leads.through_directories (free : tree.LinkFree)
    (kept : ∀ place, tree.entry? place = some .directory → other.entry? place = some .directory)
    {arrival : Arrival} (leads : tree.Leads through links place moves arrival) :
    ∀ found, arrival = .present found .directory →
      other.Leads through links place moves arrival := by
  induction leads with
  | finished links place => exact fun _ _ => .finished links place
  | stay _ ih => exact fun found same => .stay (ih found same)
  | up _ ih => exact fun found same => .up (ih found same)
  | missing =>
      intro found same
      cases same
  | directory short isDirectory _ ih =>
      exact fun found same => .directory short (kept _ isDirectory) (ih found same)
  | file =>
      intro found same
      cases same
  | itself =>
      intro found same
      cases same
  | link _ _ found => exact absurd found (free _ _)

/-- Where a file is put in the place of what a path leads to, the path leads to the file. -/
theorem Leads.to_file (free : tree.LinkFree)
    (kept : ∀ place, tree.entry? place = some .directory → other.entry? place = some .directory)
    {arrival : Arrival} (leads : tree.Leads through links place moves arrival) {content : Bytes} :
    (∀ found, arrival ≠ .present found .directory) →
      other.entry? arrival.place = some (.file content) →
      other.Leads through links place moves (.present arrival.place (.file content)) := by
  induction leads with
  | finished links place => exact fun leaf _ => absurd rfl (leaf place)
  | stay _ ih => exact fun leaf found => .stay (ih leaf found)
  | up _ ih => exact fun leaf found => .up (ih leaf found)
  | missing short _ => exact fun _ found => .file short found
  | directory short isDirectory _ ih =>
      exact fun leaf found => .directory short (kept _ isDirectory) (ih leaf found)
  | file short _ => exact fun _ found => .file short found
  | itself _ _ found => exact absurd found (free _ _)
  | link _ _ found => exact absurd found (free _ _)

/-- Whoever enters a directory last has found it. -/
theorem Leads.found_of_enter (free : tree.LinkFree) {arrival : Arrival} {name : Name}
    (leads : tree.Leads through links place moves arrival) :
    moves.getLast? = some (.enter name) → ∀ found, arrival = .present found .directory →
      tree.entry? found = some .directory := by
  induction leads with
  | finished links place =>
      intro last
      cases last
  | @stay links place rest arrival _ ih =>
      intro last
      cases rest with
      | nil => cases last
      | cons next others => exact ih (by rwa [List.getLast?_cons_cons] at last)
  | @up links place rest arrival _ ih =>
      intro last
      cases rest with
      | nil => cases last
      | cons next others => exact ih (by rwa [List.getLast?_cons_cons] at last)
  | @directory links place inner rest arrival _ found further ih =>
      intro last
      cases rest with
      | nil =>
          intro other same
          cases further
          cases same
          exact found
      | cons next others => exact ih (by rwa [List.getLast?_cons_cons] at last)
  | missing =>
      intro _ found same
      cases same
  | file =>
      intro _ found same
      cases same
  | itself =>
      intro _ found same
      cases same
  | link _ _ found => exact absurd found (free _ _)

theorem findItself_of_directoryOf (free : tree.LinkFree) {path : Path}
    (reached : tree.directoryOf path = .ok place) :
    tree.findItself path = .ok (place, .directory) := by
  rw [directoryOf_eq_ok_iff, find_eq_ok_iff, locateThrough_eq_ok_iff] at reached
  rw [findItself_eq_ok_iff, locateThrough_eq_ok_iff]
  exact ⟨reached.1, reached.2.either free false⟩

theorem directoryOf_of_kept (free : tree.LinkFree) (working : other.working = tree.working)
    (kept : ∀ place, tree.entry? place = some .directory → other.entry? place = some .directory)
    {path : Path} (reached : tree.directoryOf path = .ok place) :
    other.directoryOf path = .ok place := by
  rw [directoryOf_eq_ok_iff, find_eq_ok_iff, locateThrough_eq_ok_iff] at reached ⊢
  obtain ⟨checked, leads⟩ := reached
  refine ⟨checked, ?_⟩
  rw [startPlace, working]
  exact leads.through_directories free kept place rfl

/-- Moves that enter a name last spell out a place with this name. -/
theorem getLast?_landing (start : Place) {name : Name}
    (isLast : moves.getLast? = some (.enter name)) :
    (landing start moves).getLast? = some name := by
  obtain ⟨others, rfl⟩ := List.getLast?_eq_some_iff.mp isLast
  rw [landing_append]
  exact List.getLast?_concat

/-- Moves that enter a name last, and do not follow a link there, arrive under this name. -/
theorem Leads.getLast?_place {arrival : Arrival} {name : Name}
    (leads : tree.Leads false links place moves arrival) :
    moves.getLast? = some (.enter name) → arrival.place.getLast? = some name := by
  induction leads with
  | finished =>
      intro last
      cases last
  | @stay links start rest arrival _ ih =>
      intro last
      cases rest with
      | nil => cases last
      | cons next others => exact ih (by rwa [List.getLast?_cons_cons] at last)
  | @up links start rest arrival _ ih =>
      intro last
      cases rest with
      | nil => cases last
      | cons next others => exact ih (by rwa [List.getLast?_cons_cons] at last)
  | missing | file | itself =>
      intro last
      cases last
      exact List.getLast?_concat
  | @directory links start inner rest arrival _ _ leads ih =>
      intro last
      cases rest with
      | nil =>
          cases last
          cases leads
          exact List.getLast?_concat
      | cons next others => exact ih (by rwa [List.getLast?_cons_cons] at last)
  | @link links start inner rest target arrival notLast _ _ _ _ ih =>
      intro last
      cases rest with
      | nil => exact absurd ⟨rfl, rfl⟩ notLast
      | cons next others =>
          rw [List.getLast?_cons_cons] at last
          exact ih (by rw [List.getLast?_append, last]; rfl)

/-- The place that a path spells out. -/
def landingOf (tree : FileTree) (path : Path) : Place :=
  landing (tree.startPlace path) path.moves

theorem landingOf_congr (working : other.working = tree.working) (path : Path) :
    other.landingOf path = tree.landingOf path := by
  rw [landingOf, landingOf, startPlace, startPlace, working]

theorem landingOf_of_destination (free : tree.LinkFree) {path : Path}
    (bare : path.hasSlashAtEnd = false) (reached : tree.destination path = .ok place) :
    place = tree.landingOf path := by
  obtain ⟨arrival, located, rfl⟩ := destination_eq_ok_iff.mp reached
  obtain ⟨_, _, leads⟩ := locateItself_eq_ok_iff.mp located
  rw [Path.dropSlashes_eq bare] at leads
  exact leads.place_eq_landing free

/-- Whoever ends in a name and where no directory is has not arrived at one. -/
theorem not_directory_of_leaf (free : tree.LinkFree) {path : Path} {arrival : Arrival}
    (located : tree.locateItself path = .ok arrival) (ends : endsInName path = true)
    (leaf : tree.entry? arrival.place ≠ some .directory) :
    ∀ found, arrival ≠ .present found .directory := by
  intro found isDirectory
  obtain ⟨_, _, leads⟩ := locateItself_eq_ok_iff.mp located
  rw [endsInName] at ends
  split at ends
  · next name last =>
    have isFound := leads.found_of_enter free last found isDirectory
    rw [isDirectory] at leaf
    exact leaf isFound
  · cases ends

end LinkFree

/-! ## Files stored -/

namespace Stores

variable {before after : FileTree} {path : Path} {content : Bytes}

/-- A file is stored at the place that its path spells out. -/
theorem lands (free : before.LinkFree) (stores : before.Stores path content after) :
    ∃ middle, before.AddsDirectories middle ∧
      middle.entry? (before.landingOf path) ≠ some .directory ∧
      middle.PutsFile (before.landingOf path) content after := by
  obtain ⟨middle, place, adds, destination, leaf, _, bare, puts⟩ := stores
  have same := landingOf_of_destination (adds.linkFree free) bare destination
  rw [landingOf_congr adds.working] at same
  subst same
  exact ⟨middle, adds, leaf, puts⟩

theorem directory_kept (stores : before.Stores path content after) {place : Place}
    (found : before.entry? place = some .directory) : after.entry? place = some .directory := by
  obtain ⟨middle, destination, adds, _, leaf, _, _, puts⟩ := stores
  exact puts.directory_kept leaf (adds.keeps found)

theorem working (stores : before.Stores path content after) : after.working = before.working := by
  obtain ⟨middle, _, adds, _, _, _, _, puts⟩ := stores
  exact puts.working.trans adds.working

theorem linkFree (stores : before.Stores path content after) (free : before.LinkFree) :
    after.LinkFree := by
  obtain ⟨middle, _, adds, _, _, _, _, puts⟩ := stores
  exact puts.linkFree (adds.linkFree free)

theorem endsInName (stores : before.Stores path content after) :
    checkPath path = .ok () ∧ endsInName path = true ∧ path.hasSlashAtEnd = false := by
  obtain ⟨middle, _, _, destination, _, ends, bare, _⟩ := stores
  obtain ⟨_, located, _⟩ := destination_eq_ok_iff.mp destination
  exact ⟨(locateItself_eq_ok_iff.mp located).1, ends, bare⟩

/-- The path leads to a file that is found there later, as long as directories stay. -/
theorem contentOf (free : before.LinkFree) (stores : before.Stores path content after)
    {last : FileTree} {present : Bytes} (working : last.working = after.working)
    (kept : ∀ place, after.entry? place = some .directory → last.entry? place = some .directory)
    (found : last.entry? (before.landingOf path) = some (.file present)) :
    last.contentOf path = .ok present := by
  have start := stores.working
  obtain ⟨middle, place, adds, destination, leaf, ends, bare, puts⟩ := stores
  have middleFree := adds.linkFree free
  have same := landingOf_of_destination middleFree bare destination
  rw [landingOf_congr adds.working] at same
  obtain ⟨arrival, located, rfl⟩ := destination_eq_ok_iff.mp destination
  have leafArrival := not_directory_of_leaf middleFree located ends leaf
  obtain ⟨checked, _, leads⟩ := locateItself_eq_ok_iff.mp located
  rw [Path.dropSlashes_eq bare] at leads
  have through : ∀ other, middle.entry? other = some .directory →
      last.entry? other = some .directory :=
    fun other isDirectory => kept other (puts.directory_kept leaf isDirectory)
  rw [← same] at found
  have reaches := (leads.either middleFree true).to_file middleFree through leafArrival found
  rw [contentOf_eq_ok_iff]
  refine ⟨arrival.place, ?_⟩
  rw [find_eq_ok_iff, locateThrough_eq_ok_iff]
  have starts : last.startPlace path = middle.startPlace path := by
    rw [startPlace, startPlace, working, start, adds.working]
  rw [starts]
  exact ⟨checked, reaches⟩

/-- A file that is stored takes the place of what has the same name, or leaves it as it is. -/
theorem spares (stores : before.Stores path content after) {place : Place} {entry : Entry}
    (found : before.entry? place = some entry) :
    after.entry? place = some entry ∨
      path.fileName = place.getLast? ∧ after.entry? place = some (.file content) := by
  obtain ⟨checked, ends, bare⟩ := stores.endsInName
  obtain ⟨middle, spot, adds, destination, _, _, _, puts⟩ := stores
  rw [puts.entries]
  split
  · next here =>
    obtain ⟨arrival, located, reached⟩ := destination_eq_ok_iff.mp destination
    obtain ⟨_, _, leads⟩ := locateItself_eq_ok_iff.mp located
    rw [FileTree.endsInName, Path.dropSlashes_eq bare] at ends
    rw [Path.dropSlashes_eq bare] at leads
    split at ends
    · next name isLast =>
      rw [Path.fileName_of_enter isLast, here, ← reached, leads.getLast?_place isLast]
      exact Or.inr ⟨rfl, rfl⟩
    · cases ends
  · exact Or.inl (adds.keeps found)

end Stores

/-! ## Growing -/

/-- What may have become of a tree: directories were created, and files were written that do not
have a wanted name, though never in the place of a directory. -/
structure Grown (wanted : Name → Prop) (before after : FileTree) : Prop where
  working : after.working = before.working
  entries : ∀ place, after.entry? place = before.entry? place ∨
    before.entry? place = none ∧ after.entry? place = some .directory ∨
    before.entry? place ≠ some .directory ∧
      (∃ content, after.entry? place = some (.file content)) ∧
      ∀ name, place.getLast? = some name → ¬ wanted name

namespace Grown

variable {wanted : Name → Prop} {before middle after : FileTree}

theorem refl (tree : FileTree) : Grown wanted tree tree :=
  ⟨rfl, fun _ => Or.inl rfl⟩

theorem directory (grown : Grown wanted before after) {place : Place}
    (found : before.entry? place = some .directory) : after.entry? place = some .directory := by
  rcases grown.entries place with same | ⟨absent, _⟩ | ⟨other, _⟩
  · rw [same, found]
  · rw [absent] at found
    cases found
  · exact absurd found other

theorem adds (grown : Grown wanted before middle) (adds : middle.AddsDirectories after) :
    Grown wanted before after := by
  refine ⟨adds.working.trans grown.working, ?_⟩
  intro place
  rcases adds.entries place with same | ⟨absent, created⟩
  · rw [same]
    exact grown.entries place
  · rcases grown.entries place with same | ⟨_, found⟩ | ⟨_, ⟨content, found⟩, _⟩
    · exact Or.inr (Or.inl ⟨same.symm.trans absent, created⟩)
    · rw [absent] at found
      cases found
    · rw [absent] at found
      cases found

theorem puts (grown : Grown wanted before middle) {place : Place} {content : Bytes}
    (puts : middle.PutsFile place content after) (leaf : middle.entry? place ≠ some .directory)
    (unwanted : ∀ name, place.getLast? = some name → ¬ wanted name) :
    Grown wanted before after := by
  refine ⟨puts.working.trans grown.working, ?_⟩
  intro other
  rw [puts.entries]
  split
  · next same =>
    subst same
    exact Or.inr (Or.inr ⟨fun found => leaf (grown.directory found), ⟨content, rfl⟩, unwanted⟩)
  · exact grown.entries other

/-- Files stay files. -/
theorem file (grown : Grown wanted before after) {place : Place} {content : Bytes}
    (found : before.entry? place = some (.file content)) :
    ∃ other, after.entry? place = some (.file other) := by
  rcases grown.entries place with same | ⟨absent, _⟩ | ⟨_, isFile, _⟩
  · exact ⟨content, same.trans found⟩
  · rw [found] at absent
    cases absent
  · exact isFile

theorem linkFree (grown : Grown wanted before after) (free : before.LinkFree) :
    after.LinkFree := by
  intro place target found
  rcases grown.entries place with same | ⟨_, created⟩ | ⟨_, ⟨content, written⟩, _⟩
  · exact free place target (same.symm.trans found)
  · rw [created] at found
    cases found
  · rw [written] at found
    cases found

/-- A tree grows when a file is stored whose name is not wanted. -/
theorem stores (free : before.LinkFree) (grown : Grown wanted before middle) {path : Path}
    {content : Bytes} (stores : middle.Stores path content after)
    (unwanted : ∀ name, path.fileName = some name → Name.Plain name → ¬ wanted name) :
    Grown wanted before after := by
  obtain ⟨checked, ends, bare⟩ := stores.endsInName
  obtain ⟨prepared, adds, leaf, puts⟩ := stores.lands (grown.linkFree free)
  refine (grown.adds adds).puts puts leaf ?_
  intro name isLast
  rw [endsInName, Path.dropSlashes_eq bare] at ends
  split at ends
  · next entered lastMove =>
    rw [landingOf, getLast?_landing _ lastMove, Option.some.injEq] at isLast
    subst isLast
    exact unwanted entered (Path.fileName_of_enter lastMove)
      (Path.plain_of_enter_mem_moves (checkPath_eq_ok_iff.mp checked).1
        (List.mem_of_getLast? lastMove))
  · cases ends

/-- Files with a wanted name are as they were. -/
theorem file_iff (grown : Grown wanted before after) {place : Place} {name : Name}
    (isWanted : wanted name) {content : Bytes} :
    after.entry? (place ++ [name]) = some (.file content) ↔
      before.entry? (place ++ [name]) = some (.file content) := by
  rcases grown.entries (place ++ [name]) with same | ⟨absent, created⟩ | ⟨_, _, unwanted⟩
  · rw [same]
  · rw [absent, created]
    simp
  · exact absurd isWanted (unwanted name List.getLast?_concat)

theorem directoryOf (grown : Grown wanted before after) (free : before.LinkFree) {path : Path}
    {place : Place} (reached : before.directoryOf path = .ok place) :
    after.directoryOf path = .ok place :=
  directoryOf_of_kept free grown.working (fun _ => grown.directory) reached

theorem isFile (grown : Grown wanted before after) (wellFormed : before.WellFormed)
    (free : before.LinkFree) {path : Path} (isFile : before.isFile path = true) :
    after.isFile path = true := by
  obtain ⟨place, content, found⟩ := isFile_iff.mp isFile
  rw [find_eq_ok_iff, locateThrough_eq_ok_iff] at found
  obtain ⟨checked, leads⟩ := found
  have holds : before.entry? place = some (.file content) :=
    leads.holds wellFormed (wellFormed.startPlace path)
  obtain ⟨other, present⟩ := grown.file holds
  rw [isFile_iff]
  refine ⟨place, other, ?_⟩
  rw [find_eq_ok_iff, locateThrough_eq_ok_iff, startPlace, grown.working]
  exact ⟨checked,
    leads.to_file free (fun _ => grown.directory) (fun _ same => by cases same) present⟩

end Grown

end FileTree

end TemplateBuild

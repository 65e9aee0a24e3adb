import TemplateBuild.Proofs.FileTree.Growing

/-!
# Creating directories

A directory that was created is found by the path that it was created for, and so is one that
was there before.  Nothing else is new but directories to which the path and the paths above it
lead.
-/

set_option autoImplicit false

namespace TemplateBuild

/-- A path, the path above it, the one above that, and so on. -/
inductive Path.Upward : Path → Path → Prop
  | itself (path : Path) : Upward path path
  | above {path parent further : Path} :
      path.parent = some parent → Upward parent further → Upward path further

namespace FileTree

variable {tree other : FileTree}

/-! ## A single directory -/

/-- Where nothing was, moves arrive at a directory once there is one. -/
theorem Leads.to_directory {links : Nat} {place : Place} {moves : List Path.Move}
    {arrival : Arrival}
    (kept : ∀ place entry, tree.entry? place = some entry → other.entry? place = some entry)
    (leads : tree.Leads false links place moves arrival) :
    ∀ directory name, arrival = .absent directory name →
      other.entry? (directory ++ [name]) = some .directory →
        other.Leads true links place moves (.present (directory ++ [name]) .directory) := by
  induction leads with
  | finished links place => intro _ _ same; cases same
  | stay _ ih => intro directory name same made; exact .stay (ih directory name same made)
  | up _ ih => intro directory name same made; exact .up (ih directory name same made)
  | missing short _ =>
      intro directory name same made
      cases same
      exact .directory short made (.finished _ _)
  | directory short found _ ih =>
      intro directory name same made
      exact .directory short (kept _ _ found) (ih directory name same made)
  | file => intro _ _ same; cases same
  | itself => intro _ _ same; cases same
  | link _ short found filled _ ih =>
      intro directory name same made
      exact .link (fun last => by cases last.2) short (kept _ _ found) filled
        (ih directory name same made)

theorem directoryOf_of_created {path : Path} {directory : Place} {name : Name}
    (located : tree.locateItself path = .ok (.absent directory name))
    (adds : tree.AddsDirectories other)
    (made : other.entry? (directory ++ [name]) = some .directory) :
    other.directoryOf path = .ok (directory ++ [name]) := by
  obtain ⟨checked, _, leads⟩ := locateItself_eq_ok_iff.mp located
  -- Something is missing, so the path does not end at a root, and its way is all there is.
  have last := leads.last_of_absent rfl
  have bare : path.dropSlashes.moves = path.way := by
    rw [Path.moves_eq, Path.way_dropSlashes] at last ⊢
    split
    · next slashed => rw [if_pos slashed, List.getLast?_concat] at last; cases last
    · rw [List.append_nil]
  have reaches := leads.to_directory (fun _ _ => adds.keeps) directory name rfl made
  rw [bare, startPlace, Path.isAbsolute_dropSlashes, ← adds.working, ← startPlace] at reaches
  rw [directoryOf_eq_ok_iff, find_eq_ok_iff, locateThrough_eq_ok_iff, Path.moves_eq]
  refine ⟨checked, ?_⟩
  split
  · exact reaches.staying true
  · rwa [List.append_nil]

/-- The one place at which a tree is different once a directory was created. -/
theorem makeDirectory_leads {after : FileTree} (wellFormed : tree.WellFormed) {path : Path}
    (made : tree.makeDirectory path = .ok after) : ∃ place,
      after.directoryOf path = .ok place ∧
        ∀ other, other ≠ place → after.entry? other = tree.entry? other := by
  obtain ⟨adds, _⟩ := makeDirectory_adds wellFormed made
  obtain ⟨directory, name, located, rfl⟩ := makeDirectory_eq_ok made
  have inner : directory ++ [name] ≠ [] := by simp
  refine ⟨directory ++ [name], ?_, ?_⟩
  · apply directoryOf_of_created located adds
    rw [entry?_store tree inner, if_pos rfl]
  · intro other different
    rw [entry?_store tree inner, if_neg different]

theorem AddsDirectories.directoryOf {after : FileTree} (adds : tree.AddsDirectories after)
    {path : Path} {place : Place} (reached : tree.directoryOf path = .ok place) :
    after.directoryOf path = .ok place := by
  rw [directoryOf_eq_ok_iff] at reached ⊢
  exact adds.find reached

/-! ## Names in a directory -/

/-- The directory in which a name lies that is joined to a path: joined to the empty path it
lies in the working directory. -/
def directoryFor (tree : FileTree) (path : Path) : Except FileFailure Place :=
  if path.isEmpty then .ok tree.working else tree.directoryOf path

section Names

variable {path base : Path} {directory : Place} {name : Name}

theorem directoryFor_cases (reached : tree.directoryFor path = .ok directory) :
    (path.bytes = [] ∧ directory = tree.working) ∨ tree.directoryOf path = .ok directory := by
  rw [directoryFor] at reached
  split at reached
  · next empty =>
    cases reached
    exact Or.inl ⟨List.isEmpty_iff.mp empty, rfl⟩
  · exact Or.inr reached

theorem entry?_of_directoryFor (wellFormed : tree.WellFormed)
    (reached : tree.directoryFor path = .ok directory) :
    tree.entry? directory = some .directory := by
  rcases directoryFor_cases reached with ⟨_, rfl⟩ | reached
  · exact wellFormed.working
  · exact entry?_of_directoryOf wellFormed reached

theorem directoryFor_of_kept (free : tree.LinkFree) (working : other.working = tree.working)
    (kept : ∀ place, tree.entry? place = some .directory → other.entry? place = some .directory)
    (reached : tree.directoryFor path = .ok directory) :
    other.directoryFor path = .ok directory := by
  rw [directoryFor] at reached ⊢
  split
  · next empty =>
      rw [if_pos empty] at reached
      rwa [working]
  · next filled =>
      rw [if_neg filled] at reached
      exact directoryOf_of_kept free working kept reached

theorem follow_stays (through : Bool) (links : Nat) (place : Place) (rest : List Path.Move) :
    ∀ count, tree.follow through links place (List.replicate count .stay ++ rest) =
      tree.follow through links place rest := by
  intro count
  induction count with
  | zero => rfl
  | succ count ih => rw [List.replicate_succ, List.cons_append, follow_stay, ih]

/-- The name at the end of a path is looked for in the directory of the rest. -/
theorem follow_of_enters (enters : path.Enters base name)
    (reached : tree.directoryFor base = .ok directory) (through : Bool) : ∃ left,
      tree.follow through mostLinks (tree.startPlace path) path.moves =
        tree.follow through left directory [.enter name] := by
  obtain ⟨count, moves⟩ := enters.moves
  rw [startPlace, enters.absolute, ← startPlace, moves]
  rcases directoryFor_cases reached with ⟨empty, rfl⟩ | reached
  · refine ⟨mostLinks, ?_⟩
    rw [← follow_stays through mostLinks tree.working [.enter name] count]
    simp [Path.way, Path.segments, Path.segmentsOf, startPlace, Path.isAbsolute, empty]
  · obtain ⟨left, goesOn⟩ := follow_way_of_directory reached through
    exact ⟨left, by rw [goesOn _ (by simp), follow_stays]⟩

/-- What is created or replaced by a path lies under its name in the directory of the rest. -/
theorem destination_of_enters {place : Place} (enters : path.Enters base name)
    (reached : tree.directoryFor base = .ok directory)
    (arrived : tree.destination path = .ok place) :
    place = directory ++ [name] ∧ checkPath path = .ok () ∧ name.length ≤ longestName := by
  obtain ⟨arrival, located, rfl⟩ := destination_eq_ok_iff.mp arrived
  obtain ⟨checked, _, leads⟩ := locateItself_eq_ok_iff.mp located
  obtain ⟨left, goesOn⟩ := follow_of_enters enters reached false
  rw [Path.dropSlashes_eq enters.bare, ← follow_eq_ok_iff, goesOn, follow_eq_ok_iff] at leads
  cases leads with
  | missing short => exact ⟨rfl, checked, short⟩
  | directory short _ rest => cases rest; exact ⟨rfl, checked, short⟩
  | file short => exact ⟨rfl, checked, short⟩
  | itself _ short => exact ⟨rfl, checked, short⟩
  | link last => exact absurd ⟨rfl, rfl⟩ last

theorem contentOf_of_enters {content : Bytes} (enters : path.Enters base name)
    (checked : checkPath path = .ok ()) (short : name.length ≤ longestName)
    (reached : tree.directoryFor base = .ok directory)
    (found : tree.entry? (directory ++ [name]) = some (.file content)) :
    tree.contentOf path = .ok content := by
  obtain ⟨left, goesOn⟩ := follow_of_enters enters reached true
  rw [follow_file short found, if_pos rfl, follow_eq_ok_iff] at goesOn
  rw [contentOf_eq_ok_iff]
  refine ⟨directory ++ [name], ?_⟩
  rw [find_eq_ok_iff, locateThrough_eq_ok_iff]
  exact ⟨checked, goesOn⟩

/-- A new file leads to no new directory. -/
theorem PutsFile.directoryFor {after : FileTree} {place : Place} {content : Bytes}
    (puts : tree.PutsFile place content after) (reached : after.directoryFor path = .ok directory) :
    tree.directoryFor path = .ok directory := by
  rw [FileTree.directoryFor, puts.working] at reached
  rw [FileTree.directoryFor]
  split at reached
  · next empty => rwa [if_pos empty]
  · next filled =>
    rw [if_neg filled]
    rw [directoryOf_eq_ok_iff, find_eq_ok_iff, locateThrough_eq_ok_iff] at reached ⊢
    obtain ⟨checked, leads⟩ := reached
    rw [startPlace, puts.working, ← startPlace] at leads
    exact ⟨checked, (leads.unless_file puts).resolve_right fun same => by cases same⟩

/-- What is a file after one was put somewhere was a file before, or is this one. -/
theorem PutsFile.isFile {after : FileTree} {place : Place} {content : Bytes}
    (puts : tree.PutsFile place content after) (isFile : after.isFile path = true) :
    tree.isFile path = true ∨ after.contentOf path = .ok content := by
  obtain ⟨found, bytes, reached⟩ := isFile_iff.mp isFile
  have located := reached
  rw [find_eq_ok_iff, locateThrough_eq_ok_iff] at located
  obtain ⟨checked, leads⟩ := located
  rcases leads.unless_file puts with earlier | same
  · left
    rw [isFile_iff]
    refine ⟨found, bytes, ?_⟩
    rw [find_eq_ok_iff, locateThrough_eq_ok_iff, startPlace, ← puts.working]
    exact ⟨checked, earlier⟩
  · right
    cases same
    exact contentOf_eq_ok_iff.mpr ⟨place, reached⟩

end Names

/-! ## All that is missing -/

/-- Nothing is different but where a path and the paths above it lead to directories. -/
def Opens (before : FileTree) (path : Path) (after : FileTree) : Prop :=
  ∀ place, after.entry? place = before.entry? place ∨
    ∃ above, path.Upward above ∧ after.directoryOf above = .ok place

theorem Opens.refl (tree : FileTree) (path : Path) : tree.Opens path tree :=
  fun _ => Or.inl rfl

theorem Opens.of_parent {path parent : Path} (isParent : path.parent = some parent)
    (opens : tree.Opens parent other) : tree.Opens path other := by
  intro place
  rcases opens place with same | ⟨above, upward, reached⟩
  · exact Or.inl same
  · exact Or.inr ⟨above, .above isParent upward, reached⟩

theorem Opens.agrees {middle after : FileTree} {path : Path} (opens : tree.Opens path middle)
    (agrees : middle.Agrees after) : tree.Opens path after := by
  intro place
  rw [agrees.entries]
  rcases opens place with same | ⟨above, upward, reached⟩
  · exact Or.inl same
  · exact Or.inr ⟨above, upward, (agrees.directoryOf above).trans reached⟩

theorem makeDirectory_opens {after : FileTree} {path : Path} (wellFormed : tree.WellFormed)
    (made : tree.makeDirectory path = .ok after) : tree.Opens path after := by
  obtain ⟨created, reached, otherwise⟩ := makeDirectory_leads wellFormed made
  intro place
  by_cases same : place = created
  · exact Or.inr ⟨path, .itself path, same ▸ reached⟩
  · exact Or.inl (otherwise place same)

section

variable {after : FileTree} {path : Path} {result : Except FileFailure Unit}

theorem Opens.trans {middle : FileTree} (opens : tree.Opens path middle)
    (more : middle.Opens path after) (adds : middle.AddsDirectories after) :
    tree.Opens path after := by
  intro place
  rcases more place with same | new
  · rw [same]
    rcases opens place with earlier | ⟨above, upward, reached⟩
    · exact Or.inl earlier
    · exact Or.inr ⟨above, upward, adds.directoryOf reached⟩
  · exact Or.inr new

theorem Makes.opens (makes : tree.Makes path result after) (wellFormed : tree.WellFormed) :
    tree.Opens path after := by
  induction makes with
  | nothing | there | refused => exact .refl _ _
  | created made => exact makeDirectory_opens wellFormed made
  | refusedAbove isParent _ ih => exact (ih wellFormed).of_parent isParent
  | afterAbove isParent makesAbove makesPath ihAbove ih =>
      have stillWellFormed := (makesAbove.adds wellFormed).2
      exact ((ihAbove wellFormed).of_parent isParent).trans (ih stillWellFormed)
        (makesPath.adds stillWellFormed).1

/-- Whatever is created is where the path or one above it leads. -/
theorem makeDirectories_opens (wellFormed : tree.WellFormed) (path : Path) :
    tree.Opens path (tree.makeDirectories path).2 :=
  (makes_makeDirectories tree path).opens wellFormed

/-- Where nothing was refused, the directory is there. -/
theorem Makes.directoryOf (makes : tree.Makes path result after) (wellFormed : tree.WellFormed) :
    result = .ok () → path.isEmpty = false → ∃ place, after.directoryOf path = .ok place := by
  induction makes with
  | nothing empty =>
      intro _ filled
      rw [empty] at filled
      cases filled
  | created made =>
      intro _ _
      obtain ⟨place, reached, _⟩ := makeDirectory_leads wellFormed made
      exact ⟨place, reached⟩
  | there isThere =>
      intro _ _
      obtain ⟨place, found⟩ := isDirectory_iff.mp isThere
      exact ⟨place, directoryOf_eq_ok_iff.mpr found⟩
  | refused | refusedAbove => intro same; cases same
  | afterAbove _ makesAbove _ _ ih => exact ih (makesAbove.adds wellFormed).2

end

/-- Once created, a directory is there; only the empty path asks for none. -/
theorem directoryOf_of_makeDirectoriesWithin (wellFormed : tree.WellFormed) {depth : Nat}
    {path : Path} {after : FileTree} (nonempty : path.isEmpty = false)
    (made : tree.makeDirectoriesWithin depth path = (.ok (), after)) :
    ∃ place, after.directoryOf path = .ok place := by
  have makes := makes_makeDirectoriesWithin tree depth path
  rw [made] at makes
  exact makes.directoryOf wellFormed rfl nonempty

theorem directoryOf_of_makeDirectories (wellFormed : tree.WellFormed) {path : Path}
    {after : FileTree} (nonempty : path.isEmpty = false)
    (made : tree.makeDirectories path = (.ok (), after)) :
    ∃ place, after.directoryOf path = .ok place :=
  directoryOf_of_makeDirectoriesWithin wellFormed nonempty made

/-- Once a directory is created, names can be joined to its path. -/
theorem directoryFor_of_makeDirectories (wellFormed : tree.WellFormed) {path : Path}
    {after : FileTree} (made : tree.makeDirectories path = (.ok (), after)) :
    ∃ place, after.directoryFor path = .ok place := by
  rw [directoryFor]
  split
  · exact ⟨after.working, rfl⟩
  · next filled =>
    exact directoryOf_of_makeDirectories wellFormed (Bool.eq_false_iff.mpr filled) made

end FileTree

end TemplateBuild

import TemplateBuild.Proofs.FileTree.Reaching
import Mathlib.Data.Finset.Card

/-!
# What changes do to a tree

Creating directories only adds directories.  Writing by way of a temporary file either puts the
complete file at the place of its path, or leaves everything as it was; the temporary file is
gone in both cases.
-/

set_option autoImplicit false

namespace TemplateBuild.FileTree

/-- The place where something with this path is created or replaced. -/
def destination (tree : FileTree) (path : Path) : Except FileFailure Place := do
  return (← tree.locateItself path).place

section Destinations

variable {tree : FileTree} {path : Path} {place : Place}

theorem locateItself_eq_ok_iff {arrival : Arrival} :
    tree.locateItself path = .ok arrival ↔ checkPath path = .ok () ∧
      checkPath path.dropSlashes = .ok () ∧
      tree.Leads false mostLinks (tree.startPlace path.dropSlashes) path.dropSlashes.moves
        arrival := by
  rw [← locateThrough_eq_ok_iff, locateItself]
  cases checkPath path with
  | error failure => simp [bind, Except.bind]
  | ok checked => simp [bind, Except.bind]

theorem destination_eq_ok_iff : tree.destination path = .ok place ↔
    ∃ arrival, tree.locateItself path = .ok arrival ∧ arrival.place = place := by
  rw [destination]
  cases tree.locateItself path with
  | error failure => simp [bind, Except.bind]
  | ok arrival => simp [bind, Except.bind, pure, Except.pure]

/-- A name that something is created with is one that a directory can hold. -/
theorem plain_of_absent {directory : Place} {name : Name}
    (located : tree.locateItself path = .ok (.absent directory name)) : Name.Plain name := by
  obtain ⟨_, checked, leads⟩ := locateItself_eq_ok_iff.mp located
  have last := leads.last_of_absent rfl
  exact Path.plain_of_enter_mem_moves (checkPath_eq_ok_iff.mp checked).1
    (List.mem_of_getLast? last)

theorem WellFormed.holds_of_locateItself (wellFormed : tree.WellFormed) {arrival : Arrival}
    (located : tree.locateItself path = .ok arrival) : arrival.Holds tree := by
  obtain ⟨_, _, leads⟩ := locateItself_eq_ok_iff.mp located
  exact leads.holds wellFormed (wellFormed.startPlace _)

end Destinations

/-! ## Creating directories -/

theorem makeDirectory_eq_ok {tree after : FileTree} {path : Path}
    (made : tree.makeDirectory path = .ok after) : ∃ directory name,
      tree.locateItself path = .ok (.absent directory name) ∧
        after = tree.store (directory ++ [name]) .directory := by
  rw [makeDirectory] at made
  cases located : tree.locateItself path with
  | error failure => simp [located, bind, Except.bind] at made
  | ok arrival =>
      cases arrival with
      | present place entry =>
          simp [located, bind, Except.bind, throw, throwThe, MonadExceptOf.throw] at made
      | absent directory name =>
          simp only [located, bind, Except.bind, pure, Except.pure, Except.ok.injEq] at made
          exact ⟨directory, name, rfl, made.symm⟩

theorem makeDirectory_adds {tree after : FileTree} (wellFormed : tree.WellFormed) {path : Path}
    (made : tree.makeDirectory path = .ok after) :
    tree.AddsDirectories after ∧ after.WellFormed := by
  obtain ⟨directory, name, located, rfl⟩ := makeDirectory_eq_ok made
  obtain ⟨above, absent⟩ := wellFormed.holds_of_locateItself located
  exact ⟨addsDirectories_store absent,
    wellFormed.store above (plain_of_absent located) fun _ => rfl⟩

/-- What creating a directory and those above it may come to, if the system may refuse any of them
for a reason of its own.  To refuse a directory that is there does no harm. -/
inductive Makes : FileTree → Path → Except FileFailure Unit → FileTree → Prop
  | nothing {tree : FileTree} {path : Path} : path.isEmpty = true → Makes tree path (.ok ()) tree
  | created {tree after : FileTree} {path : Path} : tree.makeDirectory path = .ok after →
      Makes tree path (.ok ()) after
  | there {tree : FileTree} {path : Path} : tree.isDirectory path = true →
      Makes tree path (.ok ()) tree
  | refused {tree : FileTree} {path : Path} (failure : FileFailure) :
      Makes tree path (.error failure) tree
  | refusedAbove {tree middle : FileTree} {path parent : Path} {failure : FileFailure} :
      path.parent = some parent → Makes tree parent (.error failure) middle →
      Makes tree path (.error failure) middle
  | afterAbove {tree middle after : FileTree} {path parent : Path}
      {result : Except FileFailure Unit} :
      path.parent = some parent → Makes tree parent (.ok ()) middle →
      Makes middle path result after → Makes tree path result after

theorem makes_acceptDirectory (tree : FileTree) (path : Path) (failure : FileFailure) :
    tree.Makes path (tree.acceptDirectory path failure) tree := by
  rw [acceptDirectory]
  split
  · next isThere => exact .there isThere
  · exact .refused failure

theorem makes_makeDirectoriesWithin (tree : FileTree) (depth : Nat) (path : Path) :
    tree.Makes path (tree.makeDirectoriesWithin depth path).1
      (tree.makeDirectoriesWithin depth path).2 := by
  fun_induction tree.makeDirectoriesWithin depth path with
  | case1 path => exact .refused .notFound
  | case2 depth path empty => exact .nothing empty
  | case3 depth path _ after made => exact .created made
  | case4 depth path => exact .refused .notFound
  | case5 depth path _ _ parent isParent failure after failed ih =>
      rw [failed] at ih
      exact .refusedAbove isParent ih
  | case6 depth path _ _ parent isParent middle succeeded after made ih =>
      rw [succeeded] at ih
      exact .afterAbove isParent ih (.created made)
  | case7 depth path _ _ parent isParent middle succeeded failure _ ih =>
      rw [succeeded] at ih
      exact .afterAbove isParent ih (makes_acceptDirectory middle path failure)
  | case8 depth path _ failure => exact makes_acceptDirectory _ path failure

section

variable {tree after : FileTree} {path : Path} {result : Except FileFailure Unit}

theorem makes_makeDirectories (tree : FileTree) (path : Path) :
    tree.Makes path (tree.makeDirectories path).1 (tree.makeDirectories path).2 :=
  makes_makeDirectoriesWithin tree _ path

theorem Makes.adds (makes : tree.Makes path result after) (wellFormed : tree.WellFormed) :
    tree.AddsDirectories after ∧ after.WellFormed := by
  induction makes with
  | nothing | there | refused => exact ⟨.refl _, wellFormed⟩
  | created made => exact makeDirectory_adds wellFormed made
  | refusedAbove _ _ ih => exact ih wellFormed
  | afterAbove _ _ _ ihAbove ih =>
      obtain ⟨adds, stillWellFormed⟩ := ihAbove wellFormed
      obtain ⟨more, finallyWellFormed⟩ := ih stillWellFormed
      exact ⟨adds.trans more, finallyWellFormed⟩

/-- Creating directories adds directories and nothing else, also when it fails half way. -/
theorem makeDirectories_adds {tree : FileTree} (wellFormed : tree.WellFormed) (path : Path) :
    tree.AddsDirectories (tree.makeDirectories path).2 ∧
      (tree.makeDirectories path).2.WellFormed :=
  (makes_makeDirectories tree path).adds wellFormed

end

/-! ## Filling a temporary file -/

theorem PutsFile.trans {before middle after : FileTree} {place : Place} {first second : Bytes}
    (once : before.PutsFile place first middle) (again : middle.PutsFile place second after) :
    before.PutsFile place second after := by
  refine ⟨again.working.trans once.working, ?_⟩
  intro other
  rw [again.entries, once.entries]
  split <;> rfl

theorem putsFile_store (tree : FileTree) {place : Place} (inner : place ≠ []) (content : Bytes) :
    tree.PutsFile place content (tree.store place (.file content)) :=
  ⟨rfl, entry?_store tree inner (.file content)⟩

/-- A fresh place in a directory. -/
structure Fresh (tree : FileTree) (directory : Place) (name : Name) : Prop where
  above : tree.entry? directory = some .directory
  plain : Name.Plain name
  absent : tree.entry? (directory ++ [name]) = none

theorem appending (directory : Place) (name : Name) (plain : Name.Plain name) :
    ∀ (pieces : List Bytes) (tree : FileTree) (content : Bytes),
      tree.WellFormed → tree.entry? directory = some .directory →
      tree.entry? (directory ++ [name]) = some (.file content) →
      ∃ filled, tree.PutsFile (directory ++ [name]) (content ++ pieces.flatten) filled ∧
        filled.WellFormed ∧ ∀ rest,
          WriteStep.performAll tree (pieces.map (.append (directory ++ [name])) ++ rest) =
            WriteStep.performAll filled rest := by
  intro pieces
  induction pieces with
  | nil =>
      intro tree content wellFormed _ found
      refine ⟨tree, ⟨rfl, ?_⟩, wellFormed, fun _ => rfl⟩
      intro other
      split
      · next same => rw [same, found]; simp
      · rfl
  | cons piece pieces ih =>
      intro tree content wellFormed above found
      have inner : directory ++ [name] ≠ [] := by simp
      have puts := putsFile_store tree inner (content ++ piece)
      have stored : (tree.store (directory ++ [name]) (.file (content ++ piece))).WellFormed :=
        wellFormed.store above plain fun isDirectory => by
          rw [found] at isDirectory
          cases isDirectory
      have stillAbove : entry? (tree.store (directory ++ [name]) (.file (content ++ piece)))
          directory = some .directory := by
        rw [puts.entries, if_neg (by simp)]
        exact above
      obtain ⟨filled, putsAll, filledWellFormed, performed⟩ :=
        ih _ (content ++ piece) stored stillAbove (by rw [puts.entries, if_pos rfl])
      rw [List.append_assoc, ← List.flatten_cons] at putsAll
      refine ⟨filled, puts.trans putsAll, filledWellFormed, ?_⟩
      intro rest
      rw [← performed rest]
      simp [WriteStep.performAll, WriteStep.perform, found]

theorem filling {tree : FileTree} (wellFormed : tree.WellFormed) {directory : Place}
    {name : Name} (fresh : tree.Fresh directory name) (pieces : List Bytes) :
    ∃ filled, tree.PutsFile (directory ++ [name]) pieces.flatten filled ∧
      filled.WellFormed ∧ ∀ rest,
        WriteStep.performAll tree (WriteStep.filling (directory ++ [name]) pieces ++ rest) =
          WriteStep.performAll filled rest := by
  have inner : directory ++ [name] ≠ [] := by simp
  have puts := putsFile_store tree inner []
  have stored : (tree.store (directory ++ [name]) (.file [])).WellFormed :=
    wellFormed.store fresh.above fresh.plain fun isDirectory => by
      rw [fresh.absent] at isDirectory
      cases isDirectory
  have stillAbove : entry? (tree.store (directory ++ [name]) (.file [])) directory =
      some .directory := by
    rw [puts.entries, if_neg (by simp)]
    exact fresh.above
  obtain ⟨filled, putsAll, filledWellFormed, performed⟩ :=
    appending directory name fresh.plain pieces _ [] stored stillAbove
      (by rw [puts.entries, if_pos rfl])
  refine ⟨filled, puts.trans putsAll, filledWellFormed, ?_⟩
  intro rest
  rw [← performed rest]
  simp [WriteStep.performAll, WriteStep.perform, WriteStep.filling, fresh.absent]

/-- Removing the only file that was added leaves the tree as it was. -/
theorem PutsFile.erase {tree filled : FileTree} (wellFormed : filled.WellFormed) {place : Place}
    {content : Bytes} (puts : tree.PutsFile place content filled)
    (absent : tree.entry? place = none) : tree.Agrees (filled.erase place) := by
  refine ⟨puts.working, ?_⟩
  intro other
  have leaf : filled.entry? place ≠ some .directory := by
    rw [puts.entries, if_pos rfl]
    simp
  rw [wellFormed.entry?_erase leaf]
  split
  · next same => rw [same, absent]
  · next different => rw [puts.entries, if_neg different]

/-! ## Putting a file in its place -/

theorem rename_eq_ok {tree after : FileTree} {source : Place} {path : Path}
    (renamed : tree.rename source path = .ok after) :
    ∃ arrival entry, tree.locateItself path = .ok arrival ∧ endsInName path = true ∧
      path.hasSlashAtEnd = false ∧ tree.entry? source = some entry ∧
      (∀ place, arrival ≠ .present place .directory) ∧
      after = (tree.erase source).store arrival.place entry := by
  rw [rename] at renamed
  cases located : tree.locateItself path with
  | error failure => simp [located, bind, Except.bind] at renamed
  | ok arrival =>
      cases named : endsInName path with
      | false =>
          simp [located, named, bind, Except.bind, throw, throwThe, MonadExceptOf.throw] at renamed
      | true =>
          cases slashed : path.hasSlashAtEnd with
          | true =>
              simp [located, named, slashed, bind, Except.bind, throw, throwThe,
                MonadExceptOf.throw] at renamed
          | false =>
              simp only [located, named, slashed, bind, Except.bind, pure, Except.pure,
                Bool.not_true, Bool.false_eq_true, if_false] at renamed
              refine ⟨arrival, ?_⟩
              cases found : tree.entry? source with
              | none =>
                  rw [found] at renamed
                  simp [throw, throwThe, MonadExceptOf.throw] at renamed
              | some entry =>
                  rw [found] at renamed
                  refine ⟨entry, rfl, rfl, rfl, rfl, ?_⟩
                  cases arrival with
                  | absent directory name =>
                      simp only [Except.ok.injEq] at renamed
                      exact ⟨fun _ same => (by cases same), renamed.symm⟩
                  | present place old =>
                      cases old with
                      | directory =>
                          simp [throw, throwThe, MonadExceptOf.throw] at renamed
                      | file content =>
                          simp only [Except.ok.injEq] at renamed
                          exact ⟨fun _ same => (by cases same), renamed.symm⟩
                      | link target =>
                          simp only [Except.ok.injEq] at renamed
                          exact ⟨fun _ same => (by cases same), renamed.symm⟩

/-- Where one file is different, moves lead where they did before, or to this file. -/
theorem Leads.unless_file {before after : FileTree} {place : Place} {content : Bytes}
    (puts : before.PutsFile place content after) {through : Bool} {links : Nat} {start : Place}
    {moves : List Path.Move} {arrival : Arrival}
    (leads : after.Leads through links start moves arrival) :
    before.Leads through links start moves arrival ∨ arrival = .present place (.file content) := by
  induction leads with
  | finished links start => exact Or.inl (.finished links start)
  | stay _ ih => exact ih.imp_left .stay
  | up _ ih => exact ih.imp_left .up
  | missing short found =>
      rw [puts.entries] at found
      split at found
      · cases found
      · exact Or.inl (.missing short found)
  | directory short found _ ih =>
      rw [puts.entries] at found
      split at found
      · cases found
      · exact ih.imp_left (.directory short found)
  | file short found =>
      rw [puts.entries] at found
      split at found
      · next here =>
        cases found
        exact Or.inr (by rw [here])
      · exact Or.inl (.file short found)
  | itself notThrough short found =>
      rw [puts.entries] at found
      split at found
      · cases found
      · exact Or.inl (.itself notThrough short found)
  | link last short found filled _ ih =>
      rw [puts.entries] at found
      split at found
      · cases found
      · exact ih.imp_left (.link last short found filled)

/-- Files that lie where no directory was do not change where a path ends. -/
theorem Leads.under_files {before after : FileTree}
    (under : ∀ place, after.entry? place = before.entry? place ∨
      before.entry? place ≠ some .directory ∧ ∃ content, after.entry? place = some (.file content))
    {links : Nat} {start : Place} {moves : List Path.Move} {arrival : Arrival}
    (leads : after.Leads false links start moves arrival) :
    ∃ other, before.Leads false links start moves other ∧ other.place = arrival.place := by
  have same : ∀ place entry, after.entry? place = some entry → (∀ content, entry ≠ .file content) →
      before.entry? place = some entry := by
    intro place entry found notFile
    rcases under place with earlier | ⟨_, content, isFile⟩
    · rw [← earlier, found]
    · rw [found, Option.some.injEq] at isFile
      exact absurd isFile (notFile content)
  induction leads with
  | finished links start => exact ⟨_, .finished links start, rfl⟩
  | stay _ ih =>
      obtain ⟨other, leads, place⟩ := ih
      exact ⟨other, .stay leads, place⟩
  | up _ ih =>
      obtain ⟨other, leads, place⟩ := ih
      exact ⟨other, .up leads, place⟩
  | @missing _ start name short found =>
      rcases under (start ++ [name]) with earlier | ⟨_, content, isFile⟩
      · exact ⟨_, .missing short (earlier.symm.trans found), rfl⟩
      · rw [found] at isFile
        cases isFile
  | directory short found _ ih =>
      obtain ⟨other, leads, place⟩ := ih
      exact ⟨other, .directory short (same _ _ found (by simp)) leads, place⟩
  | @file _ start name _ short found =>
      have leaf : before.entry? (start ++ [name]) ≠ some .directory := by
        rcases under (start ++ [name]) with earlier | ⟨leaf, _⟩
        · rw [← earlier, found]
          simp
        · exact leaf
      cases earlier : before.entry? (start ++ [name]) with
      | none => exact ⟨_, .missing short earlier, rfl⟩
      | some entry =>
          cases entry with
          | file content => exact ⟨_, .file short earlier, rfl⟩
          | directory => exact absurd earlier leaf
          | link target => exact ⟨_, .itself rfl short earlier, rfl⟩
  | itself notThrough short found =>
      exact ⟨_, .itself notThrough short (same _ _ found (by simp)), rfl⟩
  | link last short found filled _ ih =>
      obtain ⟨other, leads, place⟩ := ih
      exact ⟨other, .link last short (same _ _ found (by simp)) filled leads, place⟩

theorem destination_under_files {before after : FileTree} (working : after.working = before.working)
    (under : ∀ place, after.entry? place = before.entry? place ∨
      before.entry? place ≠ some .directory ∧ ∃ content, after.entry? place = some (.file content))
    {path : Path} {place : Place} (reached : after.destination path = .ok place) :
    before.destination path = .ok place := by
  obtain ⟨arrival, located, rfl⟩ := destination_eq_ok_iff.mp reached
  obtain ⟨checked, checkedAgain, leads⟩ := locateItself_eq_ok_iff.mp located
  obtain ⟨other, earlier, same⟩ := leads.under_files under
  rw [startPlace, working, ← startPlace] at earlier
  exact destination_eq_ok_iff.mpr
    ⟨other, locateItself_eq_ok_iff.mpr ⟨checked, checkedAgain, earlier⟩, same⟩

/-- Where something arrives that is no directory, a file can be stored. -/
theorem WellFormed.store_arrival {tree : FileTree} (wellFormed : tree.WellFormed) {path : Path}
    {arrival : Arrival} (located : tree.locateItself path = .ok arrival)
    (leaf : ∀ place, arrival ≠ .present place .directory) :
    ∃ directory name, arrival.place = directory ++ [name] ∧
      tree.entry? directory = some .directory ∧ Name.Plain name ∧
      tree.entry? (directory ++ [name]) ≠ some .directory := by
  have holds := wellFormed.holds_of_locateItself located
  cases arrival with
  | absent directory name =>
      obtain ⟨above, absent⟩ := holds
      exact ⟨directory, name, rfl, above, plain_of_absent located, by rw [absent]; simp⟩
  | present place entry =>
      have notDirectory : entry ≠ .directory := fun same => leaf place (by rw [same])
      have found : tree.entry? place = some entry := holds
      have inner : place ≠ [] := by
        rintro rfl
        exact notDirectory (Option.some.inj found.symm)
      obtain ⟨directory, name, rfl⟩ := (List.eq_nil_or_concat' place).resolve_left inner
      refine ⟨directory, name, rfl, wellFormed.parent found,
        wellFormed.plain found name (by simp), ?_⟩
      rw [found]
      simpa using notDirectory

/-- A file that is moved lies where the path ends, and no longer where it was. -/
theorem rename_moves {tree after : FileTree} (wellFormed : tree.WellFormed) {source : Place}
    {path : Path} {content : Bytes} (found : tree.entry? source = some (.file content))
    (renamed : tree.rename source path = .ok after) : ∃ place,
      tree.destination path = .ok place ∧ tree.entry? place ≠ some .directory ∧
      endsInName path = true ∧ path.hasSlashAtEnd = false ∧ after.WellFormed ∧
      after.working = tree.working ∧ ∀ other, after.entry? other =
        if other = place then some (.file content)
        else if other = source then none else tree.entry? other := by
  obtain ⟨arrival, entry, located, named, slashless, isThere, leaf, rfl⟩ := rename_eq_ok renamed
  rw [found, Option.some.injEq] at isThere
  subst isThere
  obtain ⟨directory, name, shape, above, plain, notDirectory⟩ :=
    wellFormed.store_arrival located leaf
  have sourceLeaf : tree.entry? source ≠ some .directory := by
    rw [found]
    simp
  have erased := wellFormed.erase sourceLeaf
  have entries := wellFormed.entry?_erase sourceLeaf
  have stillAbove : entry? (tree.erase source) directory = some .directory := by
    rw [entries, if_neg]
    · exact above
    · rintro rfl
      exact sourceLeaf above
  rw [shape]
  refine ⟨directory ++ [name], destination_eq_ok_iff.mpr ⟨arrival, located, shape⟩, notDirectory,
    named, slashless, ?_, rfl, ?_⟩
  · apply erased.store stillAbove plain
    intro isDirectory
    rw [entries] at isDirectory
    split at isDirectory
    · cases isDirectory
    · exact absurd isDirectory notDirectory
  · intro other
    rw [entry?_store _ (by simp), entries]

/-- What has become of a tree in which a file was to be written. -/
inductive Written (before : FileTree) (path : Path) (content : Bytes) :
    Except FileFailure Unit × FileTree → Prop
  | done {place : Place} {after : FileTree} : before.destination path = .ok place →
      before.entry? place ≠ some .directory → endsInName path = true →
      path.hasSlashAtEnd = false → before.PutsFile place content after → after.WellFormed →
      Written before path content (.ok (), after)
  | failed {failure : FileFailure} {after : FileTree} : before.Agrees after →
      after.WellFormed → Written before path content (.error failure, after)

theorem withTemporary_written {tree : FileTree} (wellFormed : tree.WellFormed)
    {directory : Place} {name : Name} (fresh : tree.Fresh directory name)
    (pieces : List Bytes) (path : Path) :
    Written tree path pieces.flatten (tree.withTemporary (directory ++ [name])
      (WriteStep.writing (directory ++ [name]) pieces path)) := by
  obtain ⟨filled, puts, filledWellFormed, performed⟩ := filling wellFormed fresh pieces
  have agrees := puts.erase filledWellFormed fresh.absent
  have temporary : filled.entry? (directory ++ [name]) = some (.file pieces.flatten) := by
    rw [puts.entries, if_pos rfl]
  rw [withTemporary, WriteStep.writing, performed]
  simp only [WriteStep.performAll, WriteStep.perform]
  cases renamed : filled.rename (directory ++ [name]) path with
  | error failure =>
      exact .failed agrees (filledWellFormed.erase (by rw [temporary]; simp))
  | ok after =>
      obtain ⟨place, destination, leaf, named, slashless, afterWellFormed, working, entries⟩ :=
        rename_moves filledWellFormed temporary renamed
      have under : ∀ other, filled.entry? other = tree.entry? other ∨
          tree.entry? other ≠ some .directory ∧
            ∃ content, filled.entry? other = some (.file content) := by
        intro other
        by_cases here : other = directory ++ [name]
        · rw [here]
          exact Or.inr ⟨by rw [fresh.absent]; simp, _, temporary⟩
        · rw [puts.entries, if_neg here]
          exact Or.inl rfl
      have leafBefore : tree.entry? place ≠ some .directory := by
        rcases under place with same | ⟨notDirectory, _⟩
        · rwa [← same]
        · exact notDirectory
      refine .done (destination_under_files puts.working under destination) leafBefore named
        slashless ⟨working.trans puts.working, ?_⟩ afterWellFormed
      intro other
      rw [entries]
      split
      · rfl
      · split
        · next here => rw [here, fresh.absent]
        · next elsewhere => rw [puts.entries, if_neg elsewhere]

end TemplateBuild.FileTree

import TemplateBuild.Proofs.FileTree.Above
import TemplateBuild.Proofs.FileTree.Repeating
import TemplateBuild.Proofs.Path.Endings

/-!
# Below a directory

In a tree without links, directories can be created below a directory, and a file be put into the
last of them, if no file is in the way and no directory has the name of the file.  Nothing else is
different then.
-/

set_option autoImplicit false

namespace TemplateBuild

namespace FileTree
variable {tree : FileTree} {base : Path} {place : Place} {names : List Name} {name : Name}

/-- Where the names below a directory lead. -/
theorem arrivalOf_descend (free : tree.LinkFree) (reached : tree.directoryFor base = .ok place)
    (filled : names ≠ []) (plain : ∀ each ∈ names, Name.Plain each) :
    tree.arrivalOf (base.descend names) = tree.follow false mostLinks place (names.map .enter) := by
  rw [arrivalOf, startPlace_descend tree base names plain, Path.way_descend base names plain]
  rcases directoryFor_cases reached with ⟨empty, rfl⟩ | reached
  · simp [Path.way, Path.segments, Path.segmentsOf, startPlace, Path.isAbsolute, empty]
  · obtain ⟨_, arrives⟩ := free.directoryOf_eq_ok_iff.mp reached
    rw [free.follow_append false mostLinks (by simpa using filled), ← arrivalOf, arrives]
    rfl

/-- No file lies on the way down from a place. -/
def Clear (tree : FileTree) (place : Place) (names : List Name) : Prop :=
  ∀ above, above <+: names → ∀ content, tree.entry? (place ++ above) ≠ some (.file content)

theorem Clear.earlier {others : List Name} (clear : tree.Clear place names)
    (begins : others <+: names) : tree.Clear place others :=
  fun above isAbove => clear above (isAbove.trans begins)

theorem follow_of_clear (wellFormed : tree.WellFormed) (free : tree.LinkFree)
    {more : List Path.Move} (further : more ≠ []) :
    tree.entry? place = some .directory → (∀ each ∈ names, each.length ≤ longestName) →
      tree.Clear place names → 
      tree.follow false mostLinks place (names.map .enter ++ more) =
        if tree.entry? (place ++ names) = some .directory then
          tree.follow false mostLinks (place ++ names) more
        else .error .notFound := by
  induction names generalizing place with
  | nil =>
      intro isDirectory _ _
      rw [List.append_nil, if_pos isDirectory]
      rfl
  | cons first rest ih =>
      intro _ short clear
      rw [List.forall_mem_cons] at short
      have whole : place ++ first :: rest = place ++ [first] ++ rest := by simp
      rw [List.map_cons, List.cons_append, whole]
      cases found : tree.entry? (place ++ [first]) with
      | none =>
          rw [follow_missing short.1 found, if_neg (by simp [further]), if_neg]
          intro isDirectory
          by_cases last : rest = []
          · rw [last, List.append_nil, found] at isDirectory
            cases isDirectory
          · rw [wellFormed.above _ rest _ last isDirectory] at found
            cases found
      | some entry =>
          cases entry with
          | directory =>
              rw [follow_directory short.1 found]
              refine ih found short.2 fun above isAbove content => ?_
              rw [List.append_assoc]
              exact clear (first :: above) (List.cons_prefix_cons.mpr ⟨rfl, isAbove⟩) content
          | file content =>
              have isAbove : [first] <+: first :: rest :=
                List.cons_prefix_cons.mpr ⟨rfl, List.nil_prefix⟩
              exact absurd found (clear [first] isAbove content)
          | link target => exact absurd found (free _ target)

/-! ## Directories below a directory -/

theorem LinkFree.directoryFor_eq_ok_iff (free : tree.LinkFree) :
    tree.directoryFor base = .ok place ↔ (base.isEmpty = false → checkPath base = .ok ()) ∧
      tree.arrivalOf base = .ok (.present place .directory) := by
  rw [directoryFor]
  cases empty : base.isEmpty with
  | false => simp [free.directoryOf_eq_ok_iff]
  | true =>
      rw [Path.isEmpty, List.isEmpty_iff] at empty
      simp [arrivalOf, startPlace, Path.way, Path.segments, Path.segmentsOf, Path.isAbsolute, empty,
        follow_nil]

/-- Whoever stays arrives where he was. -/
theorem LinkFree.follow_stays_iff (free : tree.LinkFree) (moves : List Path.Move) (start : Place)
    (count : Nat) :
    tree.follow false mostLinks start (moves ++ List.replicate count .stay) =
        .ok (.present place .directory) ↔
      tree.follow false mostLinks start moves = .ok (.present place .directory) := by
  cases count with
  | zero => rw [List.replicate_zero, List.append_nil]
  | succ count =>
      have stays : ∀ other, tree.follow false mostLinks other (List.replicate (count + 1) .stay) =
          .ok (.present other .directory) := by
        intro other
        have stays := tree.follow_stays false mostLinks other [] (count + 1)
        rwa [List.append_nil, follow_nil] at stays
      rw [free.follow_append false mostLinks (by simp)]
      cases tree.follow false mostLinks start moves with
      | error failure => simp [onwards]
      | ok arrival =>
          cases arrival with
          | absent directory name => simp [onwards]
          | present found entry => cases entry <;> simp [onwards, stays]

variable {path : Path} {directory : Place}

/-- The parent of a path that goes on from a base by a name leads to the same directory. -/
theorem LinkFree.directoryOf_enters (free : tree.LinkFree) (enters : path.Enters base name)
    (reached : tree.directoryFor base = .ok directory) (checked : checkPath path = .ok ()) :
    tree.directoryOf path.directory = .ok directory := by
  obtain ⟨count, moves⟩ := enters.moves
  have last : path.moves.getLast? = some (.enter name) := by
    rw [moves, ← List.append_assoc, List.getLast?_concat]
  obtain ⟨parent, isParent, entersParent⟩ := Path.exists_enters enters.bare last
  obtain ⟨other, movesParent⟩ := entersParent.moves
  rw [moves, ← List.append_assoc, ← List.append_assoc, List.append_cancel_right_eq] at movesParent
  rw [directoryOf_directory isParent]
  rw [free.directoryFor_eq_ok_iff] at reached ⊢
  refine ⟨fun filled => checkPath_parent isParent filled checked, ?_⟩
  rw [arrivalOf, ← free.follow_stays_iff _ _ other, ← movesParent, free.follow_stays_iff,
    startPlace, ← entersParent.absolute, enters.absolute]
  exact reached.2

theorem makeDirectory_of_enters (free : tree.LinkFree) (enters : path.Enters base name)
    (reached : tree.directoryFor base = .ok directory) (checked : checkPath path = .ok ())
    (short : name.length ≤ longestName) : tree.makeDirectory path =
      if tree.entry? (directory ++ [name]) = none then
        .ok (tree.store (directory ++ [name]) .directory)
      else .error .exists := by
  obtain ⟨left, goesOn⟩ := follow_of_enters enters reached false
  rw [makeDirectory, locateItself, checked, Path.dropSlashes_eq enters.bare, locateThrough, checked]
  simp only [bind, Except.bind]
  rw [goesOn]
  cases found : tree.entry? (directory ++ [name]) with
  | none =>
      rw [follow_missing short found, if_pos rfl, if_pos rfl]
      rfl
  | some entry =>
      rw [if_neg (Option.some_ne_none entry)]
      cases entry with
      | directory =>
          rw [follow_directory short found, follow_nil]
          rfl
      | file content =>
          rw [follow_file short found, if_pos rfl]
          rfl
      | link target => exact absurd found (free _ target)

theorem directoryOf_of_enters (enters : path.Enters base name)
    (reached : tree.directoryFor base = .ok directory) (checked : checkPath path = .ok ())
    (short : name.length ≤ longestName)
    (found : tree.entry? (directory ++ [name]) = some .directory) :
    tree.directoryOf path = .ok (directory ++ [name]) := by
  obtain ⟨left, goesOn⟩ := follow_of_enters enters reached true
  rw [follow_directory short found, follow_nil, follow_eq_ok_iff] at goesOn
  rw [directoryOf_eq_ok_iff, find_eq_ok_iff, locateThrough_eq_ok_iff]
  exact ⟨checked, goesOn⟩

/-- Nothing is different but that there are directories on the way down from a place. -/
def OpensBelow (before : FileTree) (place : Place) (names : List Name) (after : FileTree) : Prop :=
  ∀ other, after.entry? other = before.entry? other ∨
    (∃ above, above <+: names ∧ other = place ++ above) ∧ after.entry? other = some .directory

theorem OpensBelow.refl (tree : FileTree) (place : Place) (names : List Name) :
    tree.OpensBelow place names tree :=
  fun _ => Or.inl rfl

theorem OpensBelow.further {middle after : FileTree} {others : List Name}
    (opens : tree.OpensBelow place names middle) (more : middle.OpensBelow place others after)
    (longer : names <+: others) :
    tree.OpensBelow place others after := by
  intro other
  rcases more other with same | new
  · rw [same]
    rcases opens other with earlier | ⟨⟨above, begins, shape⟩, isDirectory⟩
    · exact Or.inl earlier
    · exact Or.inr ⟨⟨above, begins.trans longer, shape⟩, isDirectory⟩
  · exact Or.inr new

theorem OpensBelow.clear {middle : FileTree} (opens : tree.OpensBelow place names middle)
    {others : List Name} (clear : tree.Clear place others) : middle.Clear place others := by
  intro above begins content found
  rcases opens (place ++ above) with same | ⟨_, isDirectory⟩
  · exact clear above begins content (same ▸ found)
  · rw [found] at isDirectory
    cases isDirectory

theorem checkPath_before (filled : names ≠ []) (plain : ∀ each ∈ names, Name.Plain each)
    (plainLast : Name.Plain name) (checked : checkPath (base.descend (names ++ [name])) = .ok ()) :
    checkPath (base.descend names) = .ok () := by
  obtain ⟨isParent, inner⟩ := Path.parent_descend base filled plain plainLast
  exact checkPath_parent isParent inner checked

/-- What is joined to the path of a directory is a path that the system accepts, if it is not too
long. -/
theorem checkPath_of_short (reached : tree.directoryFor base = .ok place)
    (plain : ∀ each ∈ names, Name.Plain each) (plainLast : Name.Plain name)
    (short : (base.descend (names ++ [name])).bytes.length ≤ longestPath) :
    checkPath (base.descend (names ++ [name])) = .ok () := by
  have zeroless : (0 : UInt8) ∉ base.bytes := by
    rcases directoryFor_cases reached with ⟨empty, _⟩ | reached
    · simp [empty]
    · rw [directoryOf_eq_ok_iff, find_eq_ok_iff, locateThrough_eq_ok_iff] at reached
      exact (checkPath_eq_ok_iff.mp reached.1).1
  have plainAll : ∀ each ∈ names ++ [name], Name.Plain each :=
    List.forall_mem_append.mpr ⟨plain, by simpa using plainLast⟩
  have filled : (base.descend (names ++ [name])).isEmpty = false := by
    rw [Path.descend_concat]
    exact Path.isEmpty_joinName _ plainLast
  rw [Path.isEmpty, List.isEmpty_eq_false_iff] at filled
  exact checkPath_eq_ok_iff.mpr ⟨zeroless_descend zeroless _ plainAll, filled, short⟩

/-- What a directory below a directory needs to be created or found there. -/
structure Opening (tree : FileTree) (base : Path) (place : Place) (names : List Name) : Prop where
  wellFormed : tree.WellFormed
  free : tree.LinkFree
  reached : tree.directoryFor base = .ok place
  plain : ∀ each ∈ names, Name.Plain each
  checked : names ≠ [] → checkPath (base.descend names) = .ok ()
  short : ∀ each ∈ names, each.length ≤ longestName
  clear : tree.Clear place names

namespace Opening

theorem before (opening : tree.Opening base place (names ++ [name])) :
    tree.Opening base place names where
  wellFormed := opening.wellFormed
  free := opening.free
  reached := opening.reached
  plain := fun each member => opening.plain each (List.mem_append_left _ member)
  checked := fun filled => checkPath_before filled
    (fun each member => opening.plain each (List.mem_append_left _ member))
    (opening.plain name (by simp)) (opening.checked (by simp))
  short := fun each member => opening.short each (List.mem_append_left _ member)
  clear := opening.clear.earlier (List.prefix_append ..)


/-- Where a directory lies at the end of the names, the path leads there. -/
theorem directoryFor (opening : tree.Opening base place names) :
    tree.entry? (place ++ names) = some .directory →
      tree.directoryFor (base.descend names) = .ok (place ++ names) := by
  induction names using List.reverseRecOn with
  | nil =>
      intro _
      rw [List.append_nil]
      exact opening.reached
  | append_singleton names name ih =>
      intro found
      have plain := opening.plain name (by simp)
      have whole : place ++ (names ++ [name]) = place ++ names ++ [name] := by simp
      rw [whole] at found ⊢
      have reached := ih opening.before (opening.wellFormed.parent found)
      have checked := opening.checked (by simp)
      rw [Path.descend_concat] at checked ⊢
      rw [FileTree.directoryFor, Path.isEmpty_joinName _ plain, if_neg (by simp)]
      exact directoryOf_of_enters (Path.enters_joinName _ plain) reached checked
        (opening.short name (by simp)) found

theorem start (opening : tree.Opening base place names) :
    tree.entry? place = some .directory :=
  entry?_of_directoryFor opening.wellFormed opening.reached

/-- Something above is missing where there is no directory above. -/
theorem makeDirectory_missing (opening : tree.Opening base place (names ++ [name]))
    (absent : tree.entry? (place ++ names) ≠ some .directory) :
    tree.makeDirectory (base.descend (names ++ [name])) = .error .notFound := by
  rw [makeDirectory_of_checked (opening.checked (by simp)),
    arrivalOf_descend opening.free opening.reached (by simp) opening.plain, List.map_append,
    follow_of_clear opening.wellFormed opening.free (by simp) opening.start opening.before.short
      opening.before.clear, if_neg absent]

theorem later {middle : FileTree} (opening : tree.Opening base place names)
    (adds : tree.AddsDirectories middle) (wellFormed : middle.WellFormed) {others : List Name}
    (opens : tree.OpensBelow place others middle) : middle.Opening base place names where
  wellFormed := wellFormed
  free := adds.linkFree opening.free
  reached := directoryFor_of_kept opening.free adds.working (fun _ => adds.keeps) opening.reached
  plain := opening.plain
  checked := opening.checked
  short := opening.short
  clear := opens.clear opening.clear

/-- A directory below one that is there is found or created. -/
theorem makeDirectory_below (opening : tree.Opening base place (names ++ [name]))
    (above : tree.entry? (place ++ names) = some .directory) :
    (∃ after, tree.makeDirectory (base.descend (names ++ [name])) = .ok after ∧
        tree.OpensBelow place (names ++ [name]) after ∧
        after.entry? (place ++ (names ++ [name])) = some .directory) ∨
      tree.makeDirectory (base.descend (names ++ [name])) = .error .exists ∧
        tree.entry? (place ++ (names ++ [name])) = some .directory := by
  have short := opening.short name (by simp)
  have checked := opening.checked (by simp)
  have reached := opening.before.directoryFor above
  have whole : place ++ (names ++ [name]) = place ++ names ++ [name] := by simp
  rw [Path.descend_concat] at checked ⊢
  rw [makeDirectory_of_enters opening.free
    (Path.enters_joinName (base.descend names) (opening.plain name (by simp))) reached checked
    short, whole]
  cases found : tree.entry? (place ++ names ++ [name]) with
  | none =>
      rw [if_pos rfl]
      refine Or.inl ⟨_, rfl, fun other => ?_, ?_⟩
      · rw [entry?_store tree (by simp)]
        split
        · next same => exact Or.inr ⟨⟨_, List.prefix_refl _, same.trans whole.symm⟩, rfl⟩
        · exact Or.inl rfl
      · rw [entry?_store tree (by simp), if_pos rfl]
  | some entry =>
      rw [if_neg (Option.some_ne_none entry)]
      refine Or.inr ⟨rfl, ?_⟩
      cases entry with
      | directory => rfl
      | file content =>
          rw [← whole] at found
          exact absurd found (opening.clear _ (List.prefix_refl _) content)
      | link target => exact absurd found (opening.free _ target)

/-- Directories are created all the way down. -/
theorem makeDirectoriesWithin (depth : Nat) (opening : tree.Opening base place names) :
    (base.descend names).bytes.length < depth → names ≠ [] → ∃ after,
      tree.makeDirectoriesWithin depth (base.descend names) = (.ok (), after) ∧
        tree.OpensBelow place names after ∧
        after.entry? (place ++ names) = some .directory := by
  -- By induction on the names: what is missing above is created first.
  induction names using List.reverseRecOn generalizing depth with
  | nil => exact fun _ filled => absurd rfl filled
  | append_singleton names name ih =>
      intro deep _
      obtain ⟨depth, rfl⟩ : ∃ less, depth = less + 1 := ⟨depth - 1, by omega⟩
      have plain := opening.plain name (by simp)
      have filled : (base.descend (names ++ [name])).isEmpty = false := by
        rw [Path.descend_concat]
        exact Path.isEmpty_joinName _ plain
      by_cases above : tree.entry? (place ++ names) = some .directory
      · rcases opening.makeDirectory_below above with ⟨after, made, opens⟩ | ⟨_, found⟩
        · refine ⟨after, ?_, opens⟩
          rw [FileTree.makeDirectoriesWithin, filled, made]
          rfl
        · have there := opening.directoryFor found
          rw [FileTree.directoryFor, filled, if_neg (by simp)] at there
          exact ⟨tree, makeDirectoriesWithin_of_there opening.free (Or.inr ⟨_, there⟩) depth,
            .refl _ _ _, found⟩
      · have inner : names ≠ [] := by
          rintro rfl
          rw [List.append_nil] at above
          exact above opening.start
        obtain ⟨isParent, _⟩ := Path.parent_descend base inner opening.before.plain plain
        have shorter := length_parent isParent
        obtain ⟨middle, madeAbove, opensAbove, isThere⟩ :=
          ih depth opening.before (by omega) inner
        obtain ⟨adds, stillWellFormed⟩ :=
          (makes_makeDirectoriesWithin tree depth (base.descend names)).adds opening.wellFormed
        rw [madeAbove] at adds stillWellFormed
        have later := opening.later adds stillWellFormed opensAbove
        have longer := List.prefix_append names [name]
        rw [makeDirectoriesWithin_of_missing filled (opening.makeDirectory_missing above) isParent,
          madeAbove]
        simp only
        rcases later.makeDirectory_below isThere with ⟨after, made, opens, found⟩ | ⟨present, found⟩
        · rw [made]
          exact ⟨after, rfl, opensAbove.further opens longer, found⟩
        · have there := later.directoryFor found
          rw [FileTree.directoryFor, filled, if_neg (by simp)] at there
          have isDirectory := isDirectory_iff.mpr ⟨_, directoryOf_eq_ok_iff.mp there⟩
          rw [present]
          simp only
          rw [acceptDirectory, if_pos isDirectory]
          exact ⟨middle, rfl, opensAbove.further (.refl _ _ _) longer, found⟩


end Opening

/-! ## Files below a directory -/

/-- Where no directory is, a path leads to no directory. -/
theorem locateItself_of_leaf (free : tree.LinkFree) (enters : path.Enters base name)
    (reached : tree.directoryFor base = .ok directory) (checked : checkPath path = .ok ())
    (short : name.length ≤ longestName)
    (leaf : tree.entry? (directory ++ [name]) ≠ some .directory) :
    ∃ arrival, tree.locateItself path = .ok arrival ∧
      ∀ found, arrival ≠ .present found .directory := by
  obtain ⟨left, goesOn⟩ := follow_of_enters enters reached false
  rw [locateItself, checked, Path.dropSlashes_eq enters.bare, locateThrough, checked]
  simp only [bind, Except.bind]
  rw [goesOn]
  cases found : tree.entry? (directory ++ [name]) with
  | none =>
      rw [follow_missing short found, if_pos rfl]
      exact ⟨_, rfl, by simp⟩
  | some entry =>
      cases entry with
      | directory => exact absurd found leaf
      | file content =>
          rw [follow_file short found, if_pos rfl]
          exact ⟨_, rfl, by simp⟩
      | link target => exact absurd found (free _ target)

theorem endsInName_of_enters (enters : path.Enters base name) : endsInName path = true := by
  obtain ⟨count, moves⟩ := enters.moves
  rw [endsInName, Path.dropSlashes_eq enters.bare, moves, ← List.append_assoc,
    List.getLast?_concat]

/-- A file can be put where no directory is. -/
theorem replaceFile_of_enters (wellFormed : tree.WellFormed) (free : tree.LinkFree)
    (enters : path.Enters base name) (reached : tree.directoryFor base = .ok directory)
    (checked : checkPath path = .ok ()) (short : name.length ≤ longestName)
    (leaf : tree.entry? (directory ++ [name]) ≠ some .directory) (content : Bytes) :
    ∃ after, tree.replaceFile path.directory path content = (.ok (), after) ∧
      after.WellFormed ∧ tree.PutsFile (directory ++ [name]) content after := by
  have placed : tree.temporaryPlace path.directory =
      .ok (directory ++ [freshName (tree.namesIn directory)]) := by
    rw [temporaryPlace, path.isEmpty_directory, if_neg (by simp),
      free.directoryOf_enters enters reached checked]
    rfl
  obtain ⟨filled, puts, filledWellFormed, absent, outcome⟩ :=
    replaceFile_eq wellFormed placed path content
  -- The temporary file is no directory, so the way to the directory stays open.
  have kept : ∀ other, tree.entry? other = some .directory →
      filled.entry? other = some .directory := fun _ => puts.directory_kept (by simp [absent])
  have stillLeaf : filled.entry? (directory ++ [name]) ≠ some .directory := by
    rw [puts.entries]
    split
    · simp
    · exact leaf
  have reachedFilled := directoryFor_of_kept free puts.working kept reached
  obtain ⟨arrival, located, notDirectory⟩ :=
    locateItself_of_leaf (puts.linkFree free) enters reachedFilled checked short stillLeaf
  obtain ⟨last, renamed⟩ := rename_of_leaf located (endsInName_of_enters enters) enters.bare
    (by rw [puts.entries, if_pos rfl]) notDirectory
  rw [renamed] at outcome
  obtain ⟨place, after, result, arrived, afterWellFormed, putsFile⟩ :=
    puts_of_replaceFile wellFormed outcome
  obtain ⟨rfl, _⟩ := destination_of_enters enters reached arrived
  exact ⟨after, result, afterWellFormed, putsFile⟩

/-- What has become of a tree where a file was written below a place: it lies there, and nothing
else is different but that there are directories on the way down. -/
structure WritesBelow (before : FileTree) (place : Place) (names : List Name) (name : Name)
    (content : Bytes) (after : FileTree) : Prop where
  wellFormed : after.WellFormed
  working : after.working = before.working
  free : after.LinkFree
  kept : ∀ other, before.entry? other = some .directory → after.entry? other = some .directory
  entries : ∀ other, after.entry? other = before.entry? other ∨
    (∃ above, above <+: names ∧ other = place ++ above) ∧ after.entry? other = some .directory ∨
    other = place ++ names ++ [name] ∧ after.entry? other = some (.file content)

/-- The directory of a path below a directory is created, or found. -/
theorem Opening.makeDirectories (opening : tree.Opening base place names)
    (plain : Name.Plain name) (checked : checkPath (base.descend (names ++ [name])) = .ok ()) :
    ∃ middle,
      tree.makeDirectories (base.descend (names ++ [name])).directory = (.ok (), middle) ∧
        tree.OpensBelow place names middle ∧ middle.entry? (place ++ names) = some .directory := by
  by_cases alone : names = []
  · subst alone
    have reached := opening.free.directoryOf_enters (Path.enters_joinName base plain)
      opening.reached checked
    refine ⟨tree, makeDirectoriesWithin_of_there opening.free (Or.inr ⟨_, reached⟩) _,
      .refl _ _ _, ?_⟩
    rw [List.append_nil]
    exact opening.start
  · obtain ⟨isParent, filled⟩ := Path.parent_descend base alone opening.plain plain
    rw [Path.directory, isParent]
    simp only
    rw [filled, if_neg (by simp)]
    exact opening.makeDirectoriesWithin _ (Nat.lt_succ_self _) alone

/-- A file is written below a directory if no file is on the way down and no directory in its
place. -/
theorem Opening.written (opening : tree.Opening base place names) (plain : Name.Plain name)
    (checked : checkPath (base.descend (names ++ [name])) = .ok ())
    (short : name.length ≤ longestName)
    (leaf : tree.entry? (place ++ names ++ [name]) ≠ some .directory) (content : Bytes) :
    ∃ middle after,
      tree.makeDirectories (base.descend (names ++ [name])).directory = (.ok (), middle) ∧
      middle.replaceFile (base.descend (names ++ [name])).directory
        (base.descend (names ++ [name])) content = (.ok (), after) ∧
      tree.WritesBelow place names name content after := by
  obtain ⟨middle, made, opens, isThere⟩ := opening.makeDirectories plain checked
  obtain ⟨adds, stillWellFormed⟩ :=
    makeDirectories_adds opening.wellFormed (base.descend (names ++ [name])).directory
  rw [made] at adds stillWellFormed
  have later := opening.later adds stillWellFormed opens
  have stillLeaf : middle.entry? (place ++ names ++ [name]) ≠ some .directory := by
    rcases opens (place ++ names ++ [name]) with same | ⟨⟨above, begins, shape⟩, _⟩
    · rwa [same]
    · rw [List.append_assoc, List.append_cancel_left_eq] at shape
      have longer := begins.length_le
      rw [← shape, List.length_append] at longer
      exact absurd longer (Nat.not_succ_le_self _)
  have enters := Path.enters_joinName (base.descend names) plain
  rw [← Path.descend_concat] at enters
  obtain ⟨after, replaced, wellFormed, puts⟩ := replaceFile_of_enters stillWellFormed later.free
    enters (later.directoryFor isThere) checked short stillLeaf content
  refine ⟨middle, after, made, replaced, wellFormed, puts.working.trans adds.working,
    puts.linkFree later.free, fun other found => puts.directory_kept stillLeaf (adds.keeps found),
    fun other => ?_⟩
  rw [puts.entries]
  split
  · next here => exact Or.inr (Or.inr ⟨here, rfl⟩)
  · rcases opens other with same | new
    · exact Or.inl same
    · exact Or.inr (Or.inl new)
end FileTree
end TemplateBuild

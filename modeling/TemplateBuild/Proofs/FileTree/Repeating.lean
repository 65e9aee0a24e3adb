import TemplateBuild.Proofs.FileTree.Arriving

/-!
# Doing it again

Whoever creates directories again finds those that are there, and fails where it failed before.
A file that was put somewhere can be put there again, as long as no directory has come in its
place.
-/

set_option autoImplicit false

namespace TemplateBuild

/-- How a failure to create a directory repeats itself.  A path that goes up may have come to a
file by way of a directory that was missing the first time; then the first failure is that the
file exists, and the next one that it is no directory. -/
inductive FileFailure.Again (path : Path) : FileFailure → FileFailure → Prop
  | same (failure : FileFailure) : Again path failure failure
  | climbing : Path.Move.up ∈ path.moves → Again path .exists .notDirectory

theorem Path.up_mem_moves_iff (path : Path) : Move.up ∈ path.moves ↔ Move.up ∈ path.way := by
  rw [moves_eq, List.mem_append]
  constructor
  · rintro (inWay | trailing)
    · exact inWay
    · split at trailing <;> simp at trailing
  · exact Or.inl

theorem FileFailure.Again.below {path parent : Path} {failure other : FileFailure}
    (isParent : path.parent = some parent) (again : Again parent failure other) :
    Again path failure other := by
  cases again with
  | same => exact .same failure
  | climbing up =>
      apply Again.climbing
      obtain ⟨_, more, _, _, way, _⟩ := Path.parent_prefix isParent
      rw [Path.up_mem_moves_iff] at up ⊢
      rw [way]
      exact List.mem_append_left more up

namespace FileTree

variable {tree after again : FileTree} {path parent : Path} {place : Place}

/-! ## Trees that agree -/

theorem Agrees.locateItself (agrees : tree.Agrees again) (path : Path) :
    again.locateItself path = tree.locateItself path := by
  rw [FileTree.locateItself, FileTree.locateItself, agrees.locateThrough]

theorem Agrees.isDirectory (agrees : tree.Agrees again) (path : Path) :
    again.isDirectory path = tree.isDirectory path := by
  rw [FileTree.isDirectory, FileTree.isDirectory, agrees.find]

theorem Agrees.makeDirectory_error (agrees : tree.Agrees again) {failure : FileFailure}
    (failed : tree.makeDirectory path = .error failure) :
    again.makeDirectory path = .error failure := by
  rw [makeDirectory] at failed ⊢
  rw [agrees.locateItself]
  cases located : tree.locateItself path with
  | error reason =>
      rw [located] at failed
      exact failed
  | ok arrival =>
      rw [located] at failed
      cases arrival with
      | present place entry => exact failed
      | absent directory name => cases failed

/-! ## Directories -/

/-- Without going up, a file is not reached through directories that have just come. -/
theorem Leads.before_adding (wellFormed : tree.WellFormed) (free : after.LinkFree)
    (adds : tree.AddsDirectories after) {through : Bool} {links : Nat} {moves : List Path.Move}
    {arrival : Arrival} (leads : after.Leads through links place moves arrival) :
    .up ∉ moves → ∀ found content, arrival = .present found (.file content) →
      tree.entry? found = some (.file content) →
      (∃ more, found = place ++ more) ∧ tree.Leads through links place moves arrival := by
  induction leads with
  | finished links place => intro _ found content same; cases same
  | stay _ ih =>
      intro level found content same earlier
      obtain ⟨below, leads⟩ := ih (List.not_mem_of_not_mem_cons level) found content same earlier
      exact ⟨below, .stay leads⟩
  | up => intro level; exact absurd (List.mem_cons_self ..) level
  | missing => intro _ found content same; cases same
  | @directory links place name rest arrival short isDirectory _ ih =>
      intro level found content same earlier
      obtain ⟨⟨more, below⟩, leads⟩ :=
        ih (List.not_mem_of_not_mem_cons level) found content same earlier
      refine ⟨⟨name :: more, by rw [below, List.append_assoc]; rfl⟩, .directory short ?_ leads⟩
      by_cases here : more = []
      · rw [below, here, List.append_nil] at earlier
        rw [adds.keeps earlier] at isDirectory
        cases isDirectory
      · rw [below] at earlier
        exact wellFormed.above _ more _ here earlier
  | @file links place name content short _ =>
      intro _ found other same earlier
      cases same
      exact ⟨⟨[name], rfl⟩, .file short earlier⟩
  | itself _ _ found => exact absurd found (free _ _)
  | link _ _ found => exact absurd found (free _ _)

theorem arrivalOf_before_adding (wellFormed : tree.WellFormed) (stillWellFormed : after.WellFormed)
    (free : after.LinkFree) (adds : tree.AddsDirectories after) (level : .up ∉ path.way)
    {content : Bytes} (arrives : after.arrivalOf path = .ok (.present place (.file content))) :
    tree.arrivalOf path = .ok (.present place (.file content)) := by
  rw [arrivalOf, follow_eq_ok_iff] at arrives ⊢
  have found : after.entry? place = some (.file content) :=
    arrives.holds stillWellFormed (stillWellFormed.startPlace path)
  have earlier : tree.entry? place = some (.file content) := by
    rcases adds.entries place with same | ⟨_, made⟩
    · rw [← same, found]
    · rw [found] at made
      cases made
  rw [startPlace, adds.working, ← startPlace] at arrives
  exact (arrives.before_adding wellFormed free adds level place content rfl earlier).2

theorem acceptDirectory_eq_error {failure other : FileFailure} :
    tree.acceptDirectory path failure = .error other ↔
      tree.isDirectory path = false ∧ failure = other := by
  rw [acceptDirectory]
  split
  · next isDirectory => simp [isDirectory]
  · next notDirectory => simp [notDirectory]

/-- A directory that is there does for one that was to be created. -/
theorem makeDirectoriesWithin_of_there (free : tree.LinkFree)
    (there : path.isEmpty = true ∨ ∃ place, tree.directoryOf path = .ok place) (depth : Nat) :
    tree.makeDirectoriesWithin (depth + 1) path = (.ok (), tree) := by
  rw [makeDirectoriesWithin]
  rcases there with empty | ⟨place, reached⟩
  · rw [if_pos empty]
  · split
    · rfl
    · obtain ⟨checked, arrives⟩ := free.directoryOf_eq_ok_iff.mp reached
      have isDirectory := isDirectory_iff.mpr ⟨place, directoryOf_eq_ok_iff.mp reached⟩
      rw [makeDirectory_of_checked checked, arrives]
      simp only
      rw [acceptDirectory, if_pos isDirectory]

/-- Where a directory cannot be created, that is the end unless something above it is missing. -/
theorem makeDirectoriesWithin_of_failed (filled : path.isEmpty = false) {failure : FileFailure}
    (failed : tree.makeDirectory path = .error failure) (other : failure ≠ .notFound)
    (elsewhere : tree.isDirectory path = false) (depth : Nat) :
    tree.makeDirectoriesWithin (depth + 1) path = (.error failure, tree) := by
  rw [makeDirectoriesWithin, filled, failed]
  simp only [Bool.false_eq_true, if_false]
  rw [acceptDirectory_eq_error.mpr ⟨elsewhere, rfl⟩]

/-- Where something above is missing, it is created first. -/
theorem makeDirectoriesWithin_of_missing (filled : path.isEmpty = false)
    (missing : tree.makeDirectory path = .error .notFound) (isParent : path.parent = some parent)
    (depth : Nat) : tree.makeDirectoriesWithin (depth + 1) path =
      match tree.makeDirectoriesWithin depth parent with
      | (.error failure, after) => (.error failure, after)
      | (.ok (), after) =>
        match after.makeDirectory path with
        | .ok last => (.ok (), last)
        | .error failure => (after.acceptDirectory path failure, after) := by
  rw [makeDirectoriesWithin, filled, missing]
  simp only [Bool.false_eq_true, if_false]
  rewrite [isParent]
  rfl

/-- Where nothing above is missing, it is the end that a directory cannot be created. -/
theorem makeDirectoriesWithin_of_refused (free : tree.LinkFree) (filled : path.isEmpty = false)
    (isParent : path.parent = some parent)
    (there : parent.isEmpty = true ∨ ∃ place, tree.directoryOf parent = .ok place)
    {failure : FileFailure} (failed : tree.makeDirectory path = .error failure)
    (elsewhere : tree.isDirectory path = false) (depth : Nat) :
    tree.makeDirectoriesWithin (depth + 2) path = (.error failure, tree) := by
  by_cases gone : failure = .notFound
  · subst gone
    rw [makeDirectoriesWithin_of_missing filled failed isParent,
      makeDirectoriesWithin_of_there free there]
    simp only
    rw [failed]
    simp only
    rw [acceptDirectory_eq_error.mpr ⟨elsewhere, rfl⟩]
  · exact makeDirectoriesWithin_of_failed filled failed gone elsewhere _

theorem there_of_makeDirectoriesWithin (wellFormed : tree.WellFormed) {depth : Nat}
    (made : tree.makeDirectoriesWithin depth path = (.ok (), after)) :
    path.isEmpty = true ∨ ∃ place, after.directoryOf path = .ok place := by
  by_cases empty : path.isEmpty = true
  · exact Or.inl empty
  · exact Or.inr
      (directoryOf_of_makeDirectoriesWithin wellFormed (Bool.eq_false_iff.mpr empty) made)

/-- Where a directory was missing and now there is a file above, the path goes up. -/
theorem up_mem_moves_of_file (wellFormed : tree.WellFormed) (stillWellFormed : after.WellFormed)
    (free : tree.LinkFree) (adds : tree.AddsDirectories after) (checked : checkPath path = .ok ())
    (missing : tree.makeDirectory path = .error .notFound) (isParent : path.parent = some parent)
    {content : Bytes} (arrives : after.arrivalOf parent = .ok (.present place (.file content))) :
    Path.Move.up ∈ path.moves := by
  by_contra level
  obtain ⟨more, _, way, leadsOn⟩ := free.arrivalOf_parent isParent
  rw [Path.up_mem_moves_iff, way, List.mem_append, not_or] at level
  have earlier := arrivalOf_before_adding wellFormed stillWellFormed (adds.linkFree free) adds
    level.1 arrives
  rw [earlier] at leadsOn
  rw [makeDirectory_of_checked checked, leadsOn] at missing
  cases missing

-- The second time, the path above is as it was left by the first attempt, which failed there.  What
-- happens to the path itself can be read off where the path above leads.
theorem makeDirectoriesWithin_above {depth : Nat} {failure other : FileFailure}
    (wellFormed : tree.WellFormed) (stillWellFormed : after.WellFormed) (free : tree.LinkFree)
    (adds : tree.AddsDirectories after) (agrees : after.Agrees again)
    (filled : path.isEmpty = false) (missing : tree.makeDirectory path = .error .notFound)
    (isParent : path.parent = some parent) (repeats : failure.Again parent other)
    (failsAbove : again.makeDirectoriesWithin (depth + 1) parent = (.error other, again)) :
    ∃ last, again.makeDirectoriesWithin (depth + 2) path = (.error last, again) ∧
      failure.Again path last := by
  have againFree := agrees.linkFree (adds.linkFree free)
  have filledAbove : parent.isEmpty = false := by
    rw [← Bool.not_eq_true]
    intro empty
    rw [makeDirectoriesWithin_of_there againFree (Or.inl empty)] at failsAbove
    cases failsAbove
  have checked := checkPath_of_missing filled missing
  have checkedAbove := checkPath_parent isParent filledAbove checked
  obtain ⟨more, _, _, leadsOn⟩ := againFree.arrivalOf_parent isParent
  have made : again.makeDirectory path = _ := makeDirectory_of_checked checked
  have madeAbove : again.makeDirectory parent = _ := makeDirectory_of_checked checkedAbove
  have stillMissing : again.makeDirectory path = .error .notFound →
      ∃ last, again.makeDirectoriesWithin (depth + 2) path = (.error last, again) ∧
        failure.Again path last := by
    intro gone
    rw [makeDirectoriesWithin_of_missing filled gone isParent, failsAbove]
    exact ⟨other, rfl, repeats.below isParent⟩
  have nowhere : ∀ reason, again.arrivalOf path = .error reason →
      again.isDirectory path = false := by
    intro reason fails
    apply againFree.isDirectory_eq_false
    intro place arrives
    rw [arrives] at fails
    cases fails
  have nowhereAbove : (∀ place, again.arrivalOf parent ≠ .ok (.present place .directory)) →
      again.isDirectory parent = false := againFree.isDirectory_eq_false
  cases arrives : again.arrivalOf parent with
  | error reason =>
      rw [arrives] at leadsOn madeAbove nowhereAbove
      rw [leadsOn] at made
      by_cases gone : reason = .notFound
      · exact stillMissing (gone ▸ made)
      · rw [makeDirectoriesWithin_of_failed filledAbove madeAbove gone (nowhereAbove (by simp))]
          at failsAbove
        cases failsAbove
        rw [makeDirectoriesWithin_of_failed filled made gone (nowhere _ leadsOn)]
        exact ⟨_, rfl, repeats.below isParent⟩
  | ok arrival =>
      rw [arrives] at leadsOn madeAbove nowhereAbove
      rw [leadsOn] at made
      cases arrival with
      | absent directory name => exact stillMissing made
      | present place entry =>
          cases entry with
          | directory =>
              have there := againFree.directoryOf_eq_ok_iff.mpr ⟨checkedAbove, arrives⟩
              rw [makeDirectoriesWithin_of_there againFree (Or.inr ⟨place, there⟩)] at failsAbove
              cases failsAbove
          | link target =>
              rw [agrees.arrivalOf, arrivalOf, follow_eq_ok_iff] at arrives
              have found := arrives.holds stillWellFormed (stillWellFormed.startPlace parent)
              exact absurd found (adds.linkFree free _ target)
          | file content =>
              rw [makeDirectoriesWithin_of_failed filledAbove madeAbove (by simp)
                (nowhereAbove (by simp))] at failsAbove
              cases failsAbove
              rw [makeDirectoriesWithin_of_failed filled made (by simp) (nowhere _ leadsOn)]
              refine ⟨_, rfl, ?_⟩
              rw [agrees.arrivalOf] at arrives
              have up := up_mem_moves_of_file wellFormed stillWellFormed free adds checked missing
                isParent arrives
              cases repeats
              exact .climbing up

/-- Where directories could not be created, nothing more is created the next time. -/
theorem makeDirectoriesWithin_again (wellFormed : tree.WellFormed) (free : tree.LinkFree)
    (depth : Nat) (path : Path) : path.bytes.length < depth → ∀ failure after,
      tree.makeDirectoriesWithin depth path = (.error failure, after) →
      ∀ again, after.Agrees again → ∃ last,
        again.makeDirectoriesWithin depth path = (.error last, again) ∧
          failure.Again path last := by
  fun_induction tree.makeDirectoriesWithin depth path with
  | case1 path => intro deep; cases deep
  | case2 depth path => intro _ failure after failed; cases failed
  | case3 depth path _ after made => intro _ failure last failed; cases failed
  | case4 depth path filled missing noParent =>
      intro _ failure after failed again agrees
      cases failed
      rw [makeDirectoriesWithin, if_neg filled, agrees.makeDirectory_error missing]
      simp only
      rw [noParent]
      exact ⟨_, rfl, .same _⟩
  | case5 depth path filled missing parent isParent reason after failed ih =>
      intro deep failure last same again agrees
      cases same
      have shorter := length_parent isParent
      obtain ⟨depth, rfl⟩ : ∃ less, depth = less + 1 := ⟨depth - 1, by omega⟩
      obtain ⟨adds, stillWellFormed⟩ :=
        (makes_makeDirectoriesWithin tree (depth + 1) parent).adds wellFormed
      rw [failed] at adds stillWellFormed
      obtain ⟨other, failsAbove, repeats⟩ := ih (by omega) _ after failed again agrees
      exact makeDirectoriesWithin_above wellFormed stillWellFormed free adds agrees
        (Bool.eq_false_iff.mpr filled) missing isParent repeats failsAbove
  | case6 depth path _ _ parent isParent middle succeeded after made ih =>
      intro _ failure last failed
      cases failed
  | case7 depth path filled missing parent isParent middle succeeded reason failed ih =>
      intro deep failure last same again agrees
      rw [Prod.mk.injEq, acceptDirectory_eq_error] at same
      obtain ⟨⟨elsewhere, rfl⟩, rfl⟩ := same
      have shorter := length_parent isParent
      obtain ⟨depth, rfl⟩ : ∃ less, depth = less + 1 := ⟨depth - 1, by omega⟩
      obtain ⟨adds, _⟩ := (makes_makeDirectoriesWithin tree (depth + 1) parent).adds wellFormed
      rw [succeeded] at adds
      have againFree := agrees.linkFree (adds.linkFree free)
      rw [← agrees.isDirectory] at elsewhere
      have there := there_of_makeDirectoriesWithin wellFormed succeeded
      simp only [← agrees.directoryOf] at there
      rw [makeDirectoriesWithin_of_refused againFree (Bool.eq_false_iff.mpr filled) isParent there
        (agrees.makeDirectory_error failed) elsewhere]
      exact ⟨_, rfl, .same _⟩
  | case8 depth path filled reason other failed =>
      intro _ failure last same again agrees
      rw [Prod.mk.injEq, acceptDirectory_eq_error] at same
      obtain ⟨⟨elsewhere, rfl⟩, rfl⟩ := same
      rw [← agrees.isDirectory] at elsewhere
      rw [makeDirectoriesWithin_of_failed (Bool.eq_false_iff.mpr filled)
        (agrees.makeDirectory_error failed) other elsewhere]
      exact ⟨_, rfl, .same _⟩

theorem makeDirectories_again (wellFormed : tree.WellFormed) (free : tree.LinkFree)
    {failure : FileFailure} (failed : tree.makeDirectories path = (.error failure, after))
    (agrees : after.Agrees again) : ∃ last, again.makeDirectories path = (.error last, again) ∧
      failure.Again path last :=
  makeDirectoriesWithin_again wellFormed free _ path (Nat.lt_succ_self _) failure after failed again
    agrees

/-- What was created is there as long as directories stay. -/
theorem makeDirectories_of_kept (wellFormed : tree.WellFormed) (free : tree.LinkFree)
    (made : tree.makeDirectories path = (.ok (), after)) (againFree : again.LinkFree)
    (working : again.working = after.working)
    (kept : ∀ place, after.entry? place = some .directory →
      again.entry? place = some .directory) :
    again.makeDirectories path = (.ok (), again) := by
  have adds := (makeDirectories_adds wellFormed path).1
  rw [made] at adds
  by_cases empty : path.isEmpty = true
  · exact makeDirectoriesWithin_of_there againFree (Or.inl empty) _
  · obtain ⟨place, reached⟩ :=
      directoryOf_of_makeDirectories wellFormed (Bool.eq_false_iff.mpr empty) made
    exact makeDirectoriesWithin_of_there againFree
      (Or.inr ⟨place, directoryOf_of_kept (adds.linkFree free) working kept reached⟩) _

/-! ## Files -/

/-- The name that is found depends on which names there are, not on their order. -/
theorem freshName_perm {names others : List Name} (same : names.Perm others) :
    freshName names = freshName others := by
  have test : ∀ candidate : Name, names.contains candidate = others.contains candidate := by
    intro candidate
    rw [Bool.eq_iff_iff, List.contains_iff_mem, List.contains_iff_mem, same.mem_iff]
  simp only [freshName, same.length_eq, test]

theorem Agrees.temporaryPlace (agrees : tree.Agrees again) (wellFormed : tree.WellFormed)
    (againWellFormed : again.WellFormed) (directory : Path) :
    again.temporaryPlace directory = tree.temporaryPlace directory := by
  have names : ∀ place, freshName (again.namesIn place) = freshName (tree.namesIn place) := by
    intro place
    apply freshName_perm
    rw [List.perm_ext_iff_of_nodup (againWellFormed.nodup_namesIn place)
      (wellFormed.nodup_namesIn place)]
    exact agrees.mem_namesIn_iff place
  simp only [FileTree.temporaryPlace, agrees.directoryOf, names]

/-- Whether a file can be moved depends on what lies at each place. -/
theorem Agrees.rename_map (agrees : tree.Agrees again) (source : Place) (path : Path) :
    (again.rename source path).map (fun _ => ()) = (tree.rename source path).map fun _ => () := by
  rw [rename, rename, agrees.locateItself, agrees.entries]
  cases tree.locateItself path with
  | error failure => rfl
  | ok arrival =>
      cases endsInName path with
      | false => rfl
      | true =>
          cases path.hasSlashAtEnd with
          | true => rfl
          | false =>
              cases tree.entry? source with
              | none => rfl
              | some entry =>
                  cases arrival with
                  | absent directory name => rfl
                  | present place old => cases old <;> rfl

theorem PutsFile.agrees {filled refilled : FileTree} {content : Bytes}
    (agrees : tree.Agrees again) (puts : tree.PutsFile place content filled)
    (putsAgain : again.PutsFile place content refilled) :
    filled.Agrees refilled := by
  refine ⟨?_, ?_⟩
  · rw [putsAgain.working, puts.working, agrees.working]
  · intro other
    rw [putsAgain.entries, puts.entries, agrees.entries]

/-- A file is replaced by filling a temporary one, which is then moved. -/
theorem replaceFile_eq (wellFormed : tree.WellFormed) {directory : Path} {temporary : Place}
    (found : tree.temporaryPlace directory = .ok temporary) (path : Path) (content : Bytes) :
    ∃ filled, tree.PutsFile temporary content filled ∧ filled.WellFormed ∧
      tree.entry? temporary = none ∧ (tree.replaceFile directory path content).1 =
        (filled.rename temporary path).map fun _ => () := by
  obtain ⟨above, name, rfl, fresh⟩ := temporaryPlace_fresh wellFormed found
  obtain ⟨filled, puts, filledWellFormed, performed⟩ := filling wellFormed fresh [content]
  rw [List.flatten_singleton] at puts
  refine ⟨filled, puts, filledWellFormed, fresh.absent, ?_⟩
  rw [replaceFile, found]
  simp only
  rw [withTemporary, WriteStep.writing, performed]
  simp only [WriteStep.performAll, WriteStep.perform]
  cases filled.rename (above ++ [name]) path <;> rfl

/-- What could not be replaced cannot be replaced the next time, for the same reason. -/
theorem replaceFile_again (wellFormed : tree.WellFormed) (againWellFormed : again.WellFormed)
    (agrees : tree.Agrees again) {directory path : Path} {content : Bytes} {failure : FileFailure}
    (failed : tree.replaceFile directory path content = (.error failure, after)) :
    ∃ last, again.replaceFile directory path content = (.error failure, last) ∧
      again.Agrees last := by
  have placed := agrees.temporaryPlace wellFormed againWellFormed directory
  have reason : (again.replaceFile directory path content).1 = .error failure := by
    cases found : tree.temporaryPlace directory with
    | error other =>
        rw [replaceFile, found] at failed
        rw [replaceFile, placed, found]
        cases failed
        rfl
    | ok temporary =>
        rw [found] at placed
        obtain ⟨filled, puts, _, _, outcome⟩ := replaceFile_eq wellFormed found path content
        obtain ⟨refilled, putsAgain, _, _, outcomeAgain⟩ :=
          replaceFile_eq againWellFormed placed path content
        rw [outcomeAgain, (puts.agrees agrees putsAgain).rename_map, ← outcome, failed]
  have written := replaceFile_written againWellFormed directory path content
  cases outcome : again.replaceFile directory path content with
  | mk result last =>
      rw [outcome] at reason written
      cases reason
      cases written with
      | failed agreesAgain _ => exact ⟨last, rfl, agreesAgain⟩

/-- Where something arrives that is no directory, moves arrive there in every tree that has the
directories on the way and no directory in its place. -/
theorem Leads.to_leaf (free : tree.LinkFree)
    (kept : ∀ place, tree.entry? place = some .directory →
      after.entry? place = some .directory) (afterFree : after.LinkFree)
    {through : Bool} {links : Nat} {moves : List Path.Move} {arrival : Arrival}
    (leads : tree.Leads through links place moves arrival) :
    (∀ found, arrival ≠ .present found .directory) →
      after.entry? arrival.place ≠ some .directory →
      ∃ other, after.Leads through links place moves other ∧
        ∀ found, other ≠ .present found .directory := by
  have lands : ∀ {links : Nat} {place : Place} {name : Name}, name.length ≤ longestName →
      after.entry? (place ++ [name]) ≠ some .directory →
      ∃ other, after.Leads through links place [.enter name] other ∧
        ∀ found, other ≠ .present found .directory := by
    intro links place name short leaf
    cases found : after.entry? (place ++ [name]) with
    | none => exact ⟨_, .missing short found, by simp⟩
    | some entry =>
        cases entry with
        | file content => exact ⟨_, .file short found, by simp⟩
        | directory => exact absurd found leaf
        | link target => exact absurd found (afterFree _ target)
  induction leads with
  | finished links place => exact fun leaf _ => absurd rfl (leaf place)
  | stay _ ih =>
      intro leaf away
      obtain ⟨other, leads, notDirectory⟩ := ih leaf away
      exact ⟨other, .stay leads, notDirectory⟩
  | up _ ih =>
      intro leaf away
      obtain ⟨other, leads, notDirectory⟩ := ih leaf away
      exact ⟨other, .up leads, notDirectory⟩
  | missing short _ => exact fun _ away => lands short away
  | directory short isDirectory _ ih =>
      intro leaf away
      obtain ⟨other, leads, notDirectory⟩ := ih leaf away
      exact ⟨other, .directory short (kept _ isDirectory) leads, notDirectory⟩
  | file short _ => exact fun _ away => lands short away
  | itself _ _ found => exact absurd found (free _ _)
  | link _ _ found => exact absurd found (free _ _)

/-- A file can be moved to where no directory is. -/
theorem rename_of_leaf {source : Place} {entry : Entry} {arrival : Arrival}
    (located : tree.locateItself path = .ok arrival) (named : endsInName path = true)
    (slashless : path.hasSlashAtEnd = false) (found : tree.entry? source = some entry)
    (leaf : ∀ place, arrival ≠ .present place .directory) :
    ∃ after, tree.rename source path = .ok after := by
  rw [rename, located, named, slashless, found]
  cases arrival with
  | absent directory name => exact ⟨_, rfl⟩
  | present place old =>
      cases old with
      | directory => exact absurd rfl (leaf place)
      | file content => exact ⟨_, rfl⟩
      | link target => exact ⟨_, rfl⟩

theorem temporaryPlace_of_replaceFile {directory : Path} {content : Bytes}
    (replaced : tree.replaceFile directory path content = (.ok (), after)) :
    ∃ temporary, tree.temporaryPlace directory = .ok temporary := by
  cases found : tree.temporaryPlace directory with
  | error failure =>
      rw [replaceFile, found] at replaced
      cases replaced
  | ok temporary => exact ⟨temporary, rfl⟩

/-- There is a place for the temporary file as long as the directory stays. -/
theorem temporaryPlace_of_kept (free : tree.LinkFree) {directory : Path} {temporary : Place}
    (found : tree.temporaryPlace directory = .ok temporary) (working : again.working = tree.working)
    (kept : ∀ place, tree.entry? place = some .directory → again.entry? place = some .directory) :
    ∃ other, again.temporaryPlace directory = .ok other := by
  rw [temporaryPlace] at found ⊢
  generalize (if directory.isEmpty then Path.ofString "." else directory) = directory at *
  cases above : tree.directoryOf directory with
  | error failure =>
      rw [above] at found
      cases found
  | ok place =>
      rw [directoryOf_of_kept free working kept above]
      exact ⟨_, rfl⟩

/-- A file that was replaced is replaced the next time as well, unless a directory has come in its
place. -/
theorem replaceFile_of_kept (wellFormed : tree.WellFormed) (free : tree.LinkFree)
    {directory : Path} {content : Bytes}
    (replaced : tree.replaceFile directory path content = (.ok (), after))
    (againWellFormed : again.WellFormed) (againFree : again.LinkFree)
    (working : again.working = tree.working)
    (kept : ∀ place, tree.entry? place = some .directory → again.entry? place = some .directory)
    (leaf : again.entry? (tree.landingOf path) ≠ some .directory) :
    ∃ last, again.replaceFile directory path content = (.ok (), last) ∧ last.WellFormed ∧
      again.PutsFile (tree.landingOf path) content last := by
  have written := replaceFile_written wellFormed directory path content
  rw [replaced] at written
  cases written with
  | done reached leafBefore named bare puts _ =>
  have lands := landingOf_of_destination free bare reached
  obtain ⟨arrival, located, rfl⟩ := destination_eq_ok_iff.mp reached
  have notDirectory := not_directory_of_leaf free located named leafBefore
  obtain ⟨checked, checkedAgain, leads⟩ := locateItself_eq_ok_iff.mp located
  obtain ⟨_, placedBefore⟩ := temporaryPlace_of_replaceFile replaced
  obtain ⟨temporary, placed⟩ := temporaryPlace_of_kept free placedBefore working kept
  obtain ⟨filled, puts, filledWellFormed, absent, outcome⟩ :=
    replaceFile_eq againWellFormed placed path content
  -- The temporary file is in nobody's way.
  have keptOn : ∀ place, tree.entry? place = some .directory →
      filled.entry? place = some .directory := fun place isDirectory =>
    puts.directory_kept (by simp [absent]) (kept place isDirectory)
  have stillLeaf : filled.entry? arrival.place ≠ some .directory := by
    rw [puts.entries]
    split
    · simp
    · rwa [lands]
  obtain ⟨other, leadsAgain, otherLeaf⟩ :=
    leads.to_leaf free keptOn (puts.linkFree againFree) notDirectory stillLeaf
  rw [startPlace, ← working, ← puts.working, ← startPlace] at leadsAgain
  have locatedAgain := locateItself_eq_ok_iff.mpr ⟨checked, checkedAgain, leadsAgain⟩
  have source : filled.entry? temporary = some (.file content) := by
    rw [puts.entries, if_pos rfl]
  obtain ⟨last, renamed⟩ := rename_of_leaf locatedAgain named bare source otherLeaf
  rw [renamed] at outcome
  obtain ⟨place, last, result, reachedAgain, lastWellFormed, putsAgain⟩ :=
    puts_of_replaceFile againWellFormed outcome
  rw [landingOf_of_destination againFree bare reachedAgain, landingOf_congr working] at putsAgain
  exact ⟨last, result, lastWellFormed, putsAgain⟩

end FileTree

end TemplateBuild

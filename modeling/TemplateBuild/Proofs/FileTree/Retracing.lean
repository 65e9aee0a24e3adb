import TemplateBuild.Proofs.FileTree.Repeating

/-!
# Going over the same ground

Files are written one after the other, and then all of them once more.  The second time each place
holds what it held at this point the first time, or what it holds in the end.  So nothing is in
the way of what succeeded, and at the end, or where it was given up, the trees agree.
-/

set_option autoImplicit false

namespace TemplateBuild.FileTree

variable {wanted : Name → Prop} {before first middle next last again : FileTree} {path : Path}
  {place : Place} {content : Bytes}

/-! ## The second time -/

/-- The tree of the second time, when the tree of the first time was `first` at this point and
`last` in the end. -/
structure Retraces (first last again : FileTree) : Prop where
  working : again.working = last.working
  kept : ∀ place, last.entry? place = some .directory → again.entry? place = some .directory
  entries : ∀ place, again.entry? place = first.entry? place ∨
    again.entry? place = last.entry? place

namespace Retraces

/-- The second time begins with what the first one left. -/
theorem begin (first last : FileTree) : Retraces first last last :=
  ⟨rfl, fun _ found => found, fun _ => Or.inr rfl⟩

/-- Where the first time ended, the trees agree. -/
theorem agrees (retraces : Retraces first last again) (adds : first.AddsDirectories last) :
    last.Agrees again := by
  refine ⟨retraces.working, ?_⟩
  intro place
  rcases retraces.entries place with same | same
  · rcases adds.entries place with kept | ⟨_, made⟩
    · rw [same, kept]
    · rw [made, retraces.kept place made]
  · exact same

theorem grown (retraces : Retraces first last again) (now : Grown wanted before first)
    (later : Grown wanted before last) : Grown wanted before again := by
  refine ⟨retraces.working.trans later.working, ?_⟩
  intro place
  rcases retraces.entries place with same | same
  · rw [same]
    exact now.entries place
  · rw [same]
    exact later.entries place

/-- A file that was put somewhere and is put there again. -/
theorem puts {now : FileTree} (retraces : Retraces first last again)
    (adds : first.AddsDirectories middle)
    (puts : middle.PutsFile place content next) (grown : Grown wanted next last)
    (putsAgain : again.PutsFile place content now) : Retraces next last now := by
  have stored : next.entry? place = some (.file content) := by
    rw [puts.entries, if_pos rfl]
  obtain ⟨other, isFile⟩ := grown.file stored
  have kept : ∀ place, last.entry? place = some .directory →
      now.entry? place = some .directory := by
    intro elsewhere isDirectory
    rw [putsAgain.entries, if_neg]
    · exact retraces.kept elsewhere isDirectory
    · rintro rfl
      rw [isFile] at isDirectory
      cases isDirectory
  refine ⟨putsAgain.working.trans retraces.working, kept, ?_⟩
  intro elsewhere
  by_cases here : elsewhere = place
  · subst here
    left
    rw [putsAgain.entries, if_pos rfl, stored]
  · have same : now.entry? elsewhere = again.entry? elsewhere := by
      rw [putsAgain.entries, if_neg here]
    rcases retraces.entries elsewhere with earlier | final
    · rcases adds.entries elsewhere with unchanged | ⟨_, made⟩
      · left
        rw [same, earlier, puts.entries, if_neg here, unchanged]
      · -- A directory that has come the first time is there from the beginning the second time.
        right
        have isDirectory : last.entry? elsewhere = some .directory := by
          apply grown.directory
          rw [puts.entries, if_neg here, made]
        rw [kept elsewhere isDirectory, isDirectory]
    · right
      rw [same, final]

section Storing

variable {directory : Path} (wellFormed : first.WellFormed) (free : first.LinkFree)
  (againWellFormed : again.WellFormed) (againFree : again.LinkFree)
  (retraces : Retraces first last again)

include wellFormed free againWellFormed againFree retraces

/-- What was stored is stored again. -/
theorem stored (made : first.makeDirectories directory = (.ok (), middle))
    (replaced : middle.replaceFile directory path content = (.ok (), next))
    (grown : Grown wanted next last) :
    again.makeDirectories directory = (.ok (), again) ∧
      ∃ now, again.replaceFile directory path content = (.ok (), now) ∧ now.WellFormed ∧
        Retraces next last now := by
  obtain ⟨adds, middleWellFormed⟩ := makeDirectories_adds wellFormed directory
  rw [made] at adds middleWellFormed
  have written := replaceFile_written middleWellFormed directory path content
  rw [replaced] at written
  cases written with
  | done reached leaf named bare puts _ =>
  have lands := landingOf_of_destination (adds.linkFree free) bare reached
  subst lands
  have working : again.working = middle.working :=
    retraces.working.trans (grown.working.trans puts.working)
  have kept : ∀ place, middle.entry? place = some .directory →
      again.entry? place = some .directory := by
    intro elsewhere isDirectory
    apply retraces.kept
    exact grown.directory (puts.directory_kept leaf isDirectory)
  have leafAgain : again.entry? (middle.landingOf path) ≠ some .directory := by
    rcases retraces.entries (middle.landingOf path) with same | same
    · rw [same]
      exact fun isDirectory => leaf (adds.keeps isDirectory)
    · obtain ⟨other, isFile⟩ := grown.file
        (show next.entry? (middle.landingOf path) = some (.file content) by
          rw [puts.entries, if_pos rfl])
      rw [same, isFile]
      simp
  refine ⟨makeDirectories_of_kept wellFormed free made againFree working kept, ?_⟩
  obtain ⟨now, replacedAgain, nowWellFormed, putsAgain⟩ :=
    replaceFile_of_kept middleWellFormed (adds.linkFree free) replaced againWellFormed againFree
      working kept leafAgain
  exact ⟨now, replacedAgain, nowWellFormed, retraces.puts adds puts grown putsAgain⟩

omit againWellFormed againFree in
/-- Directories that could not be created cannot be created again. -/
theorem not_made {failure : FileFailure}
    (failed : first.makeDirectories directory = (.error failure, last)) :
    ∃ other, again.makeDirectories directory = (.error other, again) ∧
      failure.Again directory other ∧ last.Agrees again := by
  have adds := (makeDirectories_adds wellFormed directory).1
  rw [failed] at adds
  have agrees := retraces.agrees adds
  obtain ⟨other, failedAgain, repeats⟩ := makeDirectories_again wellFormed free failed agrees
  exact ⟨other, failedAgain, repeats, agrees⟩

/-- A file that could not be written cannot be written again. -/
theorem not_replaced {failure : FileFailure}
    (made : first.makeDirectories directory = (.ok (), middle))
    (failed : middle.replaceFile directory path content = (.error failure, last)) :
    again.makeDirectories directory = (.ok (), again) ∧
      ∃ now, again.replaceFile directory path content = (.error failure, now) ∧
        last.Agrees now := by
  obtain ⟨adds, middleWellFormed⟩ := makeDirectories_adds wellFormed directory
  rw [made] at adds middleWellFormed
  have written := replaceFile_written middleWellFormed directory path content
  rw [failed] at written
  cases written with
  | failed unchanged _ =>
  have agrees := retraces.agrees (adds.trans unchanged.addsDirectories)
  have whole := unchanged.trans agrees
  refine ⟨makeDirectories_of_kept wellFormed free made againFree whole.working
    fun place isDirectory => (whole.entries place).trans isDirectory, ?_⟩
  obtain ⟨now, failedAgain, kept⟩ :=
    replaceFile_again middleWellFormed againWellFormed whole failed
  exact ⟨now, failedAgain, agrees.trans kept⟩

end Storing

end Retraces

end TemplateBuild.FileTree

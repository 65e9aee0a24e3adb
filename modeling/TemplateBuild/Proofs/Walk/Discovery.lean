import Mathlib
import TemplateBuild.Proofs.Walk.Directory

/-!
# What a walk finds

Through a tree that stays as it is a walk yields one bundle for each directory that can be
reached and has templates, and no other bundle, in whatever order directories are listed.
-/

set_option autoImplicit false

namespace TemplateBuild.Walk

open FileTree (Precedes Increasing Fits)

/-! ## Taking notes -/

/-- Notes are taken in a state of their own. -/
def notes : Runner (StateM (List Item × List Warning)) (List Item × List Warning) Empty where
  run program state := .ok (program.run state)
  run_pure _ _ := rfl
  run_bind _ _ _ := rfl

theorem notes_serves {files : FileTree} (wellFormed : files.WellFormed) :
    notes.Serves (collector files) fun _ => files :=
  ⟨fun _ => rfl, fun _ _ _ _ _ => wellFormed⟩

theorem notes_take (files : FileTree) (state : List Item × List Warning) (item : Item) :
    ∃ seen, notes.take (collector files) state item = .ok (state.1 ++ [item], seen) := by
  cases item with
  | error error => exact ⟨_, rfl⟩
  | ok bundle => exact ⟨_, rfl⟩

theorem sweep_of_course {walk : Walk} {files : FileTree} {state : List Item × List Warning}
    {agenda : List Errand} {result : Except Empty (List Item × List Warning)}
    (course : Course walk (fun _ => files) (notes.take (collector files)) state agenda result) :
    ∃ done seen, Sweep agenda done [] ∧ (∀ step ∈ done, step.2 = files) ∧
      result = .ok (state.1 ++ walk.given done, seen) := by
  induction course with
  | @finished state =>
      exact ⟨[], state.2, .rest [], fun _ member => (by cases member), by simp [given]⟩
  | silent yields _ ih =>
      obtain ⟨done, seen, sweep, same, shape⟩ := ih
      refine ⟨_, seen, .next files sweep, List.forall_mem_cons.mpr ⟨rfl, same⟩, ?_⟩
      rw [shape, given_cons_of_none done yields]
  | @taken state later errand agenda item result yields takes _ ih =>
      obtain ⟨done, seen, sweep, same, shape⟩ := ih
      obtain ⟨noted, takesToo⟩ := notes_take files state item
      rw [takesToo, Except.ok.injEq] at takes
      subst takes
      refine ⟨_, seen, .next files sweep, List.forall_mem_cons.mpr ⟨rfl, same⟩, ?_⟩
      rw [shape, given_cons_of_some done yields, List.append_assoc, List.singleton_append]
  | @stopped state errand agenda item error yields takes => exact error.elim

/-- What a walk yields is what its errands yield, one after the other. -/
theorem items_sweep (walk : Walk) {files : FileTree} (wellFormed : files.WellFormed) :
    ∃ done, Sweep (walk.begin files) done [] ∧ (∀ step ∈ done, step.2 = files) ∧
      (walk.items files).1 = walk.given done := by
  have course := visitAll_course walk (notes_serves wellFormed) ([], []) wellFormed
  obtain ⟨done, seen, sweep, same, shape⟩ := sweep_of_course course
  refine ⟨done, sweep, same, ?_⟩
  have whole : notes.after (walk.visitAll (collector files)) ([], []) =
      .ok (walk.items files) :=
    rfl
  rw [whole, Except.ok.injEq] at shape
  rw [shape, List.nil_append]

/-- Directories of a tree to which real directories lead from a place, by the names on the way. -/
inductive Reachable (files : FileTree) (place : Place) : List Name → Prop
  | root : Reachable files place []
  | inside {relative : List Name} {name : Name} : Reachable files place relative →
      files.entry? (place ++ relative ++ [name]) = some .directory →
      Reachable files place (relative ++ [name])

theorem reachable_iff {files : FileTree} (wellFormed : files.WellFormed) {place : Place}
    (found : files.entry? place = some .directory) (relative : List Name) :
    Reachable files place relative ↔ files.entry? (place ++ relative) = some .directory := by
  constructor
  · intro reachable
    cases reachable with
    | root => rwa [List.append_nil]
    | inside _ below => rwa [← List.append_assoc]
  · induction relative using List.reverseRecOn with
    | nil => exact fun _ => .root
    | append_singleton names name ih =>
        intro below
        rw [← List.append_assoc] at below
        exact .inside (ih (wellFormed.parent below)) below

/-- A name in a directory below the root that leads to a file and has one of the extensions. -/
structure IsTemplate (files : FileTree) (root : Path) (place : Place) (extensions : List String)
    (relative : List Name) (name : Name) : Prop where
  listed : (files.entry? (place ++ relative ++ [name])).isSome = true
  isFile : files.isFile ((root.descend relative).joinName name) = true
  endsIn : Name.EndsIn extensions name

section Still

variable {files : FileTree} {place : Place}

theorem mem_templatesAt_iff (wellFormed : files.WellFormed) (root : Path)
    (extensions : List String) (layout : Layout) (relative : List Name) (name : Name) :
    name ∈ (Walk.of root extensions layout).templatesAt files place relative ↔
      IsTemplate files root place extensions relative name := by
  rw [templatesAt, mem_templateNames_iff, FileTree.mem_namesIn_iff]
  constructor
  · rintro ⟨listed, isFile, matching⟩
    obtain ⟨entry, found⟩ := Option.isSome_iff_exists.mp listed
    have plain := wellFormed.plain found name (by simp)
    exact ⟨listed, isFile, (isTemplateName_iff root extensions layout _ plain).mp matching⟩
  · rintro ⟨listed, isFile, endsIn⟩
    obtain ⟨entry, found⟩ := Option.isSome_iff_exists.mp listed
    have plain := wellFormed.plain found name (by simp)
    exact ⟨listed, isFile, (isTemplateName_iff root extensions layout _ plain).mpr endsIn⟩

/-- An errand is about a real directory below the root, or about one whose path is too long. -/
def Errand.Real (root : Path) (files : FileTree) (place : Place) : Errand → Prop
  | .enter own directory relative => own = true ∧ directory = root.descend relative ∧
    files.entry? (place ++ relative) = some .directory
  | .report directory failure => failure = .nameTooLong ∧ ∃ relative,
    directory = root.descend relative ∧ files.entry? (place ++ relative) = some .directory ∧
      ¬ Fits root relative

theorem Errand.real_below {walk : Walk} (wellFormed : files.WellFormed)
    (reached : files.directoryOf walk.root = .ok place) {errand : Errand}
    (real : errand.Real walk.root files place) :
    ∀ other ∈ errand.below files, other.Real walk.root files place := by
  intro other member
  cases errand with
  | report directory failure => cases member
  | enter own directory relative =>
      obtain ⟨rfl, rfl, found⟩ := real
      rw [below_descend wellFormed reached found] at member
      split at member
      · obtain ⟨name, isIn, rfl⟩ := List.mem_map.mp member
        rw [mem_directoriesAt_iff] at isIn
        exact ⟨rfl, rfl, by rwa [← List.append_assoc]⟩
      · next long =>
        rw [List.mem_singleton.mp member]
        exact ⟨rfl, relative, rfl, found, long⟩

/-- Errands stay real when one of them is run. -/
theorem Errand.real_next {walk : Walk} (wellFormed : files.WellFormed)
    (reached : files.directoryOf walk.root = .ok place) {errand : Errand} {agenda : List Errand}
    (real : ∀ other ∈ errand :: agenda, other.Real walk.root files place) :
    ∀ other ∈ errand.below files ++ agenda, other.Real walk.root files place := by
  rw [List.forall_mem_cons] at real
  rw [List.forall_mem_append]
  exact ⟨Errand.real_below wellFormed reached real.1, real.2⟩

theorem Sweep.real {walk : Walk} (wellFormed : files.WellFormed)
    (reached : files.directoryOf walk.root = .ok place) {agenda left : List Errand}
    {done : List (Errand × FileTree)} (sweep : Sweep agenda done left) :
    (∀ step ∈ done, step.2 = files) → (∀ errand ∈ agenda, errand.Real walk.root files place) →
      ∀ step ∈ done, step.1.Real walk.root files place := by
  induction sweep with
  | rest agenda =>
      intro _ _ step member
      cases member
  | next current _ ih =>
      intro same real step member
      rw [List.forall_mem_cons] at same
      have still : current = files := same.1
      subst still
      rcases List.mem_cons.mp member with rfl | member
      · exact real _ (List.mem_cons_self ..)
      · exact ih same.2 (Errand.real_next wellFormed reached real) step member

end Still

/-! ## The order of listings -/

section Agreeing

variable {before after : FileTree} (agrees : before.Agrees after)
  (wellFormed : before.WellFormed) (alsoWellFormed : after.WellFormed)

include agrees wellFormed alsoWellFormed

theorem Errand.item?_of_agrees (walk : Walk) (errand : Errand) :
    errand.item? walk after = errand.item? walk before := by
  cases errand with
  | report directory failure => rfl
  | enter own directory relative =>
      cases own with
      | false => rfl
      | true =>
          have bundles : walk.bundleAt after directory relative =
              walk.bundleAt before directory relative := by
            rw [bundleAt, bundleAt, FileTree.listing, FileTree.listing, agrees.directoryOf]
            cases before.directoryOf directory with
            | error failure => rfl
            | ok place =>
                have names := FileTree.sortBy_eq_of_mem_iff (alsoWellFormed.nodup_namesIn place)
                  (wellFormed.nodup_namesIn place) (agrees.mem_namesIn_iff place)
                simp only [bind, Except.bind, pure, Except.pure, Except.mapError, templatesIn_eq,
                  templateNames, names, agrees.isFile]
          rw [Errand.item?, Errand.item?, bundles]

theorem Errand.below_of_agrees (errand : Errand) :
    errand.below after = errand.below before := by
  cases errand with
  | report directory failure => rfl
  | enter own directory relative =>
      have listed : directoriesIn after directory = directoriesIn before directory := by
        rw [directoriesIn, directoriesIn, agrees.directoryOf]
        cases before.directoryOf directory with
        | error failure => rfl
        | ok place =>
            have kept : ∀ name, name ∈ (after.namesIn place).filter (fun name =>
                after.isDirectoryAt (place ++ [name])) ↔
                  name ∈ (before.namesIn place).filter fun name =>
                    before.isDirectoryAt (place ++ [name]) := by
              intro name
              rw [List.mem_filter, List.mem_filter, agrees.mem_namesIn_iff, FileTree.isDirectoryAt,
                FileTree.isDirectoryAt, agrees.entries]
            have names := FileTree.sortBy_eq_of_mem_iff
              ((alsoWellFormed.nodup_namesIn place).filter _)
              ((wellFormed.nodup_namesIn place).filter _) kept
            simp only [bind, Except.bind, pure, Except.pure, names]
      rw [Errand.below, Errand.below, listed]

/-- A walk yields the same, and warns of the same, in whatever order directories are listed. -/
theorem items_of_agrees (walk : Walk) : walk.items after = walk.items before := by
  have course := visitAll_course walk (notes_serves wellFormed) ([], []) wellFormed
  have courseToo :=
    visitAll_course walk (notes_serves alsoWellFormed) ([], []) alsoWellFormed
  have start : walk.begin after = walk.begin before := by
    rw [begin, begin, agrees.findItself, agrees.find]
  have takes : notes.take (collector after) = notes.take (collector before) := by
    funext state item
    cases item <;> rfl
  have moved : ∀ {take : List Item × List Warning → Item → Except Empty (List Item × List Warning)}
      {state agenda result}, Course walk (fun _ => after) take state agenda result →
        Course walk (fun _ => before) take state agenda result := by
    intro take state agenda result course
    induction course with
    | finished => exact .finished
    | silent yields _ ih =>
        rw [Errand.item?_of_agrees agrees wellFormed alsoWellFormed] at yields
        rw [Errand.below_of_agrees agrees wellFormed alsoWellFormed] at ih
        exact .silent yields ih
    | taken yields takes _ ih =>
        rw [Errand.item?_of_agrees agrees wellFormed alsoWellFormed] at yields
        rw [Errand.below_of_agrees agrees wellFormed alsoWellFormed] at ih
        exact .taken yields takes ih
    | stopped yields takes =>
        rw [Errand.item?_of_agrees agrees wellFormed alsoWellFormed] at yields
        exact .stopped yields takes
  rw [start, takes] at courseToo
  have same := course.unique (moved courseToo)
  exact (Except.ok.inj same).symm

end Agreeing

/-! ## All bundles of a tree -/

/-- How a bundle comes from the directory below the root by these names. -/
structure Describes (files : FileTree) (walk : Walk) (place : Place) (extensions : List String)
    (relative : List Name) (bundle : Bundle) : Prop where
  source : bundle.sourceDirectory = walk.root.descend relative
  below : bundle.relativeDirectory = ⟨Path.joinSegments relative⟩
  names : bundle.relativeDirectory.normalNames = relative
  /-- The source directory is the root joined with the relative directory. -/
  joined : (walk.root.join bundle.relativeDirectory).components = bundle.sourceDirectory.components
  output : bundle.outputFile = walk.layout.outputFile bundle.relativeDirectory
    ((bundle.sourceDirectory.fileName.map Bytes.toStringLossy).getD "")
  /-- The templates are exactly the entries that are, in increasing order. -/
  templates : ∃ names, Increasing names ∧
    (∀ name, name ∈ names ↔ IsTemplate files walk.root place extensions relative name) ∧
    bundle.templates = names.map fun name =>
      TemplateSource.ofPath (bundle.sourceDirectory.joinName name)

section Whole

variable {files : FileTree} {place : Place}

theorem describes_bundleOn (wellFormed : files.WellFormed) {root : Path}
    (filled : root.bytes ≠ []) (extensions : List String) (layout : Layout)
    {relative : List Name} (found : files.entry? (place ++ relative) = some .directory) :
    Describes files (Walk.of root extensions layout) place extensions relative
      ((Walk.of root extensions layout).bundleOn files place relative) where
  source := rfl
  below := rfl
  names := Path.normalNames_joinSegments relative fun name member =>
    wellFormed.plain found name (List.mem_append_right _ member)
  joined := Path.components_join_joinSegments filled relative fun name member =>
    wellFormed.plain found name (List.mem_append_right _ member)
  output := rfl
  templates := ⟨(Walk.of root extensions layout).templatesAt files place relative,
    templateNames_increasing _ files _ _ (wellFormed.nodup_namesIn _),
    mem_templatesAt_iff wellFormed root extensions layout relative, rfl⟩

/-- All that lies below a directory that was entered is entered as well. -/
theorem entered_of_reachable (wellFormed : files.WellFormed) {walk : Walk}
    (reached : files.directoryOf walk.root = .ok place) {done : List (Errand × FileTree)}
    (still : ∀ step ∈ done, step.2 = files) {own : Bool}
    (started : (Errand.enter own walk.root [], files) ∈ done)
    (closed : ∀ step ∈ done, ∀ errand ∈ step.1.below step.2, ∃ later, (errand, later) ∈ done) :
    ∀ relative, Reachable files place relative → Fits walk.root relative →
      relative ∈ entered done := by
  have found := FileTree.entry?_of_directoryOf wellFormed reached
  have visited : ∀ relative, Reachable files place relative → Fits walk.root relative →
      ∃ own, (Errand.enter own (walk.root.descend relative) relative, files) ∈ done := by
    intro relative reachable
    induction reachable with
    | root => exact fun _ => ⟨own, started⟩
    | @inside relative name reachable isBelow ih =>
        intro fits
        have plain := wellFormed.plain isBelow name (by simp)
        have above := fits.of_concat plain
        have here := (reachable_iff wellFormed found relative).mp reachable
        obtain ⟨own, isDone⟩ := ih above
        obtain ⟨later, isDoneToo⟩ := closed _ isDone
          (.enter true (walk.root.descend (relative ++ [name])) (relative ++ [name])) (by
            rw [below_descend wellFormed reached here, if_pos above]
            exact List.mem_map_of_mem ((mem_directoriesAt_iff name).mpr isBelow))
        have same : later = files := still _ isDoneToo
        rw [same] at isDoneToo
        exact ⟨true, isDoneToo⟩
  intro relative reachable fits
  obtain ⟨own, isDone⟩ := visited relative reachable fits
  exact List.mem_filterMap.mpr ⟨_, isDone, rfl⟩

/-- The errands that are done in a tree with a real directory at the root. -/
theorem sweep_of_real (wellFormed : files.WellFormed) (walk : Walk)
    (real : files.findItself walk.root = .ok (place, .directory)) :
    ∃ done, (walk.items files).1 = walk.given done ∧
      (entered done).Pairwise (List.Lex Precedes) ∧
      (templatePaths (bundlesAmong (walk.given done))).Nodup ∧
      (∀ step ∈ done, step.2 = files ∧ step.1.Real walk.root files place) ∧
      ∀ relative, Reachable files place relative → Fits walk.root relative →
        relative ∈ entered done := by
  have reached := FileTree.directoryOf_of_findItself real
  have found := FileTree.entry?_of_directoryOf wellFormed reached
  obtain ⟨done, sweep, same, items⟩ := items_sweep walk wellFormed
  obtain ⟨sound, apart⟩ := begin_sound walk files
  have allWellFormed : ∀ step ∈ done, step.2.WellFormed := fun step member =>
    (same step member) ▸ wellFormed
  have start : walk.begin files = [.enter true walk.root []] := by rw [begin, real]
  have allReal := sweep.real wellFormed reached same (by
    intro errand member
    rw [start] at member
    rw [List.mem_singleton.mp member]
    exact ⟨rfl, rfl, by rwa [List.append_nil]⟩)
  obtain ⟨started, closed⟩ := sweep.closed rfl
  obtain ⟨later, isDone⟩ := started (.enter true walk.root []) (by rw [start]; simp)
  have still : later = files := same _ isDone
  rw [still] at isDone
  exact ⟨done, items, (sweep.ordered allWellFormed apart).1,
    sweep.templates_nodup walk allWellFormed sound apart,
    fun step member => ⟨same step member, allReal step member⟩,
    entered_of_reachable wellFormed reached same isDone closed⟩

theorem entry?_of_entered {root : Path} {done : List (Errand × FileTree)}
    (real : ∀ step ∈ done, step.1.Real root files place) :
    ∀ way ∈ entered done, files.entry? (place ++ way) = some .directory := by
  intro way member
  obtain ⟨⟨errand, current⟩, isDone, isWay⟩ := List.mem_filterMap.mp member
  have known := real _ isDone
  cases errand with
  | report directory failure => cases isWay
  | enter own directory relative =>
      cases isWay
      exact known.2.2

/-- Whether a directory yields a bundle. -/
def Yields (walk : Walk) (files : FileTree) (place : Place) (relative : List Name) : Prop :=
  Fits walk.root relative ∧ walk.templatesAt files place relative ≠ []

instance (walk : Walk) (files : FileTree) (place : Place) (relative : List Name) :
    Decidable (Yields walk files place relative) :=
  inferInstanceAs (Decidable (_ ∧ _))

theorem bundlesAmong_given (wellFormed : files.WellFormed) (walk : Walk)
    (reached : files.directoryOf walk.root = .ok place) : ∀ done : List (Errand × FileTree),
      (∀ step ∈ done, step.2 = files ∧ step.1.Real walk.root files place) →
      bundlesAmong (walk.given done) =
        ((entered done).filter fun relative => Yields walk files place relative).map
          (walk.bundleOn files place) := by
  intro done
  induction done with
  | nil => intro _; rfl
  | cons step rest ih =>
      intro all
      obtain ⟨⟨still, real⟩, others⟩ := List.forall_mem_cons.mp all
      have later := ih others
      obtain ⟨errand, current⟩ := step
      simp only at still real
      subst still
      cases errand with
      | report directory failure => exact later
      | enter own directory relative =>
          obtain ⟨rfl, rfl, found⟩ := real
          have yields := item?_descend wellFormed reached found
          have whole : entered
              ((Errand.enter true (walk.root.descend relative) relative, current) ::
              rest) = relative :: entered rest := rfl
          rw [whole]
          by_cases fits : Fits walk.root relative
          · by_cases empty : walk.templatesAt current place relative = []
            · rw [if_pos fits, if_pos empty] at yields
              rw [given_cons_of_none rest yields, later, List.filter_cons_of_neg]
              simp [Yields, empty]
            · rw [if_pos fits, if_neg empty] at yields
              rw [given_cons_of_some rest yields, List.filter_cons_of_pos, List.map_cons, ← later]
              · rfl
              · simp [Yields, fits, empty]
          · rw [if_neg fits] at yields
            rw [given_cons_of_some rest yields, List.filter_cons_of_neg]
            · exact later
            · simp [Yields, fits]

theorem error_of_real (wellFormed : files.WellFormed) {walk : Walk}
    (reached : files.directoryOf walk.root = .ok place) {errand : Errand}
    (real : errand.Real walk.root files place) {error : WalkError}
    (yields : errand.item? walk files = some (.error error)) :
    ∃ relative, files.entry? (place ++ relative) = some .directory ∧ ¬ Fits walk.root relative ∧
      (error = .listing (walk.root.descend relative) .nameTooLong ∨
        error = .traverse (walk.root.descend relative) .nameTooLong) := by
  cases errand with
  | report directory failure =>
      obtain ⟨rfl, relative, rfl, found, long⟩ := real
      cases yields
      exact ⟨relative, found, long, Or.inr rfl⟩
  | enter own directory relative =>
      obtain ⟨rfl, rfl, found⟩ := real
      rw [item?_descend wellFormed reached found] at yields
      by_cases fits : Fits walk.root relative
      · rw [if_pos fits] at yields
        split at yields <;> cases yields
      · rw [if_neg fits] at yields
        cases yields
        exact ⟨relative, found, fits, Or.inl rfl⟩

/-- Below a real directory a walk yields one bundle for each directory that real directories
lead to and that has templates, in the order of the names on the way, with exactly these
templates; the only failures are paths that are too long for the system. -/
theorem items_of_real_root (wellFormed : files.WellFormed) {root : Path}
    (real : files.findItself root = .ok (place, .directory)) (extensions : List String)
    (layout : Layout) :
    (∃ ways : List (List Name), ways.Pairwise (List.Lex Precedes) ∧
      (∀ way, way ∈ ways ↔ Reachable files place way ∧
        ∃ name, IsTemplate files root place extensions way name) ∧
      List.Forall₂ (Describes files (Walk.of root extensions layout) place extensions) ways
        (bundlesAmong ((Walk.of root extensions layout).items files).1)) ∧
    (templatePaths (bundlesAmong ((Walk.of root extensions layout).items files).1)).Nodup ∧
    (∀ error, .error error ∈ ((Walk.of root extensions layout).items files).1 →
      ∃ way, Reachable files place way ∧ ¬ Fits root way ∧
        (error = .listing (root.descend way) .nameTooLong ∨
          error = .traverse (root.descend way) .nameTooLong)) ∧
    ∀ other : FileTree, other.WellFormed → files.Agrees other →
      (Walk.of root extensions layout).items other =
        (Walk.of root extensions layout).items files := by
  have reached := FileTree.directoryOf_of_findItself real
  have located := real
  rw [FileTree.findItself_eq_ok_iff, FileTree.locateThrough_eq_ok_iff] at located
  have filled := (FileTree.checkPath_eq_ok_iff.mp located.1).2.1
  have found := FileTree.entry?_of_directoryOf wellFormed reached
  obtain ⟨done, items, ordered, distinct, all, visited⟩ :=
    sweep_of_real wellFormed (Walk.of root extensions layout) real
  have shape := bundlesAmong_given wellFormed (Walk.of root extensions layout) reached done all
  have isReal := entry?_of_entered fun step isDone => (all step isDone).2
  rw [items]
  refine ⟨⟨(entered done).filter fun relative =>
    Yields (Walk.of root extensions layout) files place relative, ordered.filter _, ?_, ?_⟩,
    distinct, ?_, ?_⟩
  · intro way
    rw [List.mem_filter, decide_eq_true_eq, Yields, reachable_iff wellFormed found]
    constructor
    · rintro ⟨member, _, some⟩
      refine ⟨isReal way member, ?_⟩
      obtain ⟨name, isIn⟩ := List.exists_mem_of_ne_nil _ some
      exact ⟨name, (mem_templatesAt_iff wellFormed root extensions layout way name).mp isIn⟩
    · rintro ⟨here, name, template⟩
      obtain ⟨entry, isThere⟩ := Option.isSome_iff_exists.mp template.listed
      have plain := wellFormed.plain isThere name (by simp)
      have isFile := template.isFile
      rw [← Path.descend_concat] at isFile
      have fits := (FileTree.fits_of_isFile wellFormed reached here plain isFile).of_concat plain
      have isIn := (mem_templatesAt_iff wellFormed root extensions layout way name).mpr template
      exact ⟨visited way ((reachable_iff wellFormed found way).mpr here) fits, fits,
        List.ne_nil_of_mem isIn⟩
  · rw [shape, List.forall₂_map_right_iff, List.forall₂_same]
    intro way member
    exact describes_bundleOn wellFormed filled extensions layout
      (isReal way (List.mem_of_mem_filter member))
  · intro error member
    obtain ⟨⟨errand, current⟩, isDone, yields⟩ := List.mem_filterMap.mp member
    obtain ⟨still, isReal⟩ := all _ isDone
    simp only at still isReal yields
    subst still
    obtain ⟨way, isWay, long, kinds⟩ := error_of_real wellFormed reached isReal yields
    exact ⟨way, (reachable_iff wellFormed found way).mpr isWay, long, kinds⟩
  · intro other alsoWellFormed agrees
    exact items_of_agrees agrees wellFormed alsoWellFormed _

end Whole

/-- A directory with one template in it, and a script beside it. -/
def sampleFiles : FileTree where
  entries := [
    ([Bytes.ofString "s"], .directory),
    ([Bytes.ofString "s", Bytes.ofString "a.h"], .file (Bytes.ofString "x")),
    ([Bytes.ofString "e"], .file (Bytes.ofString "y"))]
  working := []

theorem sampleFiles_wellFormed : sampleFiles.WellFormed := by
  decide

theorem items_of_sampleFiles :
    sampleFiles.findItself (.ofString "/s") = .ok ([Bytes.ofString "s"], .directory) ∧
      ∃ ways : List (List Name), ways.Pairwise (List.Lex Precedes) ∧
        List.Forall₂ (Describes sampleFiles (Walk.of (.ofString "/s") ["h"]
          ⟨.ofString "/o", .preserve, "js"⟩) [Bytes.ofString "s"] ["h"]) ways
            (bundlesAmong ((Walk.of (.ofString "/s") ["h"]
              ⟨.ofString "/o", .preserve, "js"⟩).items sampleFiles).1) := by
  have found : sampleFiles.findItself (.ofString "/s") =
      .ok ([Bytes.ofString "s"], .directory) := by
    cbv
  obtain ⟨⟨ways, increasing, _, described⟩, _⟩ :=
    items_of_real_root sampleFiles_wellFormed found ["h"] ⟨.ofString "/o", .preserve, "js"⟩
  exact ⟨found, ways, increasing, described⟩

end TemplateBuild.Walk

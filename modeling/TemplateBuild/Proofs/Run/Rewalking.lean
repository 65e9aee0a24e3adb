import TemplateBuild.Proofs.Run.Retaking
import TemplateBuild.Proofs.Walk.Growing

/-!
# Walking again

A run whose modules are not taken for templates takes the items of the tree as it was before, one
after the other.  A second run takes the same items, so it ends as the first one did, and the tree
with which it began is the tree that it leaves.
-/

set_option autoImplicit false

namespace TemplateBuild

open FileTree (Grown Retraces)
open Walk (Errand)

/-- A bundle of a directory that was there before, whose module is not taken for a template. -/
def Walk.Modest (walk : Walk) (before : FileTree) (place : Place) (item : Walk.Item) : Prop :=
  ∀ bundle, item = .ok bundle → walk.isTemplateName bundle.outputFile = false ∧
    ∃ relative, before.entry? (place ++ relative) = some .directory ∧
      bundle = walk.bundleOn before place relative

namespace Run

variable {σ : Type}

/-- The tree in the end. -/
def lastFiles : Except (RunError × World) (Progress σ × World) → FileTree
  | .ok (_, world) => world.files
  | .error (_, world) => world.files

/-- How a walk ends that begins with the tree which another one has left. -/
def EndsAgain : Except (RunError × World) (Progress σ × World) →
    Except (RunError × World) (Progress σ × World) → Prop
  | .ok (progress, world), result =>
    ∃ again, result = .ok (progress, again) ∧ world.files.Agrees again.files
  | .error (error, world), result =>
    ∃ other again, result = .error (other, again) ∧ error.Again other ∧
      world.files.Agrees again.files

section Walking

variable (compiler : Compiler σ) (settings : Settings) (cancelled : Cancellation) (engine : Engine)

/-- What becomes of items that are taken one after the other. -/
def takeAll (progress : Progress σ) (world : World) (items : List Walk.Item) :
    Except (RunError × World) (Progress σ × World) :=
  items.foldlM (steps.take (visitor compiler settings cancelled engine)) (progress, world)

theorem takeAll_cons (progress : Progress σ) (world : World) (item : Walk.Item)
    (items : List Walk.Item) :
    takeAll compiler settings cancelled engine progress world (item :: items) =
      match steps.take (visitor compiler settings cancelled engine) (progress, world) item with
      | .ok (later, reached) => takeAll compiler settings cancelled engine later reached items
      | .error stopped => .error stopped := by
  rw [takeAll, List.foldlM_cons]
  rcases steps.take (visitor compiler settings cancelled engine) (progress, world) item with
    stopped | ⟨later, reached⟩ <;> rfl

variable {walk : Walk} {before start last : FileTree} {place : Place} {item : Walk.Item}
  {items : List Walk.Item} {progress : Progress σ} {world again : World}

/-! ## The tree grows -/

theorem take_grows (progress : Progress σ) (modest : walk.Modest before place item)
    (startFree : start.LinkFree) (wellFormed : world.files.WellFormed)
    (grown : Grown walk.Wants start world.files) :
    let result := steps.take (visitor compiler settings cancelled engine) (progress, world) item
    (lastFiles result).WellFormed ∧ Grown walk.Wants start (lastFiles result) := by
  cases item with
  | error error =>
      rw [take_error_eq]
      exact ⟨wellFormed, grown⟩
  | ok bundle =>
      have processed := take_bundle compiler settings cancelled engine progress world bundle
        wellFormed
      rcases ran : steps.take (visitor compiler settings cancelled engine) (progress, world)
        (.ok bundle) with ⟨error, left⟩ | ⟨later, reached⟩
      · rw [ran] at processed
        exact ⟨processed.1, grown.adds processed.2.1⟩
      · rw [ran] at processed
        obtain ⟨stillWellFormed, verdicts, passes⟩ := processed
        refine ⟨stillWellFormed, ?_⟩
        rcases passes.writes.cases with same | ⟨content, _, stored⟩
        · simp only at same
          rw [lastFiles, same]
          exact grown
        · exact Walk.grown_of_stored startFree grown (modest bundle rfl).1 stored

theorem takeAll_grows (startFree : start.LinkFree) : ∀ (items : List Walk.Item)
    (progress : Progress σ) (world : World), (∀ item ∈ items, walk.Modest before place item) →
      world.files.WellFormed → Grown walk.Wants start world.files →
      let result := takeAll compiler settings cancelled engine progress world items
      (lastFiles result).WellFormed ∧ Grown walk.Wants start (lastFiles result) := by
  intro items
  induction items with
  | nil => exact fun _ _ _ wellFormed grown => ⟨wellFormed, grown⟩
  | cons item rest ih =>
      intro progress world modest wellFormed grown result
      obtain ⟨first, others⟩ := List.forall_mem_cons.mp modest
      obtain ⟨stillWellFormed, further⟩ := take_grows compiler settings cancelled engine progress
        first startFree wellFormed grown
      have shape : result = _ := takeAll_cons ..
      rw [shape]
      rcases ran : steps.take (visitor compiler settings cancelled engine) (progress, world) item
        with stopped | ⟨later, reached⟩
      · rw [ran] at stillWellFormed further
        exact ⟨stillWellFormed, further⟩
      · rw [ran] at stillWellFormed further
        exact ih later reached others stillWellFormed further

/-! ## The same items -/

/-- Where a second run is, in the tree `again`, when the first one had come as far in the tree
`world`, with the same items ahead, and ended with the tree `last`. -/
structure Follows (walk : Walk) (before : FileTree) (place : Place) (last : FileTree)
    (items : List Walk.Item) (progress : Progress σ) (world again : World) : Prop where
  modest : ∀ item ∈ items, walk.Modest before place item
  wellFormed : world.files.WellFormed
  grown : Grown walk.Wants before world.files
  againWellFormed : again.files.WellFormed
  retraces : Retraces world.files last again.files
  ends : lastFiles (takeAll compiler settings cancelled engine progress world items) = last

/-- The texts of a bundle are the same in two trees that the tree as it was has grown to. -/
theorem sameTexts_of_modest (encoding : Encoding) (free : before.LinkFree)
    (wellFormed : before.WellFormed) (reached : before.directoryOf walk.root = .ok place)
    (modest : walk.Modest before place item) {one other : FileTree} (oneWellFormed : one.WellFormed)
    (grown : Grown walk.Wants before one) (otherWellFormed : other.WellFormed)
    (grownToo : Grown walk.Wants before other) (bundle : Bundle) (isBundle : item = .ok bundle) :
    SameTexts encoding one other bundle.templates := by
  intro template member
  obtain ⟨_, relative, known, rfl⟩ := modest bundle isBundle
  rw [Walk.readText_of_known wellFormed oneWellFormed free grown reached known _ template member,
    Walk.readText_of_known wellFormed otherWellFormed free grownToo reached known _ template member]

section Following

variable {compiler settings cancelled engine} (free : before.LinkFree)

include free

theorem Follows.toLast
    (follows : Follows compiler settings cancelled engine walk before place last items progress
      world again) : Grown walk.Wants world.files last := by
  rw [← follows.ends]
  exact (takeAll_grows compiler settings cancelled engine (follows.grown.linkFree free) items
    progress world follows.modest follows.wellFormed (.refl _)).2

theorem Follows.againGrown
    (follows : Follows compiler settings cancelled engine walk before place last items progress
      world again) : Grown walk.Wants before again.files := by
  apply follows.retraces.grown follows.grown
  rw [← follows.ends]
  exact (takeAll_grows compiler settings cancelled engine free items progress world follows.modest
    follows.wellFormed follows.grown).2

variable (wellFormed : before.WellFormed) (reached : before.directoryOf walk.root = .ok place)
  (real : settings.dryRun = false)

include wellFormed reached real

/-- What becomes of the next item in the first run becomes of it in the second one. -/
theorem Follows.step
    (follows : Follows compiler settings cancelled engine walk before place last (item :: items)
      progress world again) :
    match steps.take (visitor compiler settings cancelled engine) (progress, world) item with
    | .ok (later, next) => ∃ nextAgain,
      steps.take (visitor compiler settings cancelled engine) (progress, again) item =
          .ok (later, nextAgain) ∧
        Follows compiler settings cancelled engine walk before place last items later next nextAgain
    | .error (error, left) => left.files = last ∧ ∃ other leftAgain,
      steps.take (visitor compiler settings cancelled engine) (progress, again) item =
          .error (other, leftAgain) ∧
        error.Again other ∧ last.Agrees leftAgain.files := by
  have againGrown := follows.againGrown free
  obtain ⟨modest, stillWellFormed, grown, againWellFormed, retraces, ends⟩ := follows
  obtain ⟨first, others⟩ := List.forall_mem_cons.mp modest
  have same := sameTexts_of_modest settings.encoding free wellFormed reached first stillWellFormed
    grown againWellFormed againGrown
  have repeats : Repeats walk.Wants last
      (steps.take (visitor compiler settings cancelled engine) (progress, world) item)
      (steps.take (visitor compiler settings cancelled engine) (progress, again) item) :=
    take_repeats compiler cancelled engine real stillWellFormed (grown.linkFree free)
      againWellFormed (againGrown.linkFree free) retraces same progress
  obtain ⟨nextWellFormed, nextGrown⟩ := take_grows compiler settings cancelled engine progress
    first free stillWellFormed grown
  rw [takeAll_cons] at ends
  rcases ran : steps.take (visitor compiler settings cancelled engine) (progress, world) item with
    ⟨error, left⟩ | ⟨later, next⟩
  · rw [ran] at repeats ends
    exact ⟨ends, repeats ends⟩
  · rw [ran] at repeats ends nextWellFormed nextGrown
    -- What has been written stays a file until the end, where the second run finds it.
    have ahead : Grown walk.Wants next.files last := by
      rw [← ends]
      exact (takeAll_grows compiler settings cancelled engine (nextGrown.linkFree free) items later
        next others nextWellFormed (.refl _)).2
    obtain ⟨nextAgain, ranAgain, nextAgainWellFormed, further⟩ := repeats ahead
    exact ⟨nextAgain, ranAgain, others, nextWellFormed, nextGrown, nextAgainWellFormed, further,
      ends⟩

/-- The second run ends as the first one. -/
theorem Follows.endsAgain : ∀ {items : List Walk.Item} {progress : Progress σ}
    {world again : World},
    Follows compiler settings cancelled engine walk before place last items progress world again →
      EndsAgain (takeAll compiler settings cancelled engine progress world items)
        (takeAll compiler settings cancelled engine progress again items) := by
  -- By induction on the items ahead; that the second run follows the first one is the invariant.
  intro items
  induction items with
  | nil =>
      intro progress world again follows
      obtain rfl : world.files = last := follows.ends
      exact ⟨again, rfl, follows.retraces.agrees (.refl _)⟩
  | cons item rest ih =>
      intro progress world again follows
      have step := follows.step free wellFormed reached real
      rw [takeAll_cons, takeAll_cons]
      rcases ran : steps.take (visitor compiler settings cancelled engine) (progress, world) item
        with ⟨error, left⟩ | ⟨later, next⟩
      · rw [ran] at step
        obtain ⟨rfl, other, leftAgain, ranAgain, repeats, agrees⟩ := step
        rw [ranAgain]
        exact ⟨other, leftAgain, rfl, repeats, agrees⟩
      · rw [ran] at step
        obtain ⟨nextAgain, ranAgain, further⟩ := step
        rw [ranAgain]
        exact ih further

end Following

/-! ## The walk -/

section Heeding

variable {result : Except (RunError × World) (Progress σ × World)}

/-- If a run fails, the directories that have come by then can be entered. -/
def FitsIfFailed (walk : Walk) (before : FileTree) (place : Place)
    (result : Except (RunError × World) (Progress σ × World)) : Prop :=
  ∀ error left, result = .error (error, left) → walk.FitsNew before place left.files

theorem fitsIfFailed_of_last (fits : walk.FitsNew before place (lastFiles result)) :
    FitsIfFailed walk before place result := by
  rintro error left rfl
  exact fits

/-- A run heeds the items of the tree before it. -/
theorem heeds_first (free : before.LinkFree) (fits : FitsIfFailed walk before place result) :
    walk.Heeds before place filesOf (steps.take (visitor compiler settings cancelled engine)) result
      fun state items => (∀ item ∈ items, walk.Modest before place item) ∧
        state.2.files.WellFormed ∧ Grown walk.Wants before state.2.files where
  grown _ _ fine := fine.2
  goesOn := by
    rintro ⟨progress, world⟩ item items ⟨later, next⟩ ⟨modest, wellFormed, grown⟩ takes
    obtain ⟨first, others⟩ := List.forall_mem_cons.mp modest
    have grows := take_grows compiler settings cancelled engine progress first free wellFormed grown
    have fromHere := take_grows compiler settings cancelled engine progress first
      (grown.linkFree free) wellFormed (.refl _)
    rw [takes] at grows fromHere
    exact ⟨⟨others, grows⟩, fun place found => fromHere.2.directory found⟩
  refuses := by
    rintro ⟨progress, world⟩ error later takes
    rw [take_error_eq] at takes
    cases takes
  enters := by
    rintro ⟨progress, world⟩ items error _ takes
    rw [take_error_eq] at takes
    exact fits _ _ takes.symm

/-- So does a second run. -/
theorem heeds_second (free : before.LinkFree) (wellFormed : before.WellFormed)
    (reached : before.directoryOf walk.root = .ok place) (real : settings.dryRun = false)
    (fits : walk.FitsNew before place last) :
    walk.Heeds before place filesOf (steps.take (visitor compiler settings cancelled engine)) result
      fun state items => ∃ world,
        Follows compiler settings cancelled engine walk before place last items state.1 world
          state.2 where
  grown := by
    rintro ⟨progress, again⟩ items ⟨world, follows⟩
    exact ⟨follows.againWellFormed, follows.againGrown free⟩
  goesOn := by
    rintro ⟨progress, again⟩ item items ⟨later, nextAgain⟩ ⟨world, follows⟩ takes
    have step := follows.step free wellFormed reached real
    have fromHere := take_grows compiler settings cancelled engine progress
      (follows.modest item (List.mem_cons_self ..)) ((follows.againGrown free).linkFree free)
      follows.againWellFormed (.refl _)
    rw [takes] at fromHere
    refine ⟨?_, fun place found => fromHere.2.directory found⟩
    rcases ran : steps.take (visitor compiler settings cancelled engine) (progress, world) item with
      ⟨error, left⟩ | ⟨middle, next⟩
    · rw [ran] at step
      obtain ⟨_, other, leftAgain, ranAgain, _⟩ := step
      rw [ranAgain] at takes
      cases takes
    · rw [ran] at step
      obtain ⟨_, ranAgain, further⟩ := step
      rw [ranAgain] at takes
      cases takes
      exact ⟨next, further⟩
  refuses := by
    rintro ⟨progress, world⟩ error later takes
    rw [take_error_eq] at takes
    cases takes
  enters := by
    rintro ⟨progress, again⟩ items error ⟨world, follows⟩ _ relative found
    apply fits relative
    rcases follows.retraces.entries (place ++ relative) with same | same
    · exact (follows.toLast free).directory (same.symm.trans found)
    · exact same.symm.trans found

end Heeding

/-- The bundles that a walk yields are of directories with templates that are there. -/
theorem bundle_of_items (wellFormed : before.WellFormed) (free : before.LinkFree)
    (reached : before.directoryOf walk.root = .ok place) {bundle : Bundle}
    (member : .ok bundle ∈ (walk.items before).1) : ∃ relative,
      before.entry? (place ++ relative) = some .directory ∧
      walk.templatesAt before place relative ≠ [] ∧
      bundle = walk.bundleOn before place relative := by
  obtain ⟨relative, yields, isBundle⟩ := (Walk.mem_items_iff wellFormed free reached).mp member
  exact ⟨relative, Walk.entry?_of_yields wellFormed yields, yields.2, isBundle⟩

theorem modest_items (wellFormed : before.WellFormed) (free : before.LinkFree)
    (reached : before.directoryOf walk.root = .ok place)
    (modest : ∀ bundle, .ok bundle ∈ (walk.items before).1 →
      walk.isTemplateName bundle.outputFile = false) :
    ∀ item ∈ (walk.items before).1, walk.Modest before place item := by
  rintro item member bundle rfl
  obtain ⟨relative, found, _, isBundle⟩ := bundle_of_items wellFormed free reached member
  exact ⟨modest bundle member, relative, found, isBundle⟩

/-- A walk through a tree that has got directories takes the items of the tree before. -/
theorem visitAll_takes (wellFormed : before.WellFormed) (free : before.LinkFree)
    (reached : before.directoryOf walk.root = .ok place) {fine : _ → _ → Prop}
    (stillWellFormed : world.files.WellFormed) (grown : Grown walk.Wants before world.files)
    {result : Except (RunError × World) (Progress σ × World)}
    (ran : steps.after (walk.visitAll (visitor compiler settings cancelled engine))
      (progress, world) = result)
    (heeds : walk.Heeds before place filesOf
      (steps.take (visitor compiler settings cancelled engine)) result fine)
    (isFine : fine (progress, world) (walk.items before).1) :
    result = takeAll compiler settings cancelled engine progress world (walk.items before).1 := by
  obtain ⟨done, sweep, still, items⟩ := Walk.items_sweep walk wellFormed
  have course := Walk.visitAll_course walk (visitor_serves compiler settings cancelled engine)
    (progress, world) stillWellFormed
  obtain ⟨begins, known, real⟩ := Walk.begin_of_grown wellFormed free grown reached
  rw [show walk.begin (filesOf (progress, world)) = _ from begins, ran] at course
  rw [items] at isFine ⊢
  exact course.takes wellFormed free reached heeds done (known.symm ▸ sweep) still real isFine

section Visiting

variable {ready : World} (wellFormed : before.WellFormed) (free : before.LinkFree)
  (reached : before.directoryOf walk.root = .ok place)
  (modest : ∀ bundle, .ok bundle ∈ (walk.items before).1 →
    walk.isTemplateName bundle.outputFile = false)
  (readyWellFormed : ready.files.WellFormed) (adds : before.AddsDirectories ready.files)
  (progress : Progress σ)

include wellFormed free reached modest readyWellFormed adds

theorem visitAll_first :
    let first := steps.after (walk.visitAll (visitor compiler settings cancelled engine))
      (progress, ready)
    FitsIfFailed walk before place first →
      first = takeAll compiler settings cancelled engine progress ready (walk.items before).1 := by
  intro first fits
  have grown : Grown walk.Wants before ready.files := (Grown.refl before).adds adds
  exact visitAll_takes compiler settings cancelled engine wellFormed free reached readyWellFormed
    grown rfl (heeds_first compiler settings cancelled engine free fits)
    ⟨modest_items wellFormed free reached modest, readyWellFormed, grown⟩

/-- A walk lets the tree only grow. -/
theorem visitAll_grows (startFree : start.LinkFree) (grown : Grown walk.Wants start ready.files) :
    let first := steps.after (walk.visitAll (visitor compiler settings cancelled engine))
      (progress, ready)
    walk.FitsNew before place (lastFiles first) →
      (lastFiles first).WellFormed ∧ Grown walk.Wants start (lastFiles first) := by
  intro first fits
  have takes : first = _ := visitAll_first compiler settings cancelled engine wellFormed free
    reached modest readyWellFormed adds progress (fitsIfFailed_of_last fits)
  rw [takes]
  exact takeAll_grows compiler settings cancelled engine startFree _ progress ready
    (modest_items wellFormed free reached modest) readyWellFormed grown

/-- A walk that begins with what another one has left ends as that one did. -/
theorem visitAll_again (real : settings.dryRun = false) :
    let first := steps.after (walk.visitAll (visitor compiler settings cancelled engine))
      (progress, ready)
    walk.FitsNew before place (lastFiles first) → again.files = lastFiles first →
      EndsAgain first (steps.after (walk.visitAll (visitor compiler settings cancelled engine))
        (progress, again)) := by
  intro first fits begins
  have grown : Grown walk.Wants before ready.files := (Grown.refl before).adds adds
  have takesFirst : first = _ := visitAll_first compiler settings cancelled engine wellFormed free
    reached modest readyWellFormed adds progress (fitsIfFailed_of_last fits)
  obtain ⟨lastWellFormed, lastGrown⟩ := visitAll_grows compiler settings cancelled engine wellFormed
    free reached modest readyWellFormed adds progress free grown fits
  rw [← begins] at lastWellFormed lastGrown
  have follows : Follows compiler settings cancelled engine walk before place (lastFiles first)
      (walk.items before).1 progress ready again := by
    refine ⟨modest_items wellFormed free reached modest, readyWellFormed, grown, lastWellFormed, ?_,
      by rw [← takesFirst]⟩
    rw [begins]
    exact .begin _ _
  have takesSecond := visitAll_takes compiler settings cancelled engine wellFormed free reached
    lastWellFormed lastGrown rfl
    (heeds_second compiler settings cancelled engine free wellFormed reached real fits)
    ⟨ready, follows⟩
  rw [takesSecond, takesFirst]
  exact follows.endsAgain free wellFormed reached real

end Visiting

end Walking

end Run

end TemplateBuild

import TemplateBuild.Proofs.FileTree.Reaching
import TemplateBuild.Proofs.FileTree.Sorting
import TemplateBuild.Walk.Visit

/-!
# A walk step by step

What is still ahead of a walk is a list of errands.  Each errand is read off the files as they
are when its turn comes: it yields at most one item, and in its place come the errands of the
directories below.  Whoever takes the items may change the files in between.

`Walk.visitAll` goes through the errands one by one, in any monad whose programs can be run.
The bound on its depth plays no part: a path becomes too long for the system before the bound
is reached.
-/

set_option autoImplicit false

namespace TemplateBuild

namespace Walk

/-- Something that a walk has still to do. -/
inductive Errand where
  /-- Visit what is in a directory; `own` tells whether the directory itself yields a bundle. -/
  | enter (own : Bool) (directory : Path) (relative : List Name)
  /-- Tell that a directory cannot be entered. -/
  | report (directory : Path) (failure : FileFailure)
deriving DecidableEq, Repr

namespace Errand

/-- What an errand yields. -/
def item? (walk : Walk) (files : FileTree) : Errand → Option Item
  | .enter false _ _ => none
  | .enter true directory relative =>
    match walk.bundleAt files directory relative with
    | .error error => some (.error error)
    | .ok none => none
    | .ok (some bundle) => some (.ok bundle)
  | .report directory failure => some (.error (.traverse directory failure))

/-- What there is to do for a directory after its own bundle. -/
def ofListing (directory : Path) (relative : List Name) :
    Except FileFailure (List Name) → List Errand
  | .error failure => [.report directory failure]
  | .ok names => names.map fun name => .enter true (directory.joinName name) (relative ++ [name])

/-- The errands that come in the place of an errand. -/
def below (files : FileTree) : Errand → List Errand
  | .enter _ directory relative => ofListing directory relative (directoriesIn files directory)
  | .report _ _ => []

end Errand

/-- The errands of a walk that has not begun. -/
def begin (walk : Walk) (files : FileTree) : List Errand :=
  match files.findItself walk.root with
  | .error failure => [.report walk.root failure]
  | .ok (_, .file _) => []
  | .ok (_, .directory) => [.enter true walk.root []]
  | .ok (_, .link _) =>
    match files.find walk.root with
    | .error failure => [.report walk.root failure]
    | .ok (_, .directory) => [.enter false walk.root []]
    | .ok _ => []

/-! ## Programs that can be run -/

/-- How the programs of a monad are run. -/
structure Runner (m : Type → Type) [Monad m] (S E : Type) where
  run : {α : Type} → m α → S → Except E (α × S)
  run_pure : ∀ {α : Type} (value : α) (state : S), run (pure value) state = .ok (value, state)
  run_bind : ∀ {α β : Type} (first : m α) (next : α → m β) (state : S),
    run (first >>= next) state = match run first state with
      | .ok (value, later) => run (next value) later
      | .error error => .error error

section Courses

variable {m : Type → Type} [Monad m] {S E : Type}

/-- What becomes of a state when a program is run in it. -/
def Runner.after (runner : Runner m S E) (program : m Unit) (state : S) : Except E S :=
  (runner.run program state).map Prod.snd

/-- What whoever takes the items does with one, the warnings before it included. -/
def Runner.take (runner : Runner m S E) (visitor : Visitor m) (state : S) : Item → Except E S
  | .ok bundle =>
    runner.after (do
      visitor.warn (collisions bundle.sourceDirectory [] bundle.templates)
      visitor.visit (.ok bundle)) state
  | .error error => runner.after (visitor.visit (.error error)) state

/-- What becomes of a state when an errand may have yielded an item. -/
def Runner.offer (runner : Runner m S E) (visitor : Visitor m) (state : S) :
    Option Item → Except E S
  | none => .ok state
  | some item => runner.take visitor state item

/-- How a walk goes on from a state to its end, where `take` says what becomes of a state when
an item is taken, and `tree` which files a state has. -/
inductive Course (walk : Walk) (tree : S → FileTree) (take : S → Item → Except E S) :
    S → List Errand → Except E S → Prop
  | finished {state : S} : Course walk tree take state [] (.ok state)
  | silent {state : S} {errand : Errand} {agenda : List Errand} {result : Except E S} :
      errand.item? walk (tree state) = none →
      Course walk tree take state (errand.below (tree state) ++ agenda) result →
      Course walk tree take state (errand :: agenda) result
  | taken {state later : S} {errand : Errand} {agenda : List Errand} {item : Item}
      {result : Except E S} : errand.item? walk (tree state) = some item →
      take state item = .ok later →
      Course walk tree take later (errand.below (tree state) ++ agenda) result →
      Course walk tree take state (errand :: agenda) result
  | stopped {state : S} {errand : Errand} {agenda : List Errand} {item : Item} {error : E} :
      errand.item? walk (tree state) = some item → take state item = .error error →
      Course walk tree take state (errand :: agenda) (.error error)

theorem Course.unique {walk : Walk} {tree : S → FileTree} {take : S → Item → Except E S}
    {state : S} {agenda : List Errand} {result other : Except E S}
    (course : Course walk tree take state agenda result)
    (another : Course walk tree take state agenda other) : result = other := by
  induction course with
  | finished => cases another; rfl
  | silent yields _ ih =>
      cases another with
      | silent _ later => exact ih later
      | taken yieldsOther _ _ => rw [yields] at yieldsOther; cases yieldsOther
      | stopped yieldsOther _ => rw [yields] at yieldsOther; cases yieldsOther
  | taken yields takes _ ih =>
      cases another with
      | silent yieldsOther _ => rw [yields] at yieldsOther; cases yieldsOther
      | taken yieldsOther takesOther later =>
          rw [yields] at yieldsOther
          cases yieldsOther
          rw [takes] at takesOther
          cases takesOther
          exact ih later
      | stopped yieldsOther takesOther =>
          rw [yields] at yieldsOther
          cases yieldsOther
          rw [takes] at takesOther
          cases takesOther
  | stopped yields takes =>
      cases another with
      | silent yieldsOther _ => rw [yields] at yieldsOther; cases yieldsOther
      | taken yieldsOther takesOther _ =>
          rw [yields] at yieldsOther
          cases yieldsOther
          rw [takes] at takesOther
          cases takesOther
      | stopped yieldsOther takesOther =>
          rw [yields] at yieldsOther
          cases yieldsOther
          rw [takes] at takesOther
          cases takesOther
          rfl

/-! ## The course of a whole walk -/

variable {walk : Walk} {runner : Runner m S E} {visitor : Visitor m} {tree : S → FileTree}

theorem Runner.after_pure (value : Unit) (state : S) :
    runner.after (pure value) state = .ok state := by
  rw [after, runner.run_pure]
  rfl

theorem Runner.after_bind (first : m Unit) (next : Unit → m Unit) (state : S) :
    runner.after (first >>= next) state =
      (runner.after first state).bind (runner.after (next ())) := by
  simp only [after]
  rw [runner.run_bind]
  cases runner.run first state with
  | error error => rfl
  | ok reached => rfl

theorem Runner.after_map (program : m Unit) (state : S) :
    (runner.after program state).map (fun later => ((), later)) = runner.run program state := by
  rw [after]
  cases runner.run program state <;> rfl

/-- The visitor sees the files of the state, and keeps them well-formed. -/
structure Runner.Serves (runner : Runner m S E) (visitor : Visitor m) (tree : S → FileTree) :
    Prop where
  files : ∀ state, runner.run visitor.files state = .ok (tree state, state)
  keeps : ∀ state item later, (tree state).WellFormed →
    runner.take visitor state item = .ok later → (tree later).WellFormed

theorem Runner.Serves.after_files (serves : runner.Serves visitor tree)
    (next : FileTree → m Unit) (state : S) :
    runner.after (visitor.files >>= next) state = runner.after (next (tree state)) state := by
  rw [after, runner.run_bind, serves.files]
  rfl

theorem visitBundle_after (serves : runner.Serves visitor tree) (directory : Path)
    (relative : List Name) (state : S) :
    runner.after (walk.visitBundle visitor directory relative) state =
      runner.offer visitor state
        ((Errand.enter true directory relative).item? walk (tree state)) := by
  rw [visitBundle, serves.after_files, Errand.item?]
  cases walk.bundleAt (tree state) directory relative with
  | error error => rfl
  | ok found =>
      cases found with
      | none => exact runner.after_pure () state
      | some bundle => rfl

/-- What is done for a directory after its own bundle. -/
def visitBelow (walk : Walk) (visitor : Visitor m) (depth : Nat) (directory : Path)
    (relative : List Name) : Except FileFailure (List Name) → m Unit
  | .error failure => visitor.visit (.error (.traverse directory failure))
  | .ok names => names.forM fun name =>
    walk.visitWithin visitor depth true (directory.joinName name) (relative ++ [name])

theorem visitWithin_after (serves : runner.Serves visitor tree) (depth : Nat) (own : Bool)
    (directory : Path) (relative : List Name) (state : S) :
    runner.after (walk.visitWithin visitor (depth + 1) own directory relative) state =
      (runner.offer visitor state
        ((Errand.enter own directory relative).item? walk (tree state))).bind
          (runner.after (walk.visitBelow visitor depth directory relative
            (directoriesIn (tree state) directory))) := by
  rw [visitWithin, serves.after_files]
  cases own with
  | false =>
      simp only [Bool.false_eq_true, if_false]
      cases directoriesIn (tree state) directory <;> rfl
  | true =>
      simp only [if_true]
      rw [runner.after_bind, visitBundle_after serves]
      cases directoriesIn (tree state) directory <;> rfl

/-- What is known of a program that comes before the rest of a walk: when it is through, the
rest has its course, and when it fails, that is the end. -/
def Before (walk : Walk) (runner : Runner m S E) (visitor : Visitor m) (tree : S → FileTree)
    (rest : List Errand) (result : Except E S) : Except E S → Prop
  | .ok later =>
    (tree later).WellFormed → Course walk tree (runner.take visitor) later rest result
  | .error error => result = .error error

/-- An item that is offered comes first, and the errands that follow come after it. -/
theorem Course.offered (serves : runner.Serves visitor tree) {state : S}
    (wellFormed : (tree state).WellFormed) {errand : Errand} {rest : List Errand}
    {next : S → Except E S} {result : Except E S}
    (before : Before walk runner visitor tree rest result
      ((runner.offer visitor state (errand.item? walk (tree state))).bind next))
    (goesOn : ∀ later, (tree later).WellFormed →
      Before walk runner visitor tree rest result (next later) →
      Course walk tree (runner.take visitor) later (errand.below (tree state) ++ rest) result) :
    Course walk tree (runner.take visitor) state (errand :: rest) result := by
  cases yields : errand.item? walk (tree state) with
  | none =>
      rw [yields] at before
      exact .silent yields (goesOn state wellFormed before)
  | some item =>
      rw [yields, Runner.offer] at before
      cases takes : runner.take visitor state item with
      | error error =>
          rw [takes] at before
          have same : result = .error error := before
          rw [same]
          exact .stopped yields takes
      | ok later =>
          rw [takes] at before
          exact .taken yields takes
            (goesOn later (serves.keeps state item later wellFormed takes) before)

theorem report_course (serves : runner.Serves visitor tree) {state : S}
    (wellFormed : (tree state).WellFormed) {directory : Path} {failure : FileFailure}
    {rest : List Errand} {result : Except E S}
    (before : Before walk runner visitor tree rest result
      (runner.after (visitor.visit (.error (.traverse directory failure))) state)) :
    Course walk tree (runner.take visitor) state (.report directory failure :: rest) result := by
  have offered : runner.after (visitor.visit (.error (.traverse directory failure))) state =
      (runner.offer visitor state
        ((Errand.report directory failure).item? walk (tree state))).bind .ok := by
    rw [Errand.item?, Runner.offer, Runner.take]
    cases runner.after (visitor.visit (.error (.traverse directory failure))) state <;> rfl
  rw [offered] at before
  apply Course.offered serves wellFormed before
  intro later stillWellFormed goesOn
  exact goesOn stillWellFormed

/-- What is known of the directories that are found in a directory; its path is not too long, so
that depth is left for them. -/
theorem directoriesIn_eq_ok {files : FileTree} {directory : Path} {names : List Name}
    (wellFormed : files.WellFormed) (listed : directoriesIn files directory = .ok names) :
    directory.bytes.length ≤ FileTree.longestPath ∧ FileTree.Increasing names ∧
      ∀ name ∈ names, Name.Plain name := by
  rw [directoriesIn] at listed
  cases reached : files.directoryOf directory with
  | error failure => simp [reached, bind, Except.bind] at listed
  | ok place =>
      simp only [reached, bind, Except.bind, pure, Except.pure, Except.ok.injEq] at listed
      subst listed
      rw [FileTree.directoryOf_eq_ok_iff, FileTree.find_eq_ok_iff,
        FileTree.locateThrough_eq_ok_iff] at reached
      refine ⟨(FileTree.checkPath_eq_ok_iff.mp reached.1).2.2, ?_, ?_⟩
      · exact FileTree.sortBy_increasing _ ((wellFormed.nodup_namesIn place).filter _)
      · intro name member
        rw [FileTree.mem_sortBy_iff, List.mem_filter, FileTree.mem_namesIn_iff] at member
        obtain ⟨entry, found⟩ := Option.isSome_iff_exists.mp member.1
        exact wellFormed.plain found name (by simp)

/-- One subdirectory after the other. -/
theorem names_course (depth : Nat) (directory : Path) (relative : List Name) {names : List Name}
    (each : ∀ name ∈ names, ∀ state rest (result : Except E S), (tree state).WellFormed →
      Before walk runner visitor tree rest result (runner.after (walk.visitWithin visitor depth true
        (directory.joinName name) (relative ++ [name])) state) →
      Course walk tree (runner.take visitor) state
        (.enter true (directory.joinName name) (relative ++ [name]) :: rest) result)
    {state : S} {rest : List Errand} {result : Except E S} (wellFormed : (tree state).WellFormed)
    (before : Before walk runner visitor tree rest result
      (runner.after (walk.visitBelow visitor depth directory relative (.ok names)) state)) :
    Course walk tree (runner.take visitor) state
      (names.map (fun name => .enter true (directory.joinName name) (relative ++ [name])) ++ rest)
      result := by
  rw [visitBelow] at before
  induction names generalizing state with
  | nil =>
      rw [List.forM, runner.after_pure] at before
      exact before wellFormed
  | cons name names ih =>
      obtain ⟨first, others⟩ := List.forall_mem_cons.mp each
      rw [List.map_cons, List.cons_append]
      apply first state _ result wellFormed
      rw [List.forM, runner.after_bind] at before
      cases ran : runner.after (walk.visitWithin visitor depth true
          (directory.joinName name) (relative ++ [name])) state with
      | error error =>
          rw [ran] at before
          exact before
      | ok next =>
          rw [ran] at before
          intro nextWellFormed
          exact ih others nextWellFormed before

/-- A directory, when the course of its subdirectories is known. -/
theorem enter_course (serves : runner.Serves visitor tree) {depth : Nat} {own : Bool}
    {directory : Path} {relative : List Name} {state : S} {rest : List Errand}
    {result : Except E S} (wellFormed : (tree state).WellFormed)
    (each : ∀ names, directoriesIn (tree state) directory = .ok names → ∀ name ∈ names,
      ∀ later rest (result : Except E S), (tree later).WellFormed →
      Before walk runner visitor tree rest result (runner.after (walk.visitWithin visitor depth true
        (directory.joinName name) (relative ++ [name])) later) →
      Course walk tree (runner.take visitor) later
        (.enter true (directory.joinName name) (relative ++ [name]) :: rest) result)
    (before : Before walk runner visitor tree rest result
      (runner.after (walk.visitWithin visitor (depth + 1) own directory relative) state)) :
    Course walk tree (runner.take visitor) state (.enter own directory relative :: rest)
      result := by
  rw [visitWithin_after serves] at before
  apply Course.offered serves wellFormed before
  intro later stillWellFormed goesOn
  rw [Errand.below]
  cases listed : directoriesIn (tree state) directory with
  | error failure =>
      rw [listed] at goesOn
      exact report_course serves stillWellFormed goesOn
  | ok names =>
      rw [listed] at goesOn
      exact names_course depth directory relative (each names listed) stillWellFormed goesOn

-- The induction is on the depth that is left.  It never runs out: each directory has a longer path
-- than the one it lies in, and no path is longer than `longestPath`.
theorem visitWithin_course (serves : runner.Serves visitor tree) : ∀ (depth : Nat) (own : Bool)
    (directory : Path) (relative : List Name) (state : S) (rest : List Errand)
    (result : Except E S), FileTree.longestPath + 1 ≤ directory.bytes.length + depth →
      (tree state).WellFormed →
      Before walk runner visitor tree rest result
        (runner.after (walk.visitWithin visitor (depth + 1) own directory relative) state) →
      Course walk tree (runner.take visitor) state (.enter own directory relative :: rest)
        result := by
  intro depth
  induction depth with
  | zero =>
      intro own directory relative state rest result enough wellFormed before
      refine enter_course serves wellFormed ?_ before
      intro names listed
      have short := (directoriesIn_eq_ok wellFormed listed).1
      omega
  | succ depth ih =>
      intro own directory relative state rest result enough wellFormed before
      refine enter_course serves wellFormed ?_ before
      intro names listed name member later others result stillWellFormed goesOn
      have plain := (directoriesIn_eq_ok wellFormed listed).2.2 name member
      have longer := Path.length_lt_joinName directory plain.nonempty plain.slashless
      exact ih true _ _ later others result (by omega) stillWellFormed goesOn

/-- A walk goes through its errands until there are none, or until whoever takes the items has
had enough. -/
theorem visitAll_course (walk : Walk) (serves : runner.Serves visitor tree) (state : S)
    (wellFormed : (tree state).WellFormed) :
    Course walk tree (runner.take visitor) state (walk.begin (tree state))
      (runner.after (walk.visitAll visitor) state) := by
  have nothingAfter : ∀ result : Except E S,
      Before walk runner visitor tree [] result result := by
    intro result
    cases result with
    | error error => rfl
    | ok later => exact fun _ => .finished
  have whole : ∀ own through arrival,
      (tree state).locateThrough through walk.root = .ok arrival →
      Course walk tree (runner.take visitor) state [.enter own walk.root []]
        (runner.after (walk.visitWithin visitor greatestDepth own walk.root []) state) := by
    intro own through arrival located
    rw [FileTree.locateThrough_eq_ok_iff] at located
    have filled := (FileTree.checkPath_eq_ok_iff.mp located.1).2.1
    have positive := List.length_pos_iff.mpr filled
    exact visitWithin_course serves FileTree.longestPath own walk.root [] state [] _ (by omega)
      wellFormed (nothingAfter _)
  rw [visitAll, serves.after_files, begin]
  cases found : (tree state).findItself walk.root with
  | error failure => exact report_course serves wellFormed (nothingAfter _)
  | ok reached =>
      obtain ⟨place, entry⟩ := reached
      cases entry with
      | file content =>
          simp only
          rw [runner.after_pure]
          exact .finished
      | directory => exact whole true false _ (FileTree.findItself_eq_ok_iff.mp found)
      | link target =>
          simp only
          cases led : (tree state).find walk.root with
          | error failure => exact report_course serves wellFormed (nothingAfter _)
          | ok arrived =>
              obtain ⟨place, entry⟩ := arrived
              cases entry with
              | directory => exact whole false true _ (FileTree.find_eq_ok_iff.mp led)
              | file content =>
                  simp only
                  rw [runner.after_pure]
                  exact .finished
              | link target =>
                  simp only
                  rw [runner.after_pure]
                  exact .finished

end Courses

end Walk

end TemplateBuild

import TemplateBuild.Proofs.Engine.Resolving
import Mathlib.Logic.Function.Basic
import Mathlib.Logic.Relation

/-!
# Writers side by side

Modules and downloads are written by calls that take their steps in any order, and may fail or be
killed after each of them.  What lies at a destination is at all times what was there in the
beginning, or all that one of the calls for this destination was to write.
-/

set_option autoImplicit false

namespace TemplateBuild.Writers

open FileTree

/-- What a call is to put at its destination. -/
inductive Delivery where
  | text (content : Bytes)
  /-- A download gives up on a body that is empty or broke off. -/
  | download (reply : Reply)
deriving DecidableEq, Repr

namespace Delivery

def content : Delivery → Bytes
  | .text content => content
  | .download reply => reply.body

/-- Whether the content may be put in its place. -/
def Whole : Delivery → Prop
  | .text _ => True
  | .download reply => reply.complete = true ∧ reply.body ≠ []

end Delivery

structure Call where
  delivery : Delivery
  destination : Path
deriving DecidableEq, Repr

/-- How far a call has come; the place is that of its temporary file. -/
inductive Phase where
  | waiting
  /-- Some pieces are still to be written. -/
  | writing (temporary : Place) (ahead : List Bytes)
  /-- All is written and flushed. -/
  | complete (temporary : Place)
  /-- The temporary file is still to be removed. -/
  | failed (temporary : Place)
  | over
deriving DecidableEq, Repr

def Phase.temporary? : Phase → Option Place
  | .writing temporary _ => some temporary
  | .complete temporary => some temporary
  | .failed temporary => some temporary
  | _ => none

variable {ι : Type}

structure State (ι : Type) where
  tree : FileTree
  phase : ι → Phase

/-- The state after one call has gone on. -/
def State.next [DecidableEq ι] (state : State ι) (call : ι) (tree : FileTree) (phase : Phase) :
    State ι :=
  ⟨tree, Function.update state.phase call phase⟩

/-- Nothing was at the place in the beginning, and no call is to put something there. -/
structure Spare (initial : FileTree) (calls : ι → Call) (place : Place) : Prop where
  absent : initial.entry? place = none
  unaimed : ∀ call, initial.destination (calls call).destination ≠ .ok place

/-- One step of one call. -/
inductive Step [DecidableEq ι] (initial : FileTree) (calls : ι → Call) : State ι → State ι → Prop
  /-- A temporary file has a fresh name, which is no call's destination either. -/
  | create {state : State ι} {tree : FileTree} {call : ι} {directory : Place} {name : Name}
      {pieces : List Bytes} :
      state.phase call = .waiting → pieces.flatten = (calls call).delivery.content →
      state.tree.Fresh directory name →
      (∀ other, initial.destination (calls other).destination ≠ .ok (directory ++ [name])) →
      (WriteStep.create (directory ++ [name])).perform state.tree = .ok tree →
      Step initial calls state (state.next call tree (.writing (directory ++ [name]) pieces))
  | append {state : State ι} {tree : FileTree} {call : ι} {temporary : Place} {piece : Bytes}
      {ahead : List Bytes} :
      state.phase call = .writing temporary (piece :: ahead) →
      (WriteStep.append temporary piece).perform state.tree = .ok tree →
      Step initial calls state (state.next call tree (.writing temporary ahead))
  | flush {state : State ι} {call : ι} {temporary : Place} :
      state.phase call = .writing temporary [] → (calls call).delivery.Whole →
      Step initial calls state (state.next call state.tree (.complete temporary))
  | settle {state : State ι} {tree : FileTree} {call : ι} {temporary : Place} :
      state.phase call = .complete temporary →
      (WriteStep.settle temporary (calls call).destination).perform state.tree = .ok tree →
      Step initial calls state (state.next call tree .over)
  /-- Whatever a call was about to do may fail. -/
  | fail {state : State ι} {call : ι} {temporary : Place} :
      (state.phase call).temporary? = some temporary →
      Step initial calls state (state.next call state.tree (.failed temporary))
  | clean {state : State ι} {call : ι} {temporary : Place} :
      state.phase call = .failed temporary →
      Step initial calls state (state.next call (state.tree.erase temporary) .over)
  /-- A call that is killed leaves its temporary file. -/
  | kill {state : State ι} (call : ι) :
      Step initial calls state (state.next call state.tree .over)

inductive Reachable [DecidableEq ι] (initial : FileTree) (calls : ι → Call) : State ι → Prop
  | start : Reachable initial calls ⟨initial, fun _ => .waiting⟩
  | step {state later : State ι} : Reachable initial calls state →
      Step initial calls state later → Reachable initial calls later

/-! ## The invariant -/

/-- All that a call for this place was to write lies there. -/
def Delivered (initial : FileTree) (calls : ι → Call) (tree : FileTree) (place : Place) : Prop :=
  ∃ call, initial.destination (calls call).destination = .ok place ∧
    (calls call).delivery.Whole ∧ tree.entry? place = some (.file (calls call).delivery.content)

/-- What a temporary file holds while its call is in a phase. -/
def Phase.Holds (call : Call) (written : Bytes) : Phase → Prop
  | .writing _ ahead => written ++ ahead.flatten = call.delivery.content
  | .complete _ => written = call.delivery.content ∧ call.delivery.Whole
  | _ => True

structure Invariant (initial : FileTree) (calls : ι → Call) (state : State ι) : Prop where
  wellFormed : state.tree.WellFormed
  working : state.tree.working = initial.working
  places : ∀ place, state.tree.entry? place = initial.entry? place ∨
    initial.entry? place ≠ some .directory ∧ Delivered initial calls state.tree place ∨
    Spare initial calls place ∧ ∃ content, state.tree.entry? place = some (.file content)
  temporaries : ∀ call temporary, (state.phase call).temporary? = some temporary →
    Spare initial calls temporary ∧ ∃ written,
      state.tree.entry? temporary = some (.file written) ∧
        (state.phase call).Holds (calls call) written
  apart : ∀ call other temporary, (state.phase call).temporary? = some temporary →
    (state.phase other).temporary? = some temporary → call = other

theorem Invariant.start {initial : FileTree} (wellFormed : initial.WellFormed)
    (calls : ι → Call) : Invariant initial calls ⟨initial, fun _ => .waiting⟩ :=
  ⟨wellFormed, rfl, fun _ => Or.inl rfl, nofun, nofun⟩

section Preservation

variable {initial tree : FileTree} {calls : ι → Call} {state : State ι} {call : ι}
  {temporary : Place}

namespace Invariant

/-- Where only spare places change, all destinations are as before. -/
theorem places_elsewhere (invariant : Invariant initial calls state)
    (spare : Spare initial calls temporary)
    (here : tree.entry? temporary = none ∨ ∃ content, tree.entry? temporary = some (.file content))
    (elsewhere : ∀ place, place ≠ temporary → tree.entry? place = state.tree.entry? place)
    (place : Place) : tree.entry? place = initial.entry? place ∨
      initial.entry? place ≠ some .directory ∧ Delivered initial calls tree place ∨
      Spare initial calls place ∧ ∃ content, tree.entry? place = some (.file content) := by
  by_cases same : place = temporary
  · subst same
    rcases here with none | file
    · exact Or.inl (none.trans spare.absent.symm)
    · exact Or.inr (Or.inr ⟨spare, file⟩)
  · have kept := elsewhere place same
    rcases invariant.places place with first | ⟨leaf, other, aimed, whole, found⟩ | ⟨unused, file⟩
    · exact Or.inl (kept.trans first)
    · exact Or.inr (Or.inl ⟨leaf, other, aimed, whole, kept.trans found⟩)
    · rw [← kept] at file
      exact Or.inr (Or.inr ⟨unused, file⟩)

/-- One call goes on, while the temporary files of all others stay as they are. -/
theorem next [DecidableEq ι] (invariant : Invariant initial calls state) {phase : Phase}
    (wellFormed : tree.WellFormed) (working : tree.working = initial.working)
    (places : ∀ place, tree.entry? place = initial.entry? place ∨
      initial.entry? place ≠ some .directory ∧ Delivered initial calls tree place ∨
      Spare initial calls place ∧ ∃ content, tree.entry? place = some (.file content))
    (own : ∀ temporary, phase.temporary? = some temporary → Spare initial calls temporary ∧
      ∃ written, tree.entry? temporary = some (.file written) ∧ phase.Holds (calls call) written)
    (others : ∀ other temporary, other ≠ call →
      (state.phase other).temporary? = some temporary →
        tree.entry? temporary = state.tree.entry? temporary ∧
          phase.temporary? ≠ some temporary) :
    Invariant initial calls (state.next call tree phase) := by
  refine ⟨wellFormed, working, places, ?_, ?_⟩
  · intro other temporary holds
    rw [State.next] at holds ⊢
    simp only at holds ⊢
    by_cases same : other = call
    · subst same
      rw [Function.update_self] at holds ⊢
      exact own temporary holds
    · rw [Function.update_of_ne same] at holds ⊢
      obtain ⟨spare, written, found, content⟩ := invariant.temporaries other temporary holds
      exact ⟨spare, written, (others other temporary same holds).1.trans found, content⟩
  · intro first second temporary holdsFirst holdsSecond
    simp only [State.next] at holdsFirst holdsSecond
    by_cases isFirst : first = call
    · by_cases isSecond : second = call
      · rw [isFirst, isSecond]
      · rw [isFirst, Function.update_self] at holdsFirst
        rw [Function.update_of_ne isSecond] at holdsSecond
        exact absurd holdsFirst (others second temporary isSecond holdsSecond).2
    · rw [Function.update_of_ne isFirst] at holdsFirst
      by_cases isSecond : second = call
      · rw [isSecond, Function.update_self] at holdsSecond
        exact absurd holdsSecond (others first temporary isFirst holdsFirst).2
      · rw [Function.update_of_ne isSecond] at holdsSecond
        exact invariant.apart first second temporary holdsFirst holdsSecond

/-- A call that has a temporary file shares it with no other. -/
theorem others_apart (invariant : Invariant initial calls state)
    (holds : (state.phase call).temporary? = some temporary) {other : ι} {place : Place}
    (different : other ≠ call) (holdsOther : (state.phase other).temporary? = some place) :
    place ≠ temporary := by
  rintro rfl
  exact different (invariant.apart other call place holdsOther holds)

/-- A call may go on without touching the tree. -/
theorem unchanged [DecidableEq ι] (invariant : Invariant initial calls state) {phase : Phase}
    (own : ∀ place, phase.temporary? = some place →
      (state.phase call).temporary? = some place ∧
        ∀ written, (state.phase call).Holds (calls call) written →
          phase.Holds (calls call) written) :
    Invariant initial calls (state.next call state.tree phase) := by
  apply invariant.next invariant.wellFormed invariant.working invariant.places
  · intro place same
    obtain ⟨holds, content⟩ := own place same
    obtain ⟨spare, written, found, earlier⟩ := invariant.temporaries call place holds
    exact ⟨spare, written, found, content written earlier⟩
  · intro other place different holdsOther
    refine ⟨rfl, fun same => ?_⟩
    exact invariant.others_apart (own place same).1 different holdsOther rfl

/-- A temporary file may be stored whatever it holds. -/
theorem store [DecidableEq ι] (invariant : Invariant initial calls state) {written : Bytes}
    {phase : Phase} (spare : Spare initial calls temporary)
    (wellFormed : (state.tree.store temporary (.file written)).WellFormed)
    (holds : phase.temporary? = some temporary) (content : phase.Holds (calls call) written)
    (others : ∀ other place, other ≠ call → (state.phase other).temporary? = some place →
      place ≠ temporary) :
    Invariant initial calls
      (state.next call (state.tree.store temporary (.file written)) phase) := by
  have inner : temporary ≠ [] := by
    rintro rfl
    cases spare.absent
  have puts := putsFile_store state.tree inner written
  have here : entry? (state.tree.store temporary (.file written)) temporary =
      some (.file written) := by
    rw [puts.entries, if_pos rfl]
  have elsewhere : ∀ place, place ≠ temporary →
      entry? (state.tree.store temporary (.file written)) place = state.tree.entry? place :=
    fun place different => by rw [puts.entries, if_neg different]
  apply invariant.next wellFormed (puts.working.trans invariant.working)
    (invariant.places_elsewhere spare (Or.inr ⟨written, here⟩) elsewhere)
  · intro place same
    rw [holds, Option.some.injEq] at same
    subst same
    exact ⟨spare, written, here, content⟩
  · intro other place different holdsOther
    have apart := others other place different holdsOther
    exact ⟨elsewhere place apart, by rw [holds]; simpa using Ne.symm apart⟩

/-- A temporary file may be removed. -/
theorem erase [DecidableEq ι] (invariant : Invariant initial calls state)
    (holds : (state.phase call).temporary? = some temporary) :
    Invariant initial calls (state.next call (state.tree.erase temporary) .over) := by
  obtain ⟨spare, written, found, _⟩ := invariant.temporaries call temporary holds
  have leaf : state.tree.entry? temporary ≠ some .directory := by
    rw [found]
    simp
  have entries := invariant.wellFormed.entry?_erase leaf
  have elsewhere : ∀ place, place ≠ temporary →
      entry? (state.tree.erase temporary) place = state.tree.entry? place :=
    fun place different => by rw [entries, if_neg different]
  apply invariant.next (invariant.wellFormed.erase leaf) invariant.working
    (invariant.places_elsewhere spare (Or.inl (by rw [entries, if_pos rfl])) elsewhere)
  · exact nofun
  · intro other place different holdsOther
    exact ⟨elsewhere place (invariant.others_apart holds different holdsOther), nofun⟩

/-- What was there is covered by files only. -/
theorem under (invariant : Invariant initial calls state) (place : Place) :
    state.tree.entry? place = initial.entry? place ∨
      initial.entry? place ≠ some .directory ∧
        ∃ content, state.tree.entry? place = some (.file content) := by
  rcases invariant.places place with same | ⟨leaf, call, _, _, found⟩ | ⟨spare, file⟩
  · exact Or.inl same
  · exact Or.inr ⟨leaf, _, found⟩
  · exact Or.inr ⟨by rw [spare.absent]; simp, file⟩

theorem destination (invariant : Invariant initial calls state) {path : Path} {place : Place}
    (reached : state.tree.destination path = .ok place) : initial.destination path = .ok place :=
  destination_under_files invariant.working invariant.under reached

/-- Only a complete file takes its place. -/
theorem settle [DecidableEq ι] (invariant : Invariant initial calls state)
    (complete : state.phase call = .complete temporary)
    (renamed : state.tree.rename temporary (calls call).destination = .ok tree) :
    Invariant initial calls (state.next call tree .over) := by
  have holds : (state.phase call).temporary? = some temporary := by
    rw [complete]
    rfl
  obtain ⟨spare, written, found, content⟩ := invariant.temporaries call temporary holds
  rw [complete] at content
  obtain ⟨rfl, whole⟩ := content
  obtain ⟨target, reached, leaf, _, _, wellFormed, working, entries⟩ :=
    rename_moves invariant.wellFormed found renamed
  have aimed := invariant.destination reached
  have delivered : tree.entry? target = some (.file (calls call).delivery.content) := by
    rw [entries, if_pos rfl]
  have elsewhere : ∀ place, place ≠ target → place ≠ temporary →
      tree.entry? place = state.tree.entry? place :=
    fun place first second => by rw [entries, if_neg first, if_neg second]
  have leafBefore : initial.entry? target ≠ some .directory := by
    rcases invariant.under target with same | ⟨leaf, _⟩
    · rwa [← same]
    · exact leaf
  apply invariant.next wellFormed (working.trans invariant.working)
  · intro place
    by_cases isTarget : place = target
    · subst isTarget
      exact Or.inr (Or.inl ⟨leafBefore, call, aimed, whole, delivered⟩)
    · by_cases isTemporary : place = temporary
      · subst isTemporary
        exact Or.inl (by rw [entries, if_neg isTarget, if_pos rfl, spare.absent])
      · have kept := elsewhere place isTarget isTemporary
        rcases invariant.places place with same | ⟨notDirectory, other, rest⟩ | ⟨unused, file⟩
        · exact Or.inl (kept.trans same)
        · rw [← kept] at rest
          exact Or.inr (Or.inl ⟨notDirectory, other, rest⟩)
        · rw [← kept] at file
          exact Or.inr (Or.inr ⟨unused, file⟩)
  · exact nofun
  · intro other place different holdsOther
    have notTarget : place ≠ target := by
      rintro rfl
      exact (invariant.temporaries other place holdsOther).1.unaimed call aimed
    exact ⟨elsewhere place notTarget (invariant.others_apart holds different holdsOther), nofun⟩

end Invariant

/-- Every step keeps the invariant. -/
theorem Step.invariant [DecidableEq ι] {later : State ι} (step : Step initial calls state later)
    (invariant : Invariant initial calls state) : Invariant initial calls later := by
  cases step with
  | @create tree call directory name pieces waiting whole fresh unaimed performed =>
      simp only [WriteStep.perform, fresh.absent, Except.ok.injEq] at performed
      subst performed
      have absent : initial.entry? (directory ++ [name]) = none := by
        rcases invariant.places (directory ++ [name]) with same | ⟨_, _, _, _, found⟩ | ⟨spare, _⟩
        · exact same.symm.trans fresh.absent
        · rw [fresh.absent] at found
          cases found
        · exact spare.absent
      have content : (Phase.writing (directory ++ [name]) pieces).Holds (calls call) [] := whole
      apply invariant.store ⟨absent, unaimed⟩ _ rfl content
      · intro other place _ holdsOther same
        obtain ⟨_, written, found, _⟩ := invariant.temporaries other place holdsOther
        rw [same, fresh.absent] at found
        cases found
      · apply invariant.wellFormed.store fresh.above fresh.plain
        rw [fresh.absent]
        intro absurd
        cases absurd
  | @append tree call temporary piece ahead writing performed =>
      have holds : (state.phase call).temporary? = some temporary := by
        rw [writing]
        rfl
      obtain ⟨spare, written, found, content⟩ := invariant.temporaries call temporary holds
      rw [writing, Phase.Holds, List.flatten_cons, ← List.append_assoc] at content
      simp only [WriteStep.perform, found, Except.ok.injEq] at performed
      subst performed
      exact invariant.store spare (invariant.wellFormed.store_file found) rfl content
        fun other place => invariant.others_apart holds
  | @flush call temporary writing whole =>
      apply invariant.unchanged
      rw [writing]
      rintro place same
      refine ⟨same, fun written content => ⟨?_, whole⟩⟩
      simpa [Phase.Holds] using content
  | settle complete renamed => exact invariant.settle complete renamed
  | @fail call temporary holds =>
      apply invariant.unchanged
      intro place same
      cases same
      exact ⟨holds, fun _ _ => trivial⟩
  | @clean call temporary failed =>
      exact invariant.erase (by rw [failed]; rfl)
  | kill call =>
      apply invariant.unchanged
      intro place same
      cases same

theorem Reachable.invariant [DecidableEq ι] (wellFormed : initial.WellFormed)
    (reachable : Reachable initial calls state) : Invariant initial calls state := by
  induction reachable with
  | start => exact .start wellFormed calls
  | step _ step ih => exact step.invariant ih

end Preservation

/-! ## What is seen -/

/-- Whatever calls are at work and wherever they stop, a destination holds what it held in the
beginning, or all that one of the calls for it was to write, which is no body that is empty or broke
off.  A path that still leads to a destination leads to the one it led to in the beginning. -/
theorem destination_of_reachable [DecidableEq ι] {initial : FileTree} {calls : ι → Call}
    {state : State ι} (wellFormed : initial.WellFormed)
    (reachable : Reachable initial calls state) (call : ι) :
    (∀ place, initial.destination (calls call).destination = .ok place →
      state.tree.entry? place = initial.entry? place ∨
      ∃ other, initial.destination (calls other).destination = .ok place ∧
        (calls other).delivery.Whole ∧
        state.tree.entry? place = some (.file (calls other).delivery.content)) ∧
    ∀ place, state.tree.destination (calls call).destination = .ok place →
      initial.destination (calls call).destination = .ok place := by
  have invariant := reachable.invariant wellFormed
  refine ⟨?_, fun place => invariant.destination⟩
  intro place aimed
  rcases invariant.places place with same | ⟨_, delivered⟩ | ⟨spare, _⟩
  · exact Or.inl same
  · exact Or.inr delivered
  · exact absurd aimed (spare.unaimed call)

/-- Two calls for one place, a module and a download whose body broke off. -/
def sampleCalls : Bool → Call
  | true => ⟨.text [0x78, 0x79], .ofString "/f"⟩
  | false => ⟨.download ⟨200, [], [0x7A], false⟩, .ofString "/f"⟩

/-- The file that both are to replace, and others. -/
def sampleTree (content : Bytes) (others : List (Place × Entry)) : FileTree :=
  ⟨([.ofString "f"], .file content) :: others, []⟩

theorem sampleCalls_aimed (call : Bool) :
    (sampleTree [0x61] []).destination (sampleCalls call).destination = .ok [.ofString "f"] := by
  cases call <;> cbv

/-- The download writes some of its body and is killed, while the module is put in its place. -/
theorem sampleCalls_reach : ∃ state : State Bool,
    Reachable (sampleTree [0x61] []) sampleCalls state ∧
    state.tree = sampleTree [0x78, 0x79] [([.ofString ".a"], .file [0x7A])] := by
  have unaimed : ∀ name, name ≠ .ofString "f" → ∀ call,
      (sampleTree [0x61] []).destination (sampleCalls call).destination ≠ .ok ([] ++ [name]) := by
    intro name different call
    rw [sampleCalls_aimed]
    simpa using Ne.symm different
  have download : Reachable (sampleTree [0x61] []) sampleCalls
      (State.next _ false (sampleTree [0x61] [([.ofString ".a"], .file [])])
        (.writing [.ofString ".a"] [[0x7A]])) :=
    Reachable.start.step (.create rfl rfl ⟨rfl, by decide, by decide⟩ (unaimed _ (by decide)) rfl)
  have both := download.step (show Step _ _ _ (State.next _ true _
      (.writing [.ofString ".b"] [[0x78], [0x79]])) from
    .create rfl rfl ⟨rfl, by decide, by decide⟩ (unaimed _ (by decide)) rfl)
  have more := both.step (show Step _ _ _ (State.next _ true _ _) from .append rfl rfl)
  have broken := more.step (show Step _ _ _ (State.next _ false _ _) from .append rfl rfl)
  have killed := broken.step (.kill false)
  have written := killed.step (show Step _ _ _ (State.next _ true _ _) from .append rfl rfl)
  have flushed := written.step (show Step _ _ _ (State.next _ true _ _) from .flush rfl trivial)
  have settled := flushed.step (show Step _ _ _ (State.next _ true
      (sampleTree [0x78, 0x79] [([.ofString ".a"], .file [0x7A])]) _) from .settle rfl (by cbv))
  exact ⟨_, settled, rfl⟩

theorem destination_of_sampleCalls : ∃ state : State Bool,
    Reachable (sampleTree [0x61] []) sampleCalls state ∧
    state.tree = sampleTree [0x78, 0x79] [([.ofString ".a"], .file [0x7A])] ∧
    (state.tree.entry? [.ofString "f"] = FileTree.entry? (sampleTree [0x61] []) [.ofString "f"] ∨
      ∃ other, (sampleTree [0x61] []).destination (sampleCalls other).destination =
          .ok [.ofString "f"] ∧ (sampleCalls other).delivery.Whole ∧
        state.tree.entry? [.ofString "f"] = some (.file (sampleCalls other).delivery.content)) := by
  obtain ⟨state, reachable, tree⟩ := sampleCalls_reach
  have wellFormed : (sampleTree [0x61] []).WellFormed := by decide
  exact ⟨state, reachable, tree,
    (destination_of_reachable wellFormed reachable true).1 _ (sampleCalls_aimed true)⟩

/-! ## A call by itself -/

section Alone

variable [DecidableEq ι] {initial : FileTree} {calls : ι → Call} {state : State ι} {call : ι}

@[simp]
theorem State.next_tree (tree : FileTree) (phase : Phase) :
    (state.next call tree phase).tree = tree := rfl

@[simp]
theorem State.next_phase (tree : FileTree) (phase : Phase) :
    (state.next call tree phase).phase call = phase :=
  Function.update_self ..

/-- Some steps of calls lead from one state to another. -/
abbrev Steps (initial : FileTree) (calls : ι → Call) : State ι → State ι → Prop :=
  Relation.ReflTransGen (Step initial calls)

theorem steps_of_appending {temporary : Place} : ∀ (pieces : List Bytes) (state : State ι)
    (written : Bytes), state.phase call = .writing temporary pieces →
    state.tree.entry? temporary = some (.file written) → temporary ≠ [] →
    ∃ later, Steps initial calls state later ∧ later.phase call = .writing temporary [] ∧
      ∀ rest, WriteStep.performAll state.tree (pieces.map (.append temporary) ++ rest) =
        WriteStep.performAll later.tree rest := by
  intro pieces
  induction pieces with
  | nil => intro state written writing _ _; exact ⟨state, .refl, writing, fun _ => rfl⟩
  | cons piece ahead ih =>
      intro state written writing found inner
      have performed : (WriteStep.append temporary piece).perform state.tree =
          .ok (state.tree.store temporary (.file (written ++ piece))) := by
        simp only [WriteStep.perform, found]
      have stored : entry? (state.tree.store temporary (.file (written ++ piece))) temporary =
          some (.file (written ++ piece)) := by
        rw [entry?_store _ inner, if_pos rfl]
      obtain ⟨later, steps, complete, rests⟩ := ih (state.next call _ (.writing temporary ahead))
        (written ++ piece) (State.next_phase ..) stored inner
      refine ⟨later, .head (.append writing performed) steps, complete, fun rest => ?_⟩
      rw [← rests rest, List.map_cons, List.cons_append, WriteStep.performAll, performed]
      rfl

section Writing

variable {directory : Place} {name : Name} {pieces : List Bytes}
  (waiting : state.phase call = .waiting)
  (content : pieces.flatten = (calls call).delivery.content)
  (fresh : state.tree.Fresh directory name)
  (unaimed : ∀ other, initial.destination (calls other).destination ≠ .ok (directory ++ [name]))

include waiting content fresh unaimed

theorem steps_of_filling :
    ∃ later, Steps initial calls state later ∧
      later.phase call = .writing (directory ++ [name]) [] ∧
      ∀ rest, WriteStep.performAll state.tree
          (WriteStep.filling (directory ++ [name]) pieces ++ rest) =
        WriteStep.performAll later.tree rest := by
  have performed : (WriteStep.create (directory ++ [name])).perform state.tree =
      .ok (state.tree.store (directory ++ [name]) (.file [])) := by
    simp only [WriteStep.perform, fresh.absent]
  have inner : directory ++ [name] ≠ [] := by simp
  have stored : entry? (state.tree.store (directory ++ [name]) (.file [])) (directory ++ [name]) =
      some (.file []) := by
    rw [entry?_store _ inner, if_pos rfl]
  obtain ⟨later, steps, complete, rests⟩ := steps_of_appending pieces
    (state.next call _ (.writing (directory ++ [name]) pieces)) [] (State.next_phase ..) stored
    inner
  refine ⟨later, .head (.create waiting content fresh unaimed performed) steps, complete, ?_⟩
  intro rest
  rw [← rests rest, WriteStep.filling, List.cons_append, WriteStep.performAll, performed]
  rfl

/-- Writing by way of a temporary file is such a call, whether it succeeds or not. -/
theorem steps_of_writing (whole : (calls call).delivery.Whole) :
    ∃ later, Steps initial calls state later ∧
      later.tree = (state.tree.withTemporary (directory ++ [name])
        (WriteStep.writing (directory ++ [name]) pieces (calls call).destination)).2 := by
  obtain ⟨filled, steps, writing, performed⟩ := steps_of_filling waiting content fresh unaimed
  have flushed := steps.tail (.flush writing whole)
  rw [withTemporary, WriteStep.writing, performed, WriteStep.performAll]
  cases settled : (WriteStep.settle (directory ++ [name]) (calls call).destination).perform
      filled.tree with
  | ok tree => exact ⟨_, flushed.tail (.settle (State.next_phase ..) settled), rfl⟩
  | error failure =>
      have failed : ((filled.next call filled.tree (.complete (directory ++ [name]))).phase
          call).temporary? = some (directory ++ [name]) := by
        rw [State.next_phase]
        rfl
      exact ⟨_, (flushed.tail (.fail failed)).tail (.clean (State.next_phase ..)), rfl⟩

/-- So is a download that gives up on the body. -/
theorem steps_of_giving_up :
    ∃ later, Steps initial calls state later ∧
      later.tree = (state.tree.withTemporary (directory ++ [name])
        (WriteStep.filling (directory ++ [name]) pieces)).2.erase (directory ++ [name]) := by
  obtain ⟨filled, steps, writing, performed⟩ := steps_of_filling waiting content fresh unaimed
  have whole := performed []
  rw [List.append_nil] at whole
  have failed : (filled.phase call).temporary? = some (directory ++ [name]) := by
    rw [writing]
    rfl
  refine ⟨_, (steps.tail (.fail failed)).tail (.clean (State.next_phase ..)), ?_⟩
  rw [withTemporary, whole]
  rfl

end Writing

/-- A module is put in its place by such a call. -/
theorem steps_of_replaceFile (wellFormed : state.tree.WellFormed) {directory : Path}
    {content : Bytes} (waiting : state.phase call = .waiting)
    (delivery : (calls call).delivery = .text content)
    (unaimed : ∀ temporary, state.tree.temporaryPlace directory = .ok temporary →
      ∀ other, initial.destination (calls other).destination ≠ .ok temporary) :
    ∃ later, Steps initial calls state later ∧
      later.tree = (state.tree.replaceFile directory (calls call).destination content).2 := by
  rw [replaceFile]
  cases success : state.tree.temporaryPlace directory with
  | error failure => exact ⟨state, .refl, rfl⟩
  | ok temporary =>
      obtain ⟨place, name, rfl, fresh⟩ := temporaryPlace_fresh wellFormed success
      exact steps_of_writing waiting (by rw [delivery, List.flatten_singleton]; rfl) fresh
        (unaimed _ success) (by rw [delivery]; trivial)

/-- So is what a server replied, unless it is no whole body. -/
theorem steps_of_download {world answered : World} {text : String} {url : Url} {reply : Reply}
    (got : Effect.run (Fetch.get text) world = (.ok (url, reply), answered))
    (same : state.tree = answered.files) (wellFormed : state.tree.WellFormed)
    (waiting : state.phase call = .waiting) (delivery : (calls call).delivery = .download reply)
    (unaimed : ∀ directory temporary, state.tree.temporaryPlace directory = .ok temporary →
      ∀ other, initial.destination (calls other).destination ≠ .ok temporary) :
    ∃ later, Steps initial calls state later ∧
      later.tree =
        (Effect.run (Fetch.download text (calls call).destination) world).2.files := by
  rw [Fetch.download, Effect.run_bind_of_ok _ got]
  simp only
  rw [Effect.run_bind_of_ok _ (Effect.run_files _), ← same]
  have content : [reply.body].flatten = (calls call).delivery.content := by
    rw [delivery, List.flatten_singleton]
    rfl
  cases success : state.tree.temporaryPlace
      ((calls call).destination.parent.getD (.ofString ".")) with
  | error failure => exact ⟨state, .refl, same⟩
  | ok temporary =>
      obtain ⟨place, name, rfl, fresh⟩ := temporaryPlace_fresh wellFormed success
      cases fault : Fetch.bodyFault? text reply with
      | some error =>
          obtain ⟨later, steps, ended⟩ :=
            steps_of_giving_up waiting content fresh (unaimed _ _ success)
          obtain ⟨filled, performed, _⟩ := agrees_of_filling wellFormed fresh [reply.body]
          refine ⟨later, steps, ended.trans ?_⟩
          simp only [Effect.run_bind, Effect.run_change, ← same, performed]
          rfl
      | none =>
          have whole : (calls call).delivery.Whole := by
            rw [delivery]
            exact Fetch.bodyFault?_eq_none_iff.mp fault
          obtain ⟨later, steps, ended⟩ :=
            steps_of_writing waiting content fresh (unaimed _ _ success) whole
          refine ⟨later, steps, ended.trans ?_⟩
          rw [Effect.run_bind, Effect.run_change, ← same, ← WriteStep.writing]
          cases state.tree.withTemporary (place ++ [name]) (WriteStep.writing (place ++ [name])
              [reply.body] (calls call).destination) with
          | mk result after => cases result <;> rfl

end Alone

end TemplateBuild.Writers

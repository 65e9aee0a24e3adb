import TemplateBuild.Proofs.FileTree.Replacing
import TemplateBuild.World

/-!
# What effects do

An effect is run in a world, and leaves one.  Each effect is described by what it gives and by
the world that it leaves.
-/

set_option autoImplicit false

namespace TemplateBuild.Effect

variable {ε α β : Type}

@[simp]
theorem run_pure (value : α) (world : World) :
    run (pure value : Effect ε α) world = (.ok value, world) := rfl

@[simp]
theorem run_throw (error : ε) (world : World) :
    run (throw error : Effect ε α) world = (.error error, world) := rfl

theorem run_bind (effect : Effect ε α) (next : α → Effect ε β) (world : World) :
    run (effect >>= next) world = match run effect world with
      | (.ok value, later) => run (next value) later
      | (.error error, later) => (.error error, later) := by
  simp only [run, bind, ExceptT.bind, ExceptT.run, ExceptT.mk, StateT.run, StateT.bind]
  cases effect world with
  | mk result later => cases result <;> rfl

/-- Of two effects in turn the first fails, or the second goes on from where it ended. -/
theorem run_bind_cases {effect : Effect ε α} {next : α → Effect ε β} {world last : World}
    {result : Except ε β} (ran : run (effect >>= next) world = (result, last)) :
    (∃ error, run effect world = (.error error, last) ∧ result = .error error) ∨
      ∃ value later, run effect world = (.ok value, later) ∧
        run (next value) later = (result, last) := by
  rw [run_bind] at ran
  split at ran
  · next value later first => exact Or.inr ⟨value, later, first, ran⟩
  · next error later first =>
    cases ran
    exact Or.inl ⟨error, first, rfl⟩

/-- After an error nothing is done. -/
theorem throw_bind (error : ε) (next : α → Effect ε β) :
    (throw error >>= next : Effect ε β) = throw error := rfl

theorem run_bind_of_ok {effect : Effect ε α} (next : α → Effect ε β) {world later : World}
    {value : α} (first : run effect world = (.ok value, later)) :
    run (effect >>= next) world = run (next value) later := by
  rw [run_bind, first]

@[simp]
theorem run_files (world : World) :
    run (files : Effect ε FileTree) world = (.ok world.files, world) :=
  rfl

@[simp]
theorem run_setFiles (tree : FileTree) (world : World) :
    run (setFiles tree : Effect ε Unit) world = (.ok (), { world with files := tree }) := rfl

@[simp]
theorem run_warn (warning : Warning) (world : World) : run (warn warning : Effect ε Unit) world =
    (.ok (), { world with warnings := world.warnings ++ [warning] }) := rfl

@[simp]
theorem run_warnAll (warnings : List Warning) (world : World) :
    run (warnAll warnings : Effect ε Unit) world =
      (.ok (), { world with warnings := world.warnings ++ warnings }) := rfl

@[simp]
theorem run_say (output : ScriptOutput) (world : World) : run (say output : Effect ε Unit) world =
    (.ok (), { world with said := world.said ++ output }) := rfl

@[simp]
theorem run_exchange (request : Request) (world : World) :
    run (exchange request : Effect ε Exchange) world =
      (.ok (world.network.exchange request).1,
        { world with network := (world.network.exchange request).2 }) := rfl

theorem run_change (onFailure : FileFailure → ε)
    (operation : FileTree → Except FileFailure Unit × FileTree) (world : World) :
    run (change onFailure operation) world =
      ((operation world.files).1.mapError onFailure,
        { world with files := (operation world.files).2 }) := by
  rw [change, run_bind, run_files]
  simp only
  rw [run_bind, run_setFiles]
  cases (operation world.files).1 <;> rfl

theorem run_mapError {ε' : Type} (onError : ε → ε') (effect : Effect ε α) (world : World) :
    run (mapError onError effect) world =
      ((run effect world).1.mapError onError, (run effect world).2) :=
  rfl

/-! ## Effects that leave the files alone -/

/-- Whatever happens, the files are as before. -/
def KeepsFiles (effect : Effect ε α) : Prop :=
  ∀ world, (run effect world).2.files = world.files

theorem keepsFiles_pure (value : α) : KeepsFiles (pure value : Effect ε α) :=
  fun _ => rfl

theorem keepsFiles_throw (error : ε) : KeepsFiles (throw error : Effect ε α) :=
  fun _ => rfl

theorem keepsFiles_exchange (request : Request) :
    KeepsFiles (exchange request : Effect ε Exchange) :=
  fun _ => rfl

theorem KeepsFiles.bind {effect : Effect ε α} {next : α → Effect ε β} (first : KeepsFiles effect)
    (second : ∀ value, KeepsFiles (next value)) : KeepsFiles (effect >>= next) := by
  intro world
  have kept := first world
  rw [run_bind]
  split
  · next value later ran =>
    rw [ran] at kept
    exact (second value later).trans kept
  · next error later ran =>
    rw [ran] at kept
    exact kept

/-! ## Effects that change files as a whole or not at all -/

/-- Where the effect succeeds the files are as `done` says, and otherwise there are at most new
directories. -/
def Leaves (effect : Effect ε α) (world : World) (before : FileTree) (done : FileTree → Prop) :
    Prop :=
  before.Leaves done ((run effect world).1, (run effect world).2.files)

theorem leaves_of_ok {effect : Effect ε α} {world later : World} {before : FileTree}
    {done : FileTree → Prop} {value : α} (leaves : effect.Leaves world before done)
    (ran : run effect world = (.ok value, later)) : later.files.WellFormed ∧ done later.files := by
  rw [Leaves, ran] at leaves
  exact leaves

theorem leaves_of_error {effect : Effect ε α} {world later : World} {before : FileTree}
    {done : FileTree → Prop} {error : ε} (leaves : effect.Leaves world before done)
    (ran : run effect world = (.error error, later)) :
    later.files.WellFormed ∧ before.AddsDirectories later.files := by
  rw [Leaves, ran] at leaves
  exact leaves

theorem leaves_of_run_eq {effect other : Effect ε α} {world : World} {before : FileTree}
    {done : FileTree → Prop} (same : run effect world = run other world)
    (leaves : other.Leaves world before done) : effect.Leaves world before done := by
  rw [Leaves, same]
  exact leaves

theorem leaves_change {before : FileTree} {done : FileTree → Prop} (onFailure : FileFailure → ε)
    {operation : FileTree → Except FileFailure Unit × FileTree} {world : World}
    (leaves : before.Leaves done (operation world.files)) :
    (change onFailure operation).Leaves world before done := by
  rw [Leaves, run_change]
  cases found : operation world.files with
  | mk result after =>
      rw [found] at leaves
      cases result <;> exact leaves

theorem Leaves.bind {effect : Effect ε α} {next : α → Effect ε β} {world : World}
    {before : FileTree} {done last : FileTree → Prop} (first : effect.Leaves world before done)
    (second : ∀ value later, run effect world = (.ok value, later) → later.files.WellFormed →
      done later.files → (next value).Leaves later before last) :
    (effect >>= next).Leaves world before last := by
  rw [Leaves, run_bind]
  split
  · next value later ran =>
    obtain ⟨wellFormed, isDone⟩ := leaves_of_ok first ran
    exact second value later ran wellFormed isDone
  · next error later ran => exact leaves_of_error first ran

/-- What is new before the effect may be new after it. -/
theorem Leaves.after {effect : Effect ε α} {world : World} {before between : FileTree}
    {done last : FileTree → Prop} (leaves : effect.Leaves world between done)
    (adds : before.AddsDirectories between) (enough : ∀ after, done after → last after) :
    effect.Leaves world before last :=
  FileTree.Leaves.after adds leaves enough

theorem leaves_files {next : FileTree → Effect ε α} {world : World} {before : FileTree}
    {done : FileTree → Prop} (leaves : (next world.files).Leaves world before done) :
    (files >>= next).Leaves world before done := by
  rwa [Leaves, run_bind_of_ok next (run_files world)]

theorem leaves_pure {before : FileTree} {done : FileTree → Prop} (value : α) {world : World}
    (wellFormed : world.files.WellFormed) (isDone : done world.files) :
    (pure value : Effect ε α).Leaves world before done :=
  ⟨wellFormed, isDone⟩

theorem leaves_throw {before : FileTree} {done : FileTree → Prop} (error : ε) {world : World}
    (wellFormed : world.files.WellFormed) (adds : before.AddsDirectories world.files) :
    (throw error : Effect ε α).Leaves world before done :=
  ⟨wellFormed, adds⟩

theorem KeepsFiles.leaves {effect : Effect ε α} (keeps : effect.KeepsFiles) {world : World}
    (wellFormed : world.files.WellFormed) :
    effect.Leaves world world.files fun after => after = world.files := by
  have kept := keeps world
  rw [Leaves, kept]
  cases (run effect world).1 with
  | ok value => exact ⟨wellFormed, rfl⟩
  | error error => exact ⟨wellFormed, .refl _⟩

theorem Leaves.mapError {ε' : Type} {effect : Effect ε α} (onError : ε → ε') {world : World}
    {before : FileTree} {done : FileTree → Prop} (leaves : effect.Leaves world before done) :
    (mapError onError effect).Leaves world before done := by
  rw [Leaves] at leaves ⊢
  rw [run_mapError]
  cases found : (run effect world).1 with
  | ok value => rw [found] at leaves; exact leaves
  | error error => rw [found] at leaves; exact leaves

-- From here on it is used through these lemmas.  Where it could be unfolded, every use of one would
-- run the effect to see whether there are more arguments behind it.
attribute [irreducible] Leaves

end TemplateBuild.Effect

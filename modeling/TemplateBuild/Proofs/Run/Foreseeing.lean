import TemplateBuild.Proofs.Run.Dryness

/-!
# Foreseeing a run

A dry run takes what a run would take, in a tree that stays as it is.  The run itself lets the tree
grow, but by nothing that its walk wants, so both come past the same bundles with the same
progress.  They part only where the run cannot write a module, or cannot create the output
directory.
-/

set_option autoImplicit false

namespace TemplateBuild.Run

open Effect
open FileTree (Grown)

variable {σ : Type} {compiler : Compiler σ} {settings : Settings} {cancelled : Cancellation}
  {engine : Engine} {walk : Walk} {before : FileTree} {place : Place} {world again : World}

/-! ## One item -/

/-- What becomes of the same thing in a run and in a dry run: the same, unless a module cannot be
written, which a dry run does not try. -/
def Foreseen : Except (RunError × World) (Progress σ × World) →
    Except (RunError × World) (Progress σ × World) → Prop
  | .ok (progress, _), result => ∃ left, result = .ok (progress, left)
  | .error (error, _), result => (∃ left, result = .error (error, left)) ∨
    (∃ cause, error = .assemble cause) ∧ ∃ progress left, result = .ok (progress, left)

theorem compileAll_dry (bundle : Bundle) (templates : List TemplateSource) :
    compileAll compiler settings.dry cancelled engine bundle templates =
      compileAll compiler settings cancelled engine bundle templates := by
  induction templates with
  | nil => rfl
  | cons template rest ih =>
      rw [compileAll, compileAll, ih]
      rfl

theorem finish_foreseen (real : settings.dryRun = false) (bundle : Bundle)
    (compiled : List CompiledTemplate) (progress : Progress σ) (world again : World) :
    Foreseen (steps.after (finish settings bundle compiled) (progress, world))
      (steps.after (finish settings.dry bundle compiled) (progress, again)) := by
  rw [Walk.Runner.after, Walk.Runner.after]
  by_cases none : compiled = []
  · subst none
    rw [finish_nil, finish_nil]
    exact ⟨again, rfl⟩
  · have dry : settings.dry.dryRun = true := rfl
    rw [finish_of_ne_nil none, finish_of_ne_nil none, real, dry, assemble_effect_run]
    rcases Effect.run (ModuleText.write bundle.outputFile (ModuleText.render compiled)
        settings.encoding) world with ⟨error | done, next⟩
    · exact Or.inr ⟨⟨error, rfl⟩, _, again, rfl⟩
    · exact ⟨again, rfl⟩

/-- Whatever a run takes, a dry run takes as well, if the texts are the same. -/
theorem take_foreseen (compiler : Compiler σ) (cancelled : Cancellation) (engine : Engine)
    (real : settings.dryRun = false) {item : Walk.Item}
    (same : ∀ bundle, item = .ok bundle →
      SameTexts settings.encoding world.files again.files bundle.templates)
    (progress : Progress σ) :
    Foreseen (steps.take (visitor compiler settings cancelled engine) (progress, world) item)
      (steps.take (visitor compiler settings.dry cancelled engine) (progress, again) item) := by
  cases item with
  | error error =>
      rw [take_error_eq, take_error_eq]
      exact Or.inl ⟨again, rfl⟩
  | ok bundle =>
      rw [take_bundle_eq, take_bundle_eq]
      split
      · exact Or.inl ⟨warned again bundle, rfl⟩
      · rw [processBundle_after, processBundle_after, compileAll_dry]
        let polled : Progress σ := { progress with polls := progress.polls + 1 }
        have compiles : told (steps.run (compileAll compiler settings cancelled engine bundle
            bundle.templates) (polled, warned again bundle)) =
              told (steps.run (compileAll compiler settings cancelled engine bundle
                bundle.templates) (polled, warned world bundle)) :=
          compileAll_told bundle.templates polled (same bundle rfl)
        rcases told_cases compiles with ⟨error, left, leftAgain, ran, ranAgain⟩ |
          ⟨compiled, later, reached, reachedAgain, ran, ranAgain⟩
        · rw [ran, ranAgain]
          exact Or.inl ⟨leftAgain, rfl⟩
        · rw [ran, ranAgain]
          exact finish_foreseen real bundle compiled later reached reachedAgain

/-! ## All items -/

/-- A run ends because it cannot write the module of a bundle that a dry run comes past. -/
def Stumbles (compiler : Compiler σ) (settings : Settings) (cancelled : Cancellation)
    (engine : Engine) (progress : Progress σ) (world again : World) (items : List Walk.Item)
    (error : RunError) : Prop :=
  ∃ done bundle ahead cause last later left, items = done ++ .ok bundle :: ahead ∧
    error = .assemble cause ∧
    takeAll compiler settings cancelled engine progress world (done ++ [.ok bundle]) =
      .error (error, last) ∧
    takeAll compiler settings.dry cancelled engine progress again (done ++ [.ok bundle]) =
      .ok (later, left)

/-- How a dry run ends when the run ends. -/
def EndsForeseen (compiler : Compiler σ) (settings : Settings) (cancelled : Cancellation)
    (engine : Engine) (progress : Progress σ) (world again : World) (items : List Walk.Item) :
    Prop :=
  match takeAll compiler settings cancelled engine progress world items with
  | .ok (later, _) => ∃ left,
    takeAll compiler settings.dry cancelled engine progress again items = .ok (later, left)
  | .error (error, _) =>
    (∃ left, takeAll compiler settings.dry cancelled engine progress again items =
      .error (error, left)) ∨
    Stumbles compiler settings cancelled engine progress world again items error

theorem Stumbles.cons {progress later : Progress σ} {next nextAgain : World} {item : Walk.Item}
    {items : List Walk.Item} {error : RunError}
    (takes : steps.take (visitor compiler settings cancelled engine) (progress, world) item =
      .ok (later, next))
    (takesAgain : steps.take (visitor compiler settings.dry cancelled engine) (progress, again)
      item = .ok (later, nextAgain))
    (stumbles : Stumbles compiler settings cancelled engine later next nextAgain items error) :
    Stumbles compiler settings cancelled engine progress world again (item :: items) error := by
  obtain ⟨done, bundle, ahead, cause, last, reached, left, rfl, isCause, ends, goesOn⟩ := stumbles
  refine ⟨item :: done, bundle, ahead, cause, last, reached, left, rfl, isCause, ?_, ?_⟩
  · rw [List.cons_append, takeAll_cons, takes]
    exact ends
  · rw [List.cons_append, takeAll_cons, takesAgain]
    exact goesOn

/-- A dry run in the tree as it was comes as far as a run that lets it grow. -/
theorem takeAll_foreseen (compiler : Compiler σ) (cancelled : Cancellation) (engine : Engine)
    (wellFormed : before.WellFormed) (free : before.LinkFree)
    (reached : before.directoryOf walk.root = .ok place) (real : settings.dryRun = false) :
    ∀ {items : List Walk.Item} {progress : Progress σ} {world again : World},
      (∀ item ∈ items, walk.Modest before place item) → world.files.WellFormed →
      Grown walk.Wants before world.files → again.files = before →
      EndsForeseen compiler settings cancelled engine progress world again items := by
  intro items
  induction items with
  | nil =>
      intro progress world again _ _ _ _
      exact ⟨again, rfl⟩
  | cons item rest ih =>
      intro progress world again modest stillWellFormed grown still
      obtain ⟨first, others⟩ := List.forall_mem_cons.mp modest
      have same : ∀ bundle, item = .ok bundle →
          SameTexts settings.encoding world.files again.files bundle.templates := by
        rw [still]
        exact sameTexts_of_modest settings.encoding free wellFormed reached first stillWellFormed
          grown wellFormed (.refl before)
      have dry : settings.dry.dryRun = true := rfl
      have foreseen := take_foreseen compiler cancelled engine real same progress
      have kept := take_of_dry compiler cancelled engine dry progress again item
      obtain ⟨nextWellFormed, nextGrown⟩ := take_grows compiler settings cancelled engine progress
        first free stillWellFormed grown
      rw [EndsForeseen, takeAll_cons, takeAll_cons]
      rcases takes : steps.take (visitor compiler settings cancelled engine) (progress, world) item
        with ⟨error, left⟩ | ⟨later, next⟩
      · rw [takes] at foreseen
        simp only
        rcases foreseen with ⟨leftAgain, takesAgain⟩ | ⟨⟨cause, isCause⟩, later, next, takesAgain⟩
        · rw [takesAgain]
          exact Or.inl ⟨leftAgain, rfl⟩
        · obtain ⟨bundle, rfl⟩ := bundle_of_take compiler settings.dry cancelled engine takesAgain
          refine Or.inr ⟨[], bundle, rest, cause, left, later, next, rfl, isCause, ?_, ?_⟩
          · rw [List.nil_append, takeAll_cons, takes]
          · rw [List.nil_append, takeAll_cons, takesAgain]
            rfl
      · rw [takes] at foreseen nextWellFormed nextGrown
        obtain ⟨nextAgain, takesAgain⟩ := foreseen
        rw [takesAgain] at kept
        have further : EndsForeseen compiler settings cancelled engine later next nextAgain rest :=
          ih others nextWellFormed nextGrown (kept.trans still)
        rw [takesAgain]
        simp only
        rw [EndsForeseen] at further
        rcases ended : takeAll compiler settings cancelled engine later next rest with
          ⟨error, left⟩ | ⟨last, left⟩
        · rw [ended] at further
          exact further.imp id (Stumbles.cons takes takesAgain)
        · rw [ended] at further
          exact further

/-! ## The walk -/

/-- A walk in a dry run takes the items of the tree. -/
theorem visitAll_dry (compiler : Compiler σ) (settings : Settings) (cancelled : Cancellation)
    (engine : Engine) (walk : Walk) (wellFormed : world.files.WellFormed)
    (free : world.files.LinkFree) (reached : world.files.directoryOf walk.root = .ok place)
    (modest : ∀ bundle, .ok bundle ∈ (walk.items world.files).1 →
      walk.isTemplateName bundle.outputFile = false) (progress : Progress σ) :
    steps.after (walk.visitAll (visitor compiler settings.dry cancelled engine))
        (progress, world) =
      takeAll compiler settings.dry cancelled engine progress world (walk.items world.files).1 := by
  apply visitAll_first compiler settings.dry cancelled engine wellFormed free reached modest
    wellFormed (.refl _) progress
  apply fitsIfFailed_of_last
  rw [visitAll_of_dry rfl wellFormed]
  exact fun relative found => Or.inl found

/-! ## The run -/

/-- Why a run may end before the error that a dry run foresees: the source was found but the output
directory could not be created, or a module could not be written where the dry run goes on. -/
inductive Earlier (compiler : Compiler σ) (settings : Settings) (cancelled : Cancellation)
    (world : World) : RunError → Prop
  | output {root : Path} {failure : FileFailure} : sourceIn settings world.files = .ok root →
      (world.files.makeDirectories settings.outputDirectory).1 = .error failure →
      Earlier compiler settings cancelled world (.output settings.outputDirectory failure)
  | module {root : Path} {engine : Engine} {start : σ} {ready waiting : World} {error : RunError} :
      Effect.run (prepare compiler settings) world = (.ok (root, engine, start), ready) →
      Effect.run (prepare compiler settings.dry) world = (.ok (root, engine, start), waiting) →
      Stumbles compiler settings cancelled engine (starting start) ready waiting
        ((walkOf settings root).items world.files).1 error →
      Earlier compiler settings cancelled world error

/-- What a dry run says of a run with this outcome. -/
def Foretells (compiler : Compiler σ) (settings : Settings) (cancelled : Cancellation)
    (world : World) : Except RunError Report → Except RunError Report → Prop
  | .ok report, foretold => foretold = .ok { report with dryRun := true }
  | .error error, foretold => ∀ other, foretold = .error other →
    error = other ∨ Earlier compiler settings cancelled world error

theorem conclude_dry (engine : Engine) (progress : Progress σ) :
    conclude settings.dry engine progress =
      (conclude settings engine progress).map fun report => { report with dryRun := true } := by
  rw [conclude, conclude]
  split <;> rfl

theorem Foretells.same (error : RunError) :
    Foretells compiler settings cancelled world (.error error) (.error error) := by
  rintro other ⟨⟩
  exact Or.inl rfl

/-- What becomes of the items tells how it ends. -/
theorem ending_foretold {root : Path} {start : σ} {ready waiting : World}
    (prepares : Effect.run (prepare compiler settings) world = (.ok (root, engine, start), ready))
    (preparesDry : Effect.run (prepare compiler settings.dry) world =
      (.ok (root, engine, start), waiting))
    (foreseen : EndsForeseen compiler settings cancelled engine (starting start) ready waiting
      ((walkOf settings root).items world.files).1) :
    Foretells compiler settings cancelled world
      (ending settings engine (takeAll compiler settings cancelled engine (starting start) ready
        ((walkOf settings root).items world.files).1)).1
      (ending settings.dry engine (takeAll compiler settings.dry cancelled engine (starting start)
        waiting ((walkOf settings root).items world.files).1)).1 := by
  rw [EndsForeseen] at foreseen
  rcases taken : takeAll compiler settings cancelled engine (starting start) ready
      ((walkOf settings root).items world.files).1 with ⟨error, left⟩ | ⟨progress, left⟩
  · rw [taken] at foreseen
    rcases foreseen with ⟨leftDry, takenDry⟩ | stumbles
    · rw [takenDry]
      exact .same error
    · exact fun _ _ => Or.inr (.module prepares preparesDry stumbles)
  · rw [taken] at foreseen
    obtain ⟨leftDry, takenDry⟩ := foreseen
    rw [takenDry]
    simp only [ending, conclude_dry]
    cases conclude settings engine progress with
    | ok report => rfl
    | error error => exact .same error

section Running

variable (wellFormed : world.files.WellFormed) (real : settings.dryRun = false)
  (present : (lookup settings world.files).isSome = true)
  (same : lookup settings (world.files.makeDirectories settings.outputDirectory).2 =
    lookup settings world.files)

include wellFormed real present same

/-- A run and a dry run begin alike, unless the output directory cannot be created. -/
theorem prepare_foreseen (compiler : Compiler σ) (cancelled : Cancellation) :
    match Effect.run (prepare compiler settings) world with
    | (.ok prepared, _) => ∃ waiting, waiting.files = world.files ∧
      Effect.run (prepare compiler settings.dry) world = (.ok prepared, waiting)
    | (.error error, _) => (∃ waiting, Effect.run (prepare compiler settings.dry) world =
        (.error error, waiting)) ∨ Earlier compiler settings cancelled world error := by
  have dry : settings.dry.dryRun = true := rfl
  rw [prepare_run_eq compiler real, prepare_of_dry compiler dry,
    show sourceIn settings.dry world.files = sourceIn settings world.files from rfl,
    show equip compiler settings.dry = equip compiler settings from rfl]
  cases source : sourceIn settings world.files with
  | error error => exact Or.inl ⟨world, rfl⟩
  | ok root =>
      simp only
      obtain ⟨adds, _⟩ := FileTree.makeDirectories_adds wellFormed settings.outputDirectory
      rcases creates : world.files.makeDirectories settings.outputDirectory with
        ⟨failure | done, made⟩
      · exact Or.inr (.output source (congrArg Prod.fst creates))
      · rw [creates] at adds same
        simp only
        rcases equips : Effect.run (equip compiler settings) { world with files := made } with
          ⟨result, later⟩
        obtain ⟨_, equipsAgain⟩ := equip_again (lookup_of_adds present adds) equips
        obtain ⟨waiting, equipped, kept⟩ := equipsAgain world same.symm
        rw [equipped]
        rcases result with error | equipment
        · exact Or.inl ⟨waiting, rfl⟩
        · exact ⟨waiting, kept, rfl⟩

/-- What a dry run foretells comes true. -/
theorem precompile_foretold (free : world.files.LinkFree)
    (modest : ∀ root bundle, world.files.canonical settings.sourceDirectory = .ok root →
      .ok bundle ∈ ((walkOf settings root).items world.files).1 →
      (walkOf settings root).isTemplateName bundle.outputFile = false)
    (fits : ∀ error root place,
      (Effect.run (precompile compiler settings cancelled) world).1 = .error error →
      world.files.canonical settings.sourceDirectory = .ok root →
      world.files.directoryOf root = .ok place →
      (walkOf settings root).FitsNew world.files place
        (Effect.run (precompile compiler settings cancelled) world).2.files) :
    Foretells compiler settings cancelled world
      (Effect.run (precompile compiler settings cancelled) world).1
      (Effect.run (precompile compiler settings.dry cancelled) world).1 := by
  have begins := prepare_foreseen wellFormed real present same compiler cancelled
  rw [precompile_run, precompile_run] at *
  rcases prepares : Effect.run (prepare compiler settings) world with
    ⟨error | ⟨root, engine, start⟩, ready⟩
  · rw [prepares] at begins
    rcases begins with ⟨waiting, preparesDry⟩ | earlier
    · rw [preparesDry]
      exact .same error
    · exact fun _ _ => Or.inr earlier
  · rw [prepares] at begins fits
    obtain ⟨waiting, still, preparesDry⟩ := begins
    rw [preparesDry]
    obtain ⟨readyWellFormed, canonical, directory, _⟩ := prepare_run wellFormed prepares
    rw [lookup, Option.isSome_map] at present
    have adds := prepare_of_present wellFormed present prepares
    obtain ⟨place, _, _, reached⟩ := free.directoryOf_of_canonical wellFormed canonical directory
    have modestHere := fun bundle => modest root bundle canonical
    simp only [walkThrough] at fits ⊢
    -- Both walks take the items of the tree in the beginning, one after the other.
    have takes := visitAll_first compiler settings cancelled engine wellFormed free reached
      modestHere readyWellFormed adds (starting start) (by
        intro error left ends
        rw [ends] at fits
        exact fits error root place rfl canonical reached)
    rw [← still] at reached modestHere
    have takesDry := visitAll_dry compiler settings cancelled engine (walkOf settings root)
      (still.symm ▸ wellFormed) (still.symm ▸ free) reached modestHere (starting start)
    rw [still] at reached modestHere takesDry
    have grown : Grown (walkOf settings root).Wants world.files ready.files :=
      (Grown.refl world.files).adds adds
    rw [takes, show walkOf settings.dry root = walkOf settings root from rfl, takesDry]
    apply ending_foretold prepares preparesDry
    exact takeAll_foreseen compiler cancelled engine wellFormed free reached real
      (modest_items wellFormed free reached modestHere) readyWellFormed grown still

end Running

end TemplateBuild.Run

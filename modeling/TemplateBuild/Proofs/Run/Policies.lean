import TemplateBuild.Proofs.Run.Preparing

/-!
# Runs under the two failure policies

Two runs that differ only in what they make of rejected templates go in step up to the first one.
There the strict run stops, with the files as they were before that bundle, and the other run
goes on.
-/

set_option autoImplicit false

namespace TemplateBuild

/-- The same settings with this failure policy. -/
def Settings.under (settings : Settings) (policy : FailurePolicy) : Settings :=
  { settings with failurePolicy := policy }

namespace Run

open Walk (Errand Course)

variable {σ α β : Type}

/-- How the results of two programs go together that were run under the two policies: they are
the same and nothing was rejected, or the strict program stops with the first rejection and
nothing written. -/
def Lockstep (engine : Engine) (before : Progress σ) (files : FileTree)
    (strict lenient : Except (RunError × World) (α × Progress σ × World)) : Prop :=
  strict = lenient ∧
      (∀ value after later, lenient = .ok (value, after, later) →
        after.failures = before.failures) ∨
    ∃ failure world, strict = .error (.rejected engine.name failure, world) ∧
      world.files = files ∧
      ∀ value after later, lenient = .ok (value, after, later) →
        ∃ more, after.failures = before.failures ++ failure :: more

/-- A program that does not know of the policy, and rejects nothing. -/
theorem Lockstep.same {engine : Engine} {before : Progress σ} {files : FileTree}
    {result : Except (RunError × World) (α × Progress σ × World)}
    (kept : ∀ value after later, result = .ok (value, after, later) →
      after.failures = before.failures) : Lockstep engine before files result result :=
  Or.inl ⟨rfl, kept⟩

theorem Lockstep.fails {engine : Engine} {before : Progress σ} {files : FileTree}
    (error : RunError × World) :
    Lockstep engine before files (.error error : Except _ (α × Progress σ × World))
      (.error error) := by
  apply Lockstep.same
  intro value after later done
  cases done

/-- Programs go in step if their first parts do, and then, as long as nothing was rejected,
the others. -/
theorem Lockstep.bind {engine : Engine} {before : Progress σ} {world : World}
    {strict lenient : RunStep σ α} {strictNext lenientNext : α → RunStep σ β}
    (first : Lockstep engine before world.files (steps.run strict (before, world))
      (steps.run lenient (before, world)))
    (next : ∀ value middle later, steps.run lenient (before, world) = .ok (value, middle, later) →
      later.files = world.files ∧
        Lockstep engine middle later.files (steps.run (strictNext value) (middle, later))
          (steps.run (lenientNext value) (middle, later)))
    (grows : ∀ value middle later other after last,
      steps.run lenient (before, world) = .ok (value, middle, later) →
      steps.run (lenientNext value) (middle, later) = .ok (other, after, last) →
      ∃ more, after.failures = middle.failures ++ more) :
    Lockstep engine before world.files (steps.run (strict >>= strictNext) (before, world))
      (steps.run (lenient >>= lenientNext) (before, world)) := by
  rw [steps.run_bind, steps.run_bind]
  rcases first with ⟨same, kept⟩ | ⟨failure, stopped, stops, same, rejects⟩
  · rw [same]
    cases ran : steps.run lenient (before, world) with
    | error error =>
        exact .fails _
    | ok reached =>
        obtain ⟨value, middle, later⟩ := reached
        have unchanged := kept value middle later ran
        obtain ⟨sameFiles, others⟩ := next value middle later ran
        rw [Lockstep, unchanged, sameFiles] at others
        exact others
  · rw [stops]
    refine Or.inr ⟨failure, stopped, rfl, same, ?_⟩
    intro other after last done
    cases ran : steps.run lenient (before, world) with
    | error error =>
        rw [ran] at done
        cases done
    | ok reached =>
        obtain ⟨value, middle, later⟩ := reached
        rw [ran] at done
        obtain ⟨more, rejected⟩ := rejects value middle later ran
        obtain ⟨further, grown⟩ := grows value middle later other after last ran done
        refine ⟨more ++ further, ?_⟩
        rw [grown, rejected, List.append_assoc, List.cons_append]

section Templates

variable (compiler : Compiler σ) (settings : Settings) (cancelled : Cancellation)
  (engine : Engine) (bundle : Bundle)

theorem compileTemplate_lockstep (template : TemplateSource) (progress : Progress σ)
    (world : World) : Lockstep engine progress world.files
      (steps.run (compileTemplate compiler (settings.under .failFast) engine bundle template)
        (progress, world))
      (steps.run (compileTemplate compiler (settings.under .collectAll) engine bundle template)
        (progress, world)) := by
  rw [compileTemplate_run, compileTemplate_run]
  simp only [Settings.under, Settings.gate]
  cases template.readText world.files settings.encoding with
  | error error =>
      exact .fails _
  | ok text =>
      simp only
      cases (compiler.compile (settings.whitespace.apply text)
          (HelperGate.ofNames settings.knownHelpers settings.strictHelpers)
          progress.engineState).1 with
      | ok fragment =>
          apply Lockstep.same
          intro value after later done
          cases done
          rfl
      | error fault =>
          refine Or.inr ⟨⟨template.path, bundle.sourceDirectory, fault⟩, _, rfl, rfl, ?_⟩
          intro value after later done
          cases done
          exact ⟨[], rfl⟩

theorem compileAll_lockstep (templates : List TemplateSource) (progress : Progress σ)
    (world : World) : Lockstep engine progress world.files
      (steps.run (compileAll compiler (settings.under .failFast) cancelled engine bundle templates)
        (progress, world))
      (steps.run (compileAll compiler (settings.under .collectAll) cancelled engine bundle
        templates) (progress, world)) := by
  induction templates generalizing progress world with
  | nil =>
      apply Lockstep.same
      intro value after later done
      cases done
      rfl
  | cons template rest ih =>
      rw [compileAll, compileAll, steps.run_bind, steps.run_bind, checkCancelled_run]
      split
      · next checked =>
        split at checked
        · cases checked
        · cases checked
          let polled : Progress σ := { progress with polls := progress.polls + 1 }
          have judgesOne := compileTemplate_judges compiler (settings.under .collectAll) bundle
            engine template polled world
          have one := compileTemplate_lockstep compiler settings engine bundle template polled world
          refine Lockstep.bind one ?_ ?_
          · intro compiled middle later ran
            rw [ran] at judgesOne
            refine ⟨judgesOne.1, (ih middle later).bind ?_ ?_⟩
            · intro others after last ranToo
              have judges := compileAll_judges compiler (settings.under .collectAll) bundle
                cancelled engine rest middle later
              rw [ranToo] at judges
              refine ⟨judges.1, .same ?_⟩
              intro value final _ done
              cases done
              rfl
            · intro others after last value final _ _ done
              cases done
              exact ⟨[], (List.append_nil _).symm⟩
          · intro compiled middle later value after last _ done
            have judges := compileAll_judges compiler (settings.under .collectAll) bundle
              cancelled engine rest middle later
            rw [steps.run_bind] at done
            split at done
            · next others state ranToo =>
              rw [ranToo] at judges
              obtain ⟨_, verdicts, judged, _⟩ := judges
              cases done
              exact ⟨_, judged.failures⟩
            · cases done
      · next error stopped =>
        exact .fails _

/-- What is done with the compiled templates does not depend on the policy. -/
theorem finish_under (policy : FailurePolicy) :
    finish (σ := σ) (settings.under policy) bundle = finish settings bundle :=
  rfl

theorem finish_failures {compiled : List CompiledTemplate} {progress after : Progress σ}
    {world later : World} {value : Unit}
    (done : steps.run (finish settings bundle compiled) (progress, world) =
      .ok (value, after, later)) : after.failures = progress.failures := by
  by_cases none : compiled = []
  · rw [none, finish_nil] at done
    cases done
    rfl
  · rw [finish_of_ne_nil none] at done
    split at done
    · cases done
      rfl
    · split at done
      · cases done
        rfl
      · cases done

theorem processBundle_lockstep (progress : Progress σ) (world : World) :
    Lockstep engine progress world.files
      (steps.run (processBundle compiler (settings.under .failFast) cancelled engine bundle)
        (progress, world))
      (steps.run (processBundle compiler (settings.under .collectAll) cancelled engine bundle)
        (progress, world)) := by
  have judges := compileAll_judges compiler (settings.under .collectAll) bundle cancelled engine
    bundle.templates progress world
  rw [processBundle_eq, processBundle_eq, finish_under, finish_under]
  refine Lockstep.bind (compileAll_lockstep compiler settings cancelled engine bundle
    bundle.templates progress world) ?_ ?_
  · intro compiled middle later ran
    rw [ran] at judges
    refine ⟨judges.1, .same ?_⟩
    intro value after last done
    exact finish_failures settings bundle done
  · intro compiled middle later value after last _ done
    refine ⟨[], ?_⟩
    rw [List.append_nil]
    exact finish_failures settings bundle done

/-- Taking an item, under the two policies. -/
theorem take_lockstep (progress : Progress σ) (world : World) (item : Walk.Item) :
    Lockstep engine progress world.files
      ((steps.take (visitor compiler (settings.under .failFast) cancelled engine)
        (progress, world) item).map fun state => ((), state))
      ((steps.take (visitor compiler (settings.under .collectAll) cancelled engine)
        (progress, world) item).map fun state => ((), state)) := by
  cases item with
  | error error =>
      rw [take_error_eq, take_error_eq]
      apply Lockstep.same
      intro value after later done
      cases done
  | ok bundle =>
      rw [take_bundle_eq, take_bundle_eq]
      split
      · exact .fails _
      · rw [Walk.Runner.after_map, Walk.Runner.after_map]
        exact processBundle_lockstep compiler settings cancelled engine bundle
          { progress with polls := progress.polls + 1 } (warned world bundle)

end Templates

/-! ## Walks under the two policies -/

/-- How two runs part that differ in their policy: they come past the same bundles, none of whose
templates is rejected.  With the first rejected template one run stops, and its files are those
that the other run had before that bundle. -/
structure Parting (compiler : Compiler σ) (settings : Settings) (walk : Walk)
    (first last : Situation σ) (clean : List Stage) (bad : Stage) (rest : List Stage)
    (failure : CompileFailure) (stopped : FileTree) : Prop where
  account : Account compiler settings walk first (clean ++ bad :: rest) last
  accepted : ∀ stage ∈ clean, stage.rejected = []
  rejected : bad.rejected.head? = some failure
  stopped : stopped = bad.before

variable {compiler : Compiler σ} {settings : Settings} {cancelled : Cancellation}
  {engine : Engine} {walk : Walk}

/-- The first of all rejections. -/
theorem Parting.head {first last : Situation σ} {clean rest : List Stage} {bad : Stage}
    {failure : CompileFailure} {stopped : FileTree}
    (parting : Parting compiler settings walk first last clean bad rest failure stopped) :
    ((clean ++ bad :: rest).flatMap Stage.rejected).head? = some failure := by
  have none : clean.flatMap Stage.rejected = [] := List.flatMap_eq_nil_iff.mpr parting.accepted
  rw [List.flatMap_append, none, List.nil_append, List.flatMap_cons, List.head?_append,
    parting.rejected]
  rfl

/-- How the ends of two walks go together that were done under the two policies. -/
def Together (compiler : Compiler σ) (settings : Settings) (engine : Engine) (walk : Walk)
    (state : Progress σ × World) (agenda : List Errand)
    (strict lenient : Except (RunError × World) (Progress σ × World)) : Prop :=
  strict = lenient ∧
      (∀ after later, lenient = .ok (after, later) → after.failures = state.1.failures) ∨
    ∃ failure world, strict = .error (.rejected engine.name failure, world) ∧
      ∀ after later, lenient = .ok (after, later) → ∃ clean bad rest,
        Parting compiler (settings.under .collectAll) walk
          ⟨state.2.files, agenda, state.1.engineState⟩ ⟨later.files, [], after.engineState⟩
          clean bad rest failure world.files ∧
        after.failures = state.1.failures ++ (clean ++ bad :: rest).flatMap Stage.rejected

theorem unit_injective {E S : Type} :
    Function.Injective
      (Except.map fun state => ((), state) : Except E S → Except E (Unit × S)) := by
  intro one other same
  cases one <;> cases other <;> cases same <;> rfl

namespace Together

variable {errand : Errand} {agenda : List Errand} {bundle : Bundle} {verdicts : List Verdict}
  {strict lenient : Except (RunError × World) (Progress σ × World)}

theorem silent {state : Progress σ × World} (yields : errand.item? walk state.2.files = none)
    (together : Together compiler settings engine walk state
      (errand.below state.2.files ++ agenda) strict lenient) :
    Together compiler settings engine walk state (errand :: agenda) strict lenient := by
  rcases together with same | ⟨failure, world, stops, parts⟩
  · exact Or.inl same
  · refine Or.inr ⟨failure, world, stops, ?_⟩
    intro after later done
    obtain ⟨clean, bad, rest, parting, failures⟩ := parts after later done
    exact ⟨clean, bad, rest, { parting with account := .silent yields parting.account }, failures⟩

variable {before middle : Progress σ} {world next : World}

/-- Both runs come past a bundle none of whose templates is rejected. -/
theorem pass (yields : errand.item? walk world.files = some (.ok bundle))
    (passes : Passes compiler (settings.under .collectAll) before
      ⟨bundle, world.files, verdicts, next.files⟩ middle)
    (wellFormed : next.files.WellFormed) (none : Verdict.rejected bundle verdicts = [])
    (together : Together compiler settings engine walk (middle, next)
      (errand.below world.files ++ agenda) strict lenient) :
    Together compiler settings engine walk (before, world) (errand :: agenda) strict lenient := by
  have kept : middle.failures = before.failures := by
    rw [passes.failures, Stage.rejected, none, List.append_nil]
  rcases together with ⟨same, unchanged⟩ | ⟨failure, stopped, stops, parts⟩
  · exact Or.inl ⟨same, fun after later done => (unchanged after later done).trans kept⟩
  · refine Or.inr ⟨failure, stopped, stops, ?_⟩
    intro after later done
    obtain ⟨clean, bad, rest, parting, grown⟩ := parts after later done
    refine ⟨⟨bundle, world.files, verdicts, next.files⟩ :: clean, bad, rest,
      ⟨passes.account yields wellFormed parting.account,
        List.forall_mem_cons.mpr ⟨none, parting.accepted⟩, parting.rejected, parting.stopped⟩, ?_⟩
    rw [grown, kept, List.cons_append, List.flatMap_cons, Stage.rejected, none, List.nil_append]

/-- One run stops at a bundle with a rejected template, and the other comes past it. -/
theorem part (yields : errand.item? walk world.files = some (.ok bundle))
    (passes : Passes compiler (settings.under .collectAll) before
      ⟨bundle, world.files, verdicts, next.files⟩ middle)
    (wellFormed : next.files.WellFormed) {failure : CompileFailure} {more : List CompileFailure}
    (rejected : Verdict.rejected bundle verdicts = failure :: more) {stopped : World}
    (same : stopped.files = world.files)
    (course : Course walk filesOf
      (steps.take (visitor compiler (settings.under .collectAll) cancelled engine)) (middle, next)
      (errand.below world.files ++ agenda) lenient) :
    Together compiler settings engine walk (before, world) (errand :: agenda)
      (.error (.rejected engine.name failure, stopped)) lenient := by
  refine Or.inr ⟨failure, stopped, rfl, ?_⟩
  rintro after later rfl
  obtain ⟨stages, last, account, ended⟩ := account_of_course course wellFormed
  obtain ⟨rfl, grown, _⟩ := ended
  refine ⟨[], ⟨bundle, world.files, verdicts, next.files⟩, stages,
    ⟨passes.account yields wellFormed account, fun _ member => (by cases member), ?_, same⟩, ?_⟩
  · rw [Stage.rejected, rejected]
    rfl
  · rw [grown, passes.failures, List.nil_append, List.flatMap_cons, List.append_assoc]

end Together

/-- Whatever the lenient run comes past, the strict run goes along with it up to the first
rejected template. -/
theorem strict_course {state : Progress σ × World} {agenda : List Errand}
    {lenient : Except (RunError × World) (Progress σ × World)}
    (course : Course walk filesOf
      (steps.take (visitor compiler (settings.under .collectAll) cancelled engine)) state agenda
      lenient) :
    state.2.files.WellFormed → ∃ strict, Course walk filesOf
        (steps.take (visitor compiler (settings.under .failFast) cancelled engine)) state agenda
        strict ∧
      Together compiler settings engine walk state agenda strict lenient := by
  induction course with
  | @finished state =>
      intro _
      refine ⟨_, .finished, Or.inl ⟨rfl, ?_⟩⟩
      intro after later done
      cases done
      rfl
  | silent yields _ ih =>
      intro wellFormed
      obtain ⟨strict, course, together⟩ := ih wellFormed
      exact ⟨strict, .silent yields course, together.silent yields⟩
  | @taken state later errand agenda item lenient yields takes course ih =>
      intro wellFormed
      obtain ⟨progress, world⟩ := state
      obtain ⟨middle, next⟩ := later
      obtain ⟨bundle, rfl⟩ :=
        bundle_of_take compiler (settings.under .collectAll) cancelled engine takes
      obtain ⟨stillWellFormed, verdicts, passes⟩ :=
        passes_of_take compiler (settings.under .collectAll) cancelled engine wellFormed takes
      have failures := passes.failures
      -- Either nothing was rejected, and both runs go on, or this is where they part.
      rcases take_lockstep compiler settings cancelled engine progress world (.ok bundle) with
        ⟨same, kept⟩ | ⟨failure, stopped, stops, sameFiles, rejects⟩
      · rw [takes] at same kept
        have none : Verdict.rejected bundle verdicts = [] :=
          List.append_right_eq_self.mp (failures.symm.trans (kept () middle next rfl))
        obtain ⟨strict, strictCourse, together⟩ := ih stillWellFormed
        exact ⟨strict, .taken yields (unit_injective same) strictCourse,
          together.pass yields passes stillWellFormed none⟩
      · rw [takes] at rejects
        obtain ⟨more, rejected⟩ := rejects () middle next rfl
        rw [failures, List.append_cancel_left_eq] at rejected
        exact ⟨_, .stopped yields (unit_injective stops),
          .part yields passes stillWellFormed rejected sameFiles course⟩
  | @stopped state errand agenda item error yields takes =>
      intro wellFormed
      obtain ⟨progress, world⟩ := state
      rcases take_lockstep compiler settings cancelled engine progress world item with
        ⟨same, _⟩ | ⟨failure, stopped, stops, _, _⟩
      · rw [takes] at same
        refine ⟨_, .stopped yields (unit_injective same), Or.inl ⟨rfl, ?_⟩⟩
        intro after later done
        cases done
      · have takesStrict : steps.take (visitor compiler (settings.under .failFast) cancelled engine)
            (progress, world) item = .error (.rejected engine.name failure, stopped) :=
          unit_injective stops
        refine ⟨_, .stopped yields takesStrict, Or.inr ⟨failure, stopped, rfl, ?_⟩⟩
        intro after later done
        cases done

/-! ## Whole runs under the two policies -/

/-- What becomes of a run under a policy. -/
def under (compiler : Compiler σ) (settings : Settings) (cancelled : Cancellation) (world : World)
    (policy : FailurePolicy) : Except RunError Report × World :=
  Effect.run (precompile compiler (settings.under policy) cancelled) world

/-- How two runs go together from the same point before the walk. -/
theorem walkThrough_policies (cancelled : Cancellation) {world : World}
    (wellFormed : world.files.WellFormed) (root : Path) (start : σ) :
    let strict := walkThrough compiler (settings.under .failFast) cancelled root engine start world
    let lenient :=
      walkThrough compiler (settings.under .collectAll) cancelled root engine start world
    strict = lenient ∧ (∀ failures later, lenient ≠ (.error (.failures failures), later)) ∨
      ∃ failure stopped, strict = (.error (.rejected engine.name failure), stopped) ∧
        (∀ report later, lenient ≠ (.ok report, later)) ∧
        ∀ failures later, lenient = (.error (.failures failures), later) →
          ∃ clean bad rest engineState,
            Parting compiler (settings.under .collectAll) (walkOf settings root)
              ⟨world.files, (walkOf settings root).begin world.files, start⟩
              ⟨later.files, [], engineState⟩ clean bad rest failure stopped.files ∧
            failures = (clean ++ bad :: rest).flatMap Stage.rejected := by
  intro strict lenient
  have lenientCourse := Walk.visitAll_course (walkOf settings root)
    (visitor_serves compiler (settings.under .collectAll) cancelled engine) (starting start, world)
    wellFormed
  obtain ⟨result, course, others⟩ := strict_course lenientCourse wellFormed
  have strictCourse := Walk.visitAll_course (walkOf settings root)
    (visitor_serves compiler (settings.under .failFast) cancelled engine) (starting start, world)
    wellFormed
  have strictEnds : strict = ending settings engine result := by
    rw [← strictCourse.unique course]
    rfl
  have lenientEnds : lenient = ending settings engine (steps.after ((walkOf settings root).visitAll
      (visitor compiler (settings.under .collectAll) cancelled engine))
      (starting start, world)) := rfl
  obtain ⟨stages, last, _, ended⟩ := account_of_course lenientCourse wellFormed
  rw [strictEnds, lenientEnds]
  rcases others with ⟨rfl, unchanged⟩ | ⟨failure, stopped, rfl, parts⟩
  · refine Or.inl ⟨rfl, ?_⟩
    intro failures later fails
    rcases ending_eq_error fails with ⟨progress, through, some, _⟩ | stops
    · exact some (unchanged progress later through)
    · rw [stops] at ended
      cases ended.2.1
  · refine Or.inr ⟨failure, stopped, rfl, ?_, ?_⟩
    · intro report later succeeds
      obtain ⟨progress, through, none, _⟩ := ending_eq_ok succeeds
      obtain ⟨clean, bad, rest, parting, failures⟩ := parts progress later through
      rw [none] at failures
      have head := parting.head
      rw [← failures.trans (List.nil_append _)] at head
      cases head
    · intro failures later fails
      rcases ending_eq_error fails with ⟨progress, through, _, same⟩ | stops
      · cases same
        obtain ⟨clean, bad, rest, parting, rejected⟩ := parts progress later through
        exact ⟨clean, bad, rest, progress.engineState, parting, rejected⟩
      · rw [stops] at ended
        cases ended.2.1

/-- The two policies describe the same run.  One succeeds exactly if the other does, with the
same report in the same world.  Where the rejected templates are reported, each of them is listed
once, in the order of the walk; the strict run has stopped with the first of them, and its files
are those that the other run had before that bundle. -/
theorem precompile_policies {world : World} (wellFormed : world.files.WellFormed) :
    (∀ report later, under compiler settings cancelled world .collectAll = (.ok report, later) ↔
        under compiler settings cancelled world .failFast = (.ok report, later)) ∧
      ∀ failures later, under compiler settings cancelled world .collectAll =
          (.error (.failures failures), later) →
        ∃ root engine start ready clean bad rest engineState failure stopped,
          Prepared compiler (settings.under .collectAll) world.files root engine start ready ∧
          Parting compiler (settings.under .collectAll) (walkOf settings root)
            ⟨ready, (walkOf settings root).begin ready, start⟩ ⟨later.files, [], engineState⟩
            clean bad rest failure stopped.files ∧
          failures = (clean ++ bad :: rest).flatMap Stage.rejected ∧
          failures.head? = some failure ∧
          (failures.map fun failure => failure.template.components).Nodup ∧
          under compiler settings cancelled world .failFast =
            (.error (.rejected engine.name failure), stopped) := by
  have lenientRun : under compiler settings cancelled world .collectAll = _ :=
    precompile_run compiler (settings.under .collectAll) cancelled world
  have strictRun : under compiler settings cancelled world .failFast = _ :=
    precompile_run compiler (settings.under .failFast) cancelled world
  have same : prepare compiler (settings.under .failFast) =
      prepare compiler (settings.under .collectAll) := rfl
  rw [same] at strictRun
  cases prepared : Effect.run (prepare compiler (settings.under .collectAll)) world with
  | mk result ready =>
      obtain ⟨readyWellFormed, known⟩ := prepare_run wellFormed prepared
      rw [prepared] at lenientRun strictRun
      rw [lenientRun, strictRun]
      cases result with
      | error error =>
          refine ⟨fun report later => Iff.rfl, ?_⟩
          intro failures later fails
          cases fails
          cases known.2
      | ok values =>
          obtain ⟨root, engine, start⟩ := values
          simp only
          rcases walkThrough_policies cancelled readyWellFormed root start with
            ⟨same, others⟩ | ⟨failure, stopped, stops, others, parts⟩
          · rw [same]
            refine ⟨fun report later => Iff.rfl, ?_⟩
            intro failures later fails
            exact absurd fails (others failures later)
          · rw [stops]
            constructor
            · intro report later
              constructor
              · intro succeeds
                exact absurd succeeds (others report later)
              · intro succeeds
                cases succeeds
            · intro failures later fails
              obtain ⟨clean, bad, rest, engineState, parting, rfl⟩ := parts failures later fails
              refine ⟨root, engine, start, ready.files, clean, bad, rest, engineState, failure,
                stopped, known, parting, rfl, ?_, ?_, rfl⟩
              · exact parting.head
              · exact parting.account.rejected_nodup readyWellFormed rfl

theorem policies_of_refusing :
    under refusing sampleSettings Cancellation.never sampleWorld .collectAll =
        (.error (.failures [refusal]), refusedWorld) ∧
      ∃ engine stopped,
        under refusing sampleSettings Cancellation.never sampleWorld .failFast =
          (.error (.rejected engine refusal), stopped) := by
  have lenient : under refusing sampleSettings Cancellation.never sampleWorld .collectAll =
      (.error (.failures [refusal]), refusedWorld) :=
    refusing_run
  obtain ⟨_, engine, _, _, _, _, _, _, failure, stopped, _, _, _, head, _, stops⟩ :=
    (precompile_policies Walk.sampleFiles_wellFormed).2 _ _ lenient
  cases head
  exact ⟨lenient, engine.name, stopped, stops⟩

end Run

end TemplateBuild

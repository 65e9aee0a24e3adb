import TemplateBuild.Proofs.CommandLine.Provisioning

/-!
# Output formats

What a command does does not depend on the format in which it shows its result: the files, the
requests and the warnings are the same, and so is the result.  But the format is applied when the
work is done, and a path that is not UTF-8 has no JSON.  Then a command that has succeeded ends as
if it had failed.
-/

set_option autoImplicit false

namespace TemplateBuild.CommandLine

open Effect

/-! ## The same in another format -/

def Order.under (order : Order) (format : OutputFormat) : Order :=
  { order with format := format }

def Invocation.under (format : OutputFormat) : Invocation → Invocation
  | .order wanted => .order (wanted.under format)
  | .help command => .help command
  | .version => .version

def Completion.under (format : OutputFormat) : Completion → Completion
  | .precompiled report _ => .precompiled report format
  | .fetched engine _ => .fetched engine format
  | .rejected failures _ => .rejected failures format
  | .failed messages => .failed messages
  | .misused error => .misused error
  | .help command => .help command
  | .version => .version

variable {environment : Environment} {order : Order} {world : World}

theorem runPrecompile_under (format : OutputFormat) :
    run (runPrecompile environment (order.under format)) world =
      ((run (runPrecompile environment order) world).1.map (Completion.under format),
        (run (runPrecompile environment order) world).2) := by
  have sameLayer : layered environment (order.under format) = layered environment order := rfl
  rw [runPrecompile, runPrecompile, sameLayer, run_bind, run_bind]
  rcases run (layered environment order) world with ⟨_ | layer, later⟩
  · rfl
  · simp only
    cases layer.resolve environment with
    | error error => rfl
    | ok settings =>
        simp only [validated, pure_bind]
        have seen : run (get : Effect Messages World) later = (.ok later, later) := rfl
        rw [run_bind, run_bind, seen]
        simp only
        rcases (precompile Compiler.sandboxed settings Cancellation.never).run later with
          ⟨failure | report, last⟩
        · cases failure <;> rfl
        · rfl

theorem runFetch_under (format : OutputFormat) :
    run (runFetch environment (order.under format)) world =
      ((run (runFetch environment order) world).1.map (Completion.under format),
        (run (runFetch environment order) world).2) := by
  have sameLayer : layered environment (order.under format) = layered environment order := rfl
  rcases ran : run (layered environment order) world with ⟨messages | layer, later⟩
  · rw [runFetch, runFetch, sameLayer, run_bind, run_bind, ran]
    rfl
  · rw [run_runFetch ran, run_runFetch (sameLayer ▸ ran)]
    cases layer.provisioning environment with
    | error error => rfl
    | ok provisioning =>
        simp only [fetching]
        rw [run_bind, run_bind]
        split <;> rfl

/-- A command does the same in any format. -/
theorem runOrder_under (format : OutputFormat) :
    run (runOrder environment (order.under format)) world =
      ((run (runOrder environment order) world).1.map (Completion.under format),
        (run (runOrder environment order) world).2) := by
  have sameCommand : (order.under format).command = order.command := rfl
  rw [runOrder, runOrder, sameCommand]
  cases order.command with
  | precompile => exact runPrecompile_under format
  | fetch => exact runFetch_under format

theorem execute_under {arguments others : List Bytes} {format : OutputFormat}
    (read : readInvocation others = (readInvocation arguments).map (Invocation.under format)) :
    execute environment others world =
      ((execute environment arguments world).1.under format,
        (execute environment arguments world).2) := by
  rw [execute, execute, read]
  rcases readInvocation arguments with error | invocation
  · rfl
  · cases invocation with
    | help command => rfl
    | version => rfl
    | order wanted =>
        simp only [Except.map, Invocation.under]
        rw [runOrder_under]
        rcases run (runOrder environment wanted) world with ⟨messages | completion, later⟩ <;> rfl

/-! ## Reading a format -/

/-- Two readings fail with the same error, or both succeed with what is related. -/
inductive Alike {α : Type} (related : α → α → Prop) : Reading α → Reading α → Prop
  | error (error : UsageError) : Alike related (.error error) (.error error)
  | ok {value other : α} : related value other → Alike related (.ok value) (.ok other)

theorem Alike.bind {α β : Type} {related : α → α → Prop} {further : β → β → Prop}
    {reading another : Reading α} {next later : α → Reading β}
    (alike : Alike related reading another)
    (each : ∀ value other, related value other → Alike further (next value) (later other)) :
    Alike further (reading >>= next) (another >>= later) := by
  cases alike with
  | error error => exact .error error
  | ok both => exact each _ _ both

section Reading

variable (first second : OutputFormat)

/-- Two states in which a format was read, each one its own, and all else alike. -/
inductive Settled : ReadState → ReadState → Prop
  | intro (given : List Given) (pending : Option Pending) :
      Settled ⟨⟨outputParameter, .format first⟩ :: given, pending⟩
        ⟨⟨outputParameter, .format second⟩ :: given, pending⟩

/-- Two states in which a format was seen, each one its own, and perhaps read. -/
inductive Seen : ReadState → ReadState → Prop
  | pending : Seen ⟨[], some ⟨outputParameter, some (Bytes.ofString first.label)⟩⟩
      ⟨[], some ⟨outputParameter, some (Bytes.ofString second.label)⟩⟩
  | settled {state other : ReadState} : Settled first second state other → Seen state other

/-- Two ends of reading, with what was given alike but for the format. -/
inductive Ended : ReadEnd → ReadEnd → Prop
  | complete (given : List Given) :
      Ended (.complete (⟨outputParameter, .format first⟩ :: given))
        (.complete (⟨outputParameter, .format second⟩ :: given))
  | help : Ended .help .help
  | version : Ended .version .version

inductive Reacted : Reaction → Reaction → Prop
  | proceed {state other : ReadState} : Seen first second state other →
      Reacted (.proceed state) (.proceed other)
  | finish {ended another : ReadEnd} : Ended first second ended another →
      Reacted (.finish ended) (.finish another)

variable {first second} {state other : ReadState}

theorem addGiven_alike (settled : Settled first second state other) (parameter : Parameter)
    (value : Reading ParameterValue) :
    Alike (Settled first second) (addGiven state parameter value)
      (addGiven other parameter value) := by
  cases settled with
  | intro given pending =>
      rw [addGiven, addGiven]
      have sameGiven : ReadState.isGiven
          ⟨⟨outputParameter, .format second⟩ :: given, pending⟩ parameter =
          ReadState.isGiven ⟨⟨outputParameter, .format first⟩ :: given, pending⟩ parameter := rfl
      rw [sameGiven]
      split
      · exact .error _
      · cases value with
        | error error => exact .error error
        | ok value => exact .ok (.intro _ pending)

theorem addSetting_alike (settled : Settled first second state other) (parameter : Parameter)
    (value : Bytes) : Alike (Settled first second) (addSetting state parameter value)
      (addSetting other parameter value) := by
  rw [addSetting, addSetting]
  split
  · exact addGiven_alike settled parameter _
  · exact .error _

theorem settle_alike (seen : Seen first second state other) :
    Alike (Settled first second) (settle state) (settle other) := by
  cases seen with
  | pending =>
      have settled : ∀ format : OutputFormat,
          settle ⟨[], some ⟨outputParameter, some (Bytes.ofString format.label)⟩⟩ =
            .ok ⟨[⟨outputParameter, .format format⟩], none⟩ := by
        intro format
        cases format <;> cbv
      rw [settled, settled]
      exact .ok (.intro [] none)
  | settled settled =>
      cases settled with
      | intro given pending =>
          rw [settle, settle]
          rcases pending with none | ⟨parameter, none | value⟩
          · exact .ok (.intro given none)
          · exact .error _
          · exact addSetting_alike (.intro given none) parameter value

theorem beginSetting_alike (seen : Seen first second state other) (parameter : Parameter)
    (value : Option Bytes) :
    Alike (Settled first second) (beginSetting state parameter value)
      (beginSetting other parameter value) := by
  rw [beginSetting, beginSetting]
  refine (settle_alike seen).bind fun state other settled => ?_
  cases value with
  | some value => exact addSetting_alike settled parameter value
  | none =>
      cases settled with
      | intro given pending => exact .ok (.intro given _)

theorem react_alike (seen : Seen first second state other) (parameter : Parameter) :
    Alike (Reacted first second) (react state parameter) (react other parameter) := by
  rw [react, react]
  refine (settle_alike seen).bind fun state other settled => ?_
  split
  · exact .ok (.finish .help)
  · exact .ok (.finish .version)
  · exact (addGiven_alike settled parameter _).bind fun _ _ added =>
      .ok (.proceed (.settled added))

theorem readLong_alike (seen : Seen first second state other) (scope : Scope) (name : Bytes)
    (value : Option Bytes) :
    Alike (Reacted first second) (readLong scope state name value)
      (readLong scope other name value) := by
  rw [readLong, readLong]
  cases name.toString?.bind scope.named? with
  | none => exact .error _
  | some parameter =>
      simp only
      split
      · exact (beginSetting_alike seen parameter _).bind fun _ _ settled =>
          .ok (.proceed (.settled settled))
      · exact .error _
      · exact react_alike seen parameter

theorem readLetters_alike (scope : Scope) (broken : Bytes) : ∀ (letters : List Char)
    {state other : ReadState}, Seen first second state other →
    Alike (Reacted first second) (readLetters scope state broken letters)
      (readLetters scope other broken letters) := by
  intro letters
  induction letters with
  | nil =>
      intro state other seen
      rw [readLetters, readLetters]
      split
      · exact .ok (.proceed seen)
      · exact .error _
  | cons letter rest ih =>
      intro state other seen
      rw [readLetters, readLetters]
      cases scope.lettered? letter with
      | none => exact .error _
      | some parameter =>
          simp only
          split
          · exact (beginSetting_alike seen parameter _).bind fun _ _ settled =>
              .ok (.proceed (.settled settled))
          · refine (react_alike seen parameter).bind fun reaction another reacted => ?_
            cases reacted with
            | finish ended => exact .ok (.finish ended)
            | proceed further => exact ih further

theorem Seen.awaitsValue (seen : Seen first second state other) :
    other.awaitsValue = state.awaitsValue := by
  cases seen with
  | pending => rfl
  | settled settled => cases settled; rfl

theorem readArgument_alike (seen : Seen first second state other) (scope : Scope)
    (argument : Bytes) :
    Alike (Reacted first second) (readArgument scope state argument)
      (readArgument scope other argument) := by
  rw [readArgument, readArgument]
  split
  · exact readLong_alike seen scope _ _
  · exact readLetters_alike scope _ _ seen
  · cases seen with
    | pending => exact .error _
    | settled settled =>
        cases settled with
        | intro given pending =>
            match pending with
            | none => exact .error _
            | some ⟨parameter, some value⟩ => exact .error _
            | some ⟨parameter, none⟩ => exact .ok (.proceed (.settled (.intro given _)))

theorem settled_complete (seen : Seen first second state other) :
    Alike (Ended first second) (do return .complete (← settle state).given)
      (do return .complete (← settle other).given) := by
  refine (settle_alike seen).bind fun state other settled => ?_
  cases settled with
  | intro given pending => exact .ok (.complete given)

/-- Whatever else the arguments say, it is read alike. -/
theorem readArguments_alike (scope : Scope) (commandless : scope.commands = []) :
    ∀ (arguments : List Bytes) {state other : ReadState}, Seen first second state other →
      Alike (Ended first second) (readArguments scope state arguments)
        (readArguments scope other arguments) := by
  intro arguments
  have none : ∀ argument, scope.command? argument = none := by
    intro argument
    rw [Scope.command?, commandless]
    exact Option.filter_eq_none_iff.mpr fun _ _ => by simp
  induction arguments with
  | nil =>
      intro state other seen
      exact settled_complete seen
  | cons argument rest ih =>
      intro state other seen
      rw [readArguments, readArguments, seen.awaitsValue, none, ite_self]
      simp only
      split
      · rw [readAfterSeparator.eq_def, readAfterSeparator.eq_def]
        split
        · exact settled_complete seen
        · exact .error _
      · have step := readArgument_alike seen scope argument
        generalize readArgument scope state argument = reading at step
        generalize readArgument scope other argument = another at step
        cases step with
        | error error => exact .error error
        | ok reacted =>
            cases reacted with
            | finish ended => exact .ok ended
            | proceed further => exact ih further

end Reading

/-! ## Command lines -/

/-- Arguments that ask for a command and name the format right after it. -/
def formatted (command : Command) (format : OutputFormat) (rest : List Bytes) : List Bytes :=
  Bytes.ofString command.name :: Bytes.ofString "-o" :: Bytes.ofString format.label :: rest

theorem valuesOf_cons_of_ne {given : Given} {name : String} (others : List Given)
    (different : given.parameter.name ≠ name) :
    valuesOf (given :: others) name = valuesOf others name := by
  rw [valuesOf, valuesOf, List.filter_cons_of_neg (by simpa using different)]

/-- The format is all that the parameter for it says. -/
theorem orderOf_format (command : Command) (first second : OutputFormat) (given : List Given) :
    orderOf command (⟨outputParameter, .format second⟩ :: given) =
      (orderOf command (⟨outputParameter, .format first⟩ :: given)).under second := by
  have others : ∀ (format : OutputFormat) (name : String), name ≠ outputParameter.name →
      valuesOf (⟨outputParameter, .format format⟩ :: given) name = valuesOf given name :=
    fun _ _ different => valuesOf_cons_of_ne given (Ne.symm different)
  have path : ∀ format, pathOf? (⟨outputParameter, .format format⟩ :: given)
      configParameter.name = pathOf? given configParameter.name := by
    intro format
    rw [pathOf?, pathOf?, pathsOf, pathsOf, others format _ (by decide)]
  have layer : ∀ format, command.layer (⟨outputParameter, .format format⟩ :: given) =
      command.layer given := by
    intro format
    have kept := others format
    cases command <;>
      simp (disch := decide) only [Command.layer, sharedLayer, textOf?, textsOf, pathOf?, pathsOf,
        durationOf?, switched, isGiven, kept] <;>
      rfl
  rw [orderOf, orderOf, Order.under, path, path, layer, layer]
  rfl

/-- What a command makes of the end of its arguments. -/
def conclude (command : Command) : ReadEnd → Reading Invocation
  | .complete given => do
    checkConflicts given
    return .order (orderOf command given)
  | .help => .ok (.help (some command))
  | .version => .ok .version
  | .command name _ _ => .error (.unknownCommand name)

theorem readCommand_eq (command : Command) (arguments : List Bytes) :
    readCommand command arguments =
      readArguments command.scope ReadState.initial arguments >>= conclude command := by
  rw [readCommand]
  refine congrArg (Bind.bind _) (funext fun ended => ?_)
  cases ended <;> rfl

theorem conclude_format (command : Command) {first second : OutputFormat}
    {ended another : ReadEnd} (alike : Ended first second ended another) :
    conclude command another = (conclude command ended).map (Invocation.under second) := by
  cases alike with
  | complete given =>
      have sameConflicts : checkConflicts (⟨outputParameter, .format second⟩ :: given) =
          checkConflicts (⟨outputParameter, .format first⟩ :: given) := rfl
      rw [conclude, conclude, sameConflicts, orderOf_format command first second]
      cases checkConflicts (⟨outputParameter, .format first⟩ :: given) <;> rfl
  | help => rfl
  | version => rfl

theorem readArguments_next {scope : Scope} {state next : ReadState} {argument : Bytes}
    (commandless : (if state.awaitsValue then none else scope.command? argument) = none)
    (proceeds : isSeparator argument = false)
    (read : readArgument scope state argument = .ok (.proceed next)) (rest : List Bytes) :
    readArguments scope state (argument :: rest) = readArguments scope next rest := by
  rw [readArguments.eq_def]
  simp only [commandless, proceeds, Bool.false_eq_true, if_false, read]

theorem readInvocation_formatted (command : Command) (format : OutputFormat)
    (rest : List Bytes) : readInvocation (formatted command format rest) =
      readArguments command.scope
        ⟨[], some ⟨outputParameter, some (Bytes.ofString format.label)⟩⟩ rest >>=
          conclude command := by
  have named : readArguments programScope ReadState.initial (formatted command format rest) =
      .ok (.command command.name []
        (Bytes.ofString "-o" :: Bytes.ofString format.label :: rest)) := by
    have isCommand : (if ReadState.initial.awaitsValue then none
        else programScope.command? (Bytes.ofString command.name)) = some command.name := by
      cases command <;> cbv
    rw [formatted, readArguments.eq_def]
    simp only [isCommand]
    rfl
  have known : Command.ofName? command.name = some command := by cases command <;> cbv
  -- The parameter waits for a value, and then the format for the other arguments.
  have waits : readArgument command.scope ReadState.initial (Bytes.ofString "-o") =
      .ok (.proceed ⟨[], some ⟨outputParameter, none⟩⟩) := by
    cases command <;> cbv
  have seen : readArgument command.scope ⟨[], some ⟨outputParameter, none⟩⟩
      (Bytes.ofString format.label) =
        .ok (.proceed ⟨[], some ⟨outputParameter, some (Bytes.ofString format.label)⟩⟩) := by
    cases format <;> cases command <;> cbv
  rw [readInvocation, named]
  simp only [bind, Except.bind, known]
  rw [readCommand_eq,
    readArguments_next (by cases command <;> cbv) (by cbv) waits,
    readArguments_next rfl (by cases format <;> cbv) seen]
  rfl

/-- Another format is read as the same order in that format. -/
theorem readInvocation_format (command : Command) (first second : OutputFormat)
    (rest : List Bytes) : readInvocation (formatted command second rest) =
      (readInvocation (formatted command first rest)).map (Invocation.under second) := by
  have commandless : command.scope.commands = [] := by cases command <;> rfl
  have seen : Seen first second _ _ := .pending
  have alike := readArguments_alike command.scope commandless rest seen
  rw [readInvocation_formatted, readInvocation_formatted]
  generalize readArguments command.scope _ rest = reading at alike
  generalize readArguments command.scope _ rest = another at alike
  cases alike with
  | error error => rfl
  | ok ended => exact conclude_format command ended

/-! ## Exit codes -/

/-- The paths that a report shows. -/
def Completion.paths : Completion → List Path
  | .precompiled report _ =>
    report.engine.location.path :: report.modules.map AssembledModule.path
  | .fetched engine _ => [engine.location.path]
  | .rejected failures _ =>
    failures.flatMap fun failure => [failure.template, failure.bundle]
  | .failed _ | .misused _ | .help _ | .version => []

theorem paths_under (format : OutputFormat) (completion : Completion) :
    (completion.under format).paths = completion.paths := by
  cases completion <;> rfl

/-- Whether a path is UTF-8. -/
def isText (path : Path) : Bool :=
  path.bytes.toString?.isSome

theorem toBool_mapM {ε α β : Type} (each : α → Except ε β) : ∀ items : List α,
    (items.mapM each).toBool = items.all fun item => (each item).toBool := by
  intro items
  induction items with
  | nil => rfl
  | cons item rest ih =>
      rw [List.mapM_cons, List.all_cons, ← ih]
      cases each item with
      | error error => rfl
      | ok value => cases rest.mapM each <;> rfl

theorem toBool_pathValue (path : Path) : (pathValue path).toBool = isText path := by
  rw [pathValue, isText]
  cases path.bytes.toString? <;> rfl

theorem toBool_engineValue (engine : Engine) :
    (engineValue engine).toBool = isText engine.location.path := by
  rw [← toBool_pathValue, engineValue]
  cases pathValue engine.location.path <;> rfl

theorem toBool_moduleValue (written : AssembledModule) :
    (moduleValue written).toBool = isText written.path := by
  rw [← toBool_pathValue, moduleValue]
  cases pathValue written.path <;> rfl

theorem toBool_failureValue (failure : CompileFailure) :
    (failureValue failure).toBool = (isText failure.template && isText failure.bundle) := by
  rw [← toBool_pathValue, ← toBool_pathValue, failureValue]
  cases pathValue failure.template <;> cases pathValue failure.bundle <;> rfl

theorem toBool_reportValue (report : Report) (elapsed : Duration) :
    (reportValue report elapsed).toBool =
      (Completion.precompiled report .json).paths.all isText := by
  have modules := toBool_mapM moduleValue report.modules
  simp only [toBool_moduleValue] at modules
  rw [Completion.paths, List.all_cons, List.all_map, ← toBool_engineValue, reportValue]
  change _ = (_ && report.modules.all fun written => isText written.path)
  rw [← modules]
  cases engineValue report.engine <;> cases report.modules.mapM moduleValue <;> rfl

theorem toBool_failuresValue (failures : List CompileFailure) :
    (failuresValue failures).toBool = (Completion.rejected failures .json).paths.all isText := by
  have each := toBool_mapM failureValue failures
  simp only [toBool_failureValue] at each
  rw [Completion.paths, List.all_flatMap]
  simp only [List.all_cons, List.all_nil, Bool.and_true]
  rw [← each, failuresValue]
  cases failures.mapM failureValue <;> rfl

theorem exitCode_withJson (value : Except String Json.Value) (next : String → Outcome) {code : Nat}
    (same : ∀ text, (next text).exitCode = code) :
    (withJson value next).exitCode = if value.toBool then code else 1 := by
  cases value with
  | error reason => rfl
  | ok value => exact same _

/-- With JSON a completion fails where one of its paths is not UTF-8. -/
theorem exitCode_under (completion : Completion) (elapsed later : Duration) :
    ((completion.under .json).outcome elapsed).exitCode =
      if completion.paths.all isText then ((completion.under .text).outcome later).exitCode
      else 1 := by
  cases completion with
  | precompiled report format =>
      have shown := exitCode_withJson (reportValue report elapsed) Outcome.success fun _ => rfl
      rw [toBool_reportValue] at shown
      exact shown
  | fetched engine format =>
      have shown := exitCode_withJson (fetchedValue engine elapsed) Outcome.success fun _ => rfl
      have value : (fetchedValue engine elapsed).toBool =
          (Completion.fetched engine format).paths.all isText := by
        rw [Completion.paths, List.all_cons, List.all_nil, Bool.and_true, ← toBool_engineValue,
          fetchedValue]
        cases engineValue engine <;> rfl
      rw [value] at shown
      exact shown
  | rejected failures format =>
      have shown := exitCode_withJson (failuresValue failures)
        (fun text => Outcome.failure text (rejectionCount failures)) fun _ => rfl
      rw [toBool_failuresValue] at shown
      rw [Completion.under, Completion.outcome, shown]
      rfl
  | failed | misused | help | version => rfl

/-- How a command ends in text and in JSON, after these times: with the same files, requests and
warnings, and with the same exit code unless its report shows a path that is not UTF-8.  Then, the
work being done, the program fails in JSON only. -/
structure EndAlike (elapsed later : Duration) (inText inJson : Completion × World) : Prop where
  world : inJson.2 = inText.2
  exitCode : (inJson.1.outcome later).exitCode =
    if inText.1.paths.all isText then (inText.1.outcome elapsed).exitCode else 1

theorem endAlike_of_read {inText inJson : List Bytes} (elapsed later : Duration)
    (text : readInvocation inText = (readInvocation inText).map (Invocation.under .text))
    (json : readInvocation inJson = (readInvocation inText).map (Invocation.under .json)) :
    EndAlike elapsed later (execute environment inText world)
      (execute environment inJson world) := by
  have asText : execute environment inText world =
      ((execute environment inText world).1.under .text,
        (execute environment inText world).2) :=
    execute_under text
  have asJson : execute environment inJson world =
      ((execute environment inText world).1.under .json,
        (execute environment inText world).2) :=
    execute_under json
  have own : (execute environment inText world).1.under .text =
      (execute environment inText world).1 := (congrArg Prod.fst asText).symm
  constructor
  · rw [asJson]
  · rw [asJson, exitCode_under _ later elapsed, own]

/-- Command lines that are read as one order in two formats end alike; so do those that name the
format after the command and are the same in all else. -/
theorem execute_formatted (environment : Environment) (world : World) (elapsed later : Duration) :
    (∀ (order : Order) (inText inJson : List Bytes),
      readInvocation inText = .ok (.order (order.under .text)) →
      readInvocation inJson = .ok (.order (order.under .json)) →
      EndAlike elapsed later (execute environment inText world)
        (execute environment inJson world)) ∧
    ∀ (command : Command) (rest : List Bytes),
      EndAlike elapsed later (execute environment (formatted command .text rest) world)
        (execute environment (formatted command .json rest) world) := by
  constructor
  · intro order inText inJson text json
    refine endAlike_of_read elapsed later ?_ ?_
    · rw [text]
      rfl
    · rw [text, json]
      rfl
  · intro command rest
    exact endAlike_of_read elapsed later (readInvocation_format command .text .text rest)
      (readInvocation_format command .text .json rest)

/-- A directory whose name is not UTF-8, with an engine in it. -/
def foreignWorld : World :=
  .initial ⟨[([[0xFF]], .directory), ([[0xFF], Bytes.ofString "e"], .file [])], []⟩ .unreachable

/-- For the engine in the directory. -/
def foreignArguments : List Bytes :=
  [Bytes.ofString "-e", Bytes.ofString "e", Bytes.ofString "--script-dir", [0xFF]]

def foreignLayer : ConfigLayer :=
  { engineIdentifier := some "e", scriptDirectories := some [⟨[0xFF]⟩] }

def foreignEngine : Engine :=
  ⟨"e", .bundled, ⟨[0xFF, 0x2F, 0x65]⟩⟩

theorem foreign_read : readInvocation (formatted .fetch .text foreignArguments) =
    .ok (.order ⟨.fetch, none, foreignLayer, .text⟩) := by
  cbv

def foreignProvisioning : Provisioning :=
  { Provisioning.ofEnvironment ⟨[]⟩ with scriptDirectories := [⟨[0xFF]⟩] }

theorem foreign_executed : execute ⟨[]⟩ (formatted .fetch .text foreignArguments) foreignWorld =
    (.fetched foreignEngine .text, foreignWorld) := by
  have usual : (Path.ofString ".").join (Path.ofString ConfigFile.usualName) =
      .ofString "./tmplc.lua" := by cbv
  have nowhere : foreignWorld.files.isFile (.ofString "./tmplc.lua") = false := by cbv
  have absent : ConfigFile.find foreignWorld.files none = .ok none := by
    rw [ConfigFile.find]
    simp only [usual, nowhere]
    rfl
  have layer : run (layered ⟨[]⟩ ⟨.fetch, none, foreignLayer, .text⟩) foreignWorld =
      (.ok (ConfigLayer.empty.merge foreignLayer), foreignWorld) := by
    rw [layered, run_bind_of_ok _ (run_files _), absent]
    rfl
  have provided : (ConfigLayer.empty.merge foreignLayer).provisioning ⟨[]⟩ =
      .ok foreignProvisioning := by
    cbv
  have resolved : run (foreignProvisioning.resolve "e") foreignWorld =
      (.ok foreignEngine, foreignWorld) := by
    cbv
  have fetched : run (runFetch ⟨[]⟩ ⟨.fetch, none, foreignLayer, .text⟩) foreignWorld =
      (.ok (.fetched foreignEngine .text), foreignWorld) := by
    rw [run_runFetch layer, provided]
    simp only [fetching]
    rw [run_bind, run_mapError, show (ConfigLayer.empty.merge foreignLayer).engine = "e" from rfl,
      resolved]
    rfl
  rw [execute, foreign_read]
  simp only [runOrder]
  rw [fetched]

/-- The engine is found in either format, but only in one the program says that it succeeded. -/
theorem execute_of_foreign :
    ((execute ⟨[]⟩ (formatted .fetch .text foreignArguments) foreignWorld).1.outcome
      ⟨0, 0⟩).exitCode = 0 ∧
    ((execute ⟨[]⟩ (formatted .fetch .json foreignArguments) foreignWorld).1.outcome
      ⟨0, 0⟩).exitCode = 1 := by
  refine ⟨by rw [foreign_executed]; rfl, ?_⟩
  have json : readInvocation (formatted .fetch .json foreignArguments) =
      .ok (.order ⟨.fetch, none, foreignLayer, .json⟩) := by
    rw [readInvocation_format .fetch .text .json, foreign_read]
    rfl
  have alike := (execute_formatted ⟨[]⟩ foreignWorld ⟨0, 0⟩ ⟨0, 0⟩).1
    ⟨.fetch, none, foreignLayer, .text⟩ _ _ foreign_read json
  rw [alike.exitCode, foreign_executed]
  cbv

end TemplateBuild.CommandLine

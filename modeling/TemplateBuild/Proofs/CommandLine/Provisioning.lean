import Mathlib
import TemplateBuild.CommandLine.Execution
import TemplateBuild.Proofs.World

/-!
# Commands that provision alike

Both commands put the parameters that they share on top of the same file.  A precompilation that was
given the same of them as a fetch therefore looks for the same engine in the same way, and is
refused for the same reason where the fetch is.  Otherwise only its own settings can be at fault.
-/

set_option autoImplicit false

namespace TemplateBuild

open Effect

namespace ConfigLayer

/-! ## Layers that agree on the engine -/

/-- Two layers say the same about the engine and where it comes from. -/
structure ProvisionsLike (layer other : ConfigLayer) : Prop where
  engineIdentifier : layer.engineIdentifier = other.engineIdentifier
  cacheDirectory : layer.cacheDirectory = other.cacheDirectory
  scriptDirectories : layer.scriptDirectories = other.scriptDirectories
  engineUrl : layer.engineUrl = other.engineUrl
  engineUrlTemplate : layer.engineUrlTemplate = other.engineUrlTemplate
  offline : layer.offline = other.offline
  timeout : layer.timeout = other.timeout

variable {layer other : ConfigLayer} {environment : Environment}

theorem ProvisionsLike.merge (like : layer.ProvisionsLike other) (lower : ConfigLayer) :
    (lower.merge layer).ProvisionsLike (lower.merge other) := by
  have chosen : layer.choosesRemote = other.choosesRemote := by
    rw [choosesRemote, choosesRemote, like.engineUrl, like.engineUrlTemplate]
  constructor <;> simp only [ConfigLayer.merge, like.engineIdentifier, like.cacheDirectory,
    like.scriptDirectories, like.engineUrl, like.engineUrlTemplate, like.offline, like.timeout,
    chosen]

theorem ProvisionsLike.engine (like : layer.ProvisionsLike other) :
    layer.engine = other.engine := by
  rw [ConfigLayer.engine, ConfigLayer.engine, like.engineIdentifier]

theorem ProvisionsLike.provisioning (like : layer.ProvisionsLike other)
    (environment : Environment) :
    layer.provisioning environment = other.provisioning environment := by
  simp only [ConfigLayer.provisioning, remote, checkedTimeout, like.cacheDirectory,
    like.scriptDirectories, like.engineUrl, like.engineUrlTemplate, like.offline, like.timeout]

/-! ## What a resolution can be refused for -/

/-- What the provisioning part of a layer can be refused for. -/
inductive ProvisioningFault : ConfigError → Prop
  | conflict : ProvisioningFault .conflictingRemote
  | template (url : String) : ProvisioningFault (.invalidUrlTemplate url)
  | timeout : ProvisioningFault (.invalidValue "timeout" "must be greater than zero")

theorem fault_of_remote {error : ConfigError} (failed : layer.remote = .error error) :
    ProvisioningFault error := by
  rw [remote] at failed
  split at failed
  · cases failed
    exact .conflict
  · cases failed
  · next url _ _ =>
    split at failed
    · cases failed
    · cases failed
      exact .template url
  · cases failed

theorem fault_of_checkedTimeout {error : ConfigError}
    (failed : layer.checkedTimeout = .error error) : ProvisioningFault error := by
  rw [checkedTimeout] at failed
  split at failed
  · cases failed
  · split at failed
    · cases failed
      exact .timeout
    · cases failed

theorem fault_of_provisioning {error : ConfigError}
    (failed : layer.provisioning environment = .error error) : ProvisioningFault error := by
  rw [ConfigLayer.provisioning] at failed
  cases remote : layer.remote with
  | error fault =>
      rw [remote] at failed
      cases failed
      exact fault_of_remote remote
  | ok value =>
      cases timely : layer.checkedTimeout with
      | error fault =>
          rw [remote, timely] at failed
          cases failed
          exact fault_of_checkedTimeout timely
      | ok timeout =>
          rw [remote, timely] at failed
          cases failed

theorem resolve_of_provisioning_error {error : ConfigError}
    (failed : layer.provisioning environment = .error error) :
    layer.resolve environment = .error error := by
  rw [resolve, failed]
  rfl

/-- The label of the encoding that a resolution looks up. -/
def encodingLabel (layer : ConfigLayer) : String :=
  layer.encoding.getD defaultEncoding

/-- Where the provisioning part is sound, first the source is asked for, and then the encoding. -/
inductive Settles (layer : ConfigLayer) (provisioning : Provisioning) :
    Except ConfigError Settings → Prop
  | sourceless : layer.sourceDirectory = none → Settles layer provisioning (.error .missingSource)
  | unlabelled {source : Path} : layer.sourceDirectory = some source →
      Encoding.ofLabel? layer.encodingLabel = none →
      Settles layer provisioning (.error (.unknownEncoding layer.encodingLabel))
  | settled {source : Path} {encoding : Encoding} {settings : Settings} :
      layer.sourceDirectory = some source →
      Encoding.ofLabel? layer.encodingLabel = some encoding → settings.engine = layer.engine →
      settings.provisioning = provisioning → Settles layer provisioning (.ok settings)

theorem resolve_settles {provisioning : Provisioning}
    (provided : layer.provisioning environment = .ok provisioning) :
    layer.Settles provisioning (layer.resolve environment) := by
  rw [resolve, provided]
  cases given : layer.sourceDirectory with
  | none => exact .sourceless given
  | some source =>
      cases known : Encoding.ofLabel? layer.encodingLabel with
      | none =>
          have looked : resolveEncoding (layer.encoding.getD defaultEncoding) =
              .error (.unknownEncoding layer.encodingLabel) := by
            rw [← encodingLabel, resolveEncoding, known]
          simp only [bind, Except.bind, looked]
          exact .unlabelled given known
      | some encoding =>
          have looked : resolveEncoding (layer.encoding.getD defaultEncoding) = .ok encoding := by
            rw [← encodingLabel, resolveEncoding, known]
          simp only [bind, Except.bind, looked]
          exact .settled given known rfl rfl

/-- How a fetch with one layer and a precompilation with another one go together. -/
structure Corresponds (environment : Environment) (fetched precompiled : ConfigLayer) : Prop where
  used : ∀ settings, precompiled.resolve environment = .ok settings →
    fetched.engine = settings.engine ∧
      fetched.provisioning environment = .ok settings.provisioning
  refused : ∀ error, fetched.provisioning environment = .error error ↔
    precompiled.resolve environment = .error error ∧ ProvisioningFault error
  provided : ∀ provisioning, fetched.provisioning environment = .ok provisioning →
    ∀ error, precompiled.resolve environment = .error error ↔
      (precompiled.sourceDirectory = none ∧ error = .missingSource) ∨
      ((∃ source, precompiled.sourceDirectory = some source) ∧
        Encoding.ofLabel? precompiled.encodingLabel = none ∧
        error = .unknownEncoding precompiled.encodingLabel)

theorem ProvisionsLike.corresponds (like : layer.ProvisionsLike other)
    (environment : Environment) : Corresponds environment layer other := by
  have same := like.provisioning environment
  cases outcome : other.provisioning environment with
  | error error =>
      have failed := resolve_of_provisioning_error outcome
      have fault := fault_of_provisioning outcome
      refine ⟨?_, ?_, ?_⟩
      · intro settings resolved
        rw [failed] at resolved
        cases resolved
      · intro another
        simp only [same, outcome, failed, Except.error.injEq]
        refine ⟨?_, And.left⟩
        rintro rfl
        exact ⟨rfl, fault⟩
      · intro provisioning provided
        rw [same, outcome] at provided
        cases provided
  | ok provisioning =>
      have settles := resolve_settles outcome
      refine ⟨?_, ?_, ?_⟩
      · intro settings resolved
        rw [resolved] at settles
        cases settles with
        | settled _ _ engine provisions =>
            rw [same, outcome, provisions]
            exact ⟨like.engine.trans engine.symm, rfl⟩
      · intro error
        rw [same, outcome]
        refine ⟨fun equal => (by cases equal), ?_⟩
        rintro ⟨failed, fault⟩
        rw [failed] at settles
        cases settles <;> cases fault
      · intro _ _ error
        cases resolved : other.resolve environment with
        | ok settings =>
            rw [resolved] at settles
            cases settles with
            | settled given known _ _ => simp [given, known]
        | error another =>
            rw [resolved] at settles
            cases settles with
            | sourceless missing => simp [missing, eq_comm]
            | unlabelled given unknown => simp [given, unknown, eq_comm]

end ConfigLayer

namespace CommandLine

/-! ## The layers of the commands -/

/-- What the arguments of a command amount to. -/
def orderOf (command : Command) (given : List Given) : Order :=
  ⟨command, pathOf? given configParameter.name, command.layer given, formatOf given⟩

theorem orderOf_of_readCommand {command : Command} {arguments : List Bytes} {order : Order}
    (read : readCommand command arguments = .ok (.order order)) : ∃ given,
    readArguments command.scope ReadState.initial arguments = .ok (.complete given) ∧
      order = orderOf command given := by
  rw [readCommand] at read
  cases ended : readArguments command.scope ReadState.initial arguments with
  | error error =>
      rw [ended] at read
      cases read
  | ok outcome =>
      rw [ended] at read
      cases outcome with
      | complete given =>
          refine ⟨given, rfl, ?_⟩
          cases checked : checkConflicts given with
          | error error =>
              simp only [bind, Except.bind, checked] at read
              cases read
          | ok value =>
              simp only [bind, Except.bind, checked] at read
              cases read
              rfl
      | help => cases read
      | version => cases read
      | command name given rest => cases read

/-- The parameters that both commands have and that say which engine to use, and how. -/
def sharedNames : List String :=
  ["config", "engine", "cache-dir", "script-dir", "offline", "timeout"]

/-- A fetch and a precompilation were given the same values of these parameters, and the fetch was
given no remote, which a precompilation cannot be given. -/
structure GivenAlike (fetched precompiled : List Given) : Prop where
  shared : ∀ name ∈ sharedNames, valuesOf fetched name = valuesOf precompiled name
  urlless : ∀ name ∈ ["url", "url-template"], valuesOf fetched name = []

variable {fetched precompiled : List Given}

theorem GivenAlike.configPath (alike : GivenAlike fetched precompiled) :
    (orderOf .fetch fetched).configPath = (orderOf .precompile precompiled).configPath := by
  rw [orderOf, orderOf]
  simp only [pathOf?, pathsOf, configParameter, alike.shared "config" (by decide)]

theorem GivenAlike.sharedLayer (alike : GivenAlike fetched precompiled) :
    CommandLine.sharedLayer fetched = CommandLine.sharedLayer precompiled := by
  have engine : textOf? fetched "engine" = textOf? precompiled "engine" := by
    rw [textOf?, textOf?, textsOf, textsOf, alike.shared "engine" (by decide)]
  have cache : pathOf? fetched "cache-dir" = pathOf? precompiled "cache-dir" := by
    rw [pathOf?, pathOf?, pathsOf, pathsOf, alike.shared "cache-dir" (by decide)]
  have scripts : pathsOf fetched "script-dir" = pathsOf precompiled "script-dir" := by
    rw [pathsOf, pathsOf, alike.shared "script-dir" (by decide)]
  have offline : switched fetched "offline" true = switched precompiled "offline" true := by
    rw [switched, switched, isGiven, isGiven, alike.shared "offline" (by decide)]
  have timeout : durationOf? fetched "timeout" = durationOf? precompiled "timeout" := by
    rw [durationOf?, durationOf?, alike.shared "timeout" (by decide)]
  rw [CommandLine.sharedLayer, CommandLine.sharedLayer, engine, cache, scripts, offline, timeout]

theorem GivenAlike.provisionsLike (alike : GivenAlike fetched precompiled) :
    (Command.fetch.layer fetched).ProvisionsLike (Command.precompile.layer precompiled) := by
  have same := alike.sharedLayer
  have noUrl : textOf? fetched "url" = none := by
    rw [textOf?, textsOf, alike.urlless "url" (by decide)]
    rfl
  have noTemplate : textOf? fetched "url-template" = none := by
    rw [textOf?, textsOf, alike.urlless "url-template" (by decide)]
    rfl
  constructor <;> simp only [Command.layer, same, noUrl, noTemplate] <;> rfl

/-- Only the path of the file and the layer of the parameters make a difference. -/
theorem layered_alike (environment : Environment) (first second : Order)
    (samePath : first.configPath = second.configPath) (world : World) :
    (∃ messages later, run (layered environment first) world = (.error messages, later) ∧
      run (layered environment second) world = (.error messages, later)) ∨
    ∃ (lower : ConfigLayer) (later : World),
      run (layered environment first) world = (.ok (lower.merge first.layer), later) ∧
      run (layered environment second) world = (.ok (lower.merge second.layer), later) := by
  rw [layered, layered, run_bind_of_ok _ (run_files world), run_bind_of_ok _ (run_files world),
    samePath]
  cases ConfigFile.find world.files second.configPath with
  | error error => exact .inl ⟨_, world, rfl, rfl⟩
  | ok found =>
      cases found with
      | none => exact .inr ⟨_, world, rfl, rfl⟩
      | some path =>
          simp only
          rw [run_bind, run_bind]
          cases run (fileLayer environment path) world with
          | mk result later =>
              cases result with
              | error messages => exact .inl ⟨messages, later, rfl, rfl⟩
              | ok lower => exact .inr ⟨lower, later, rfl, rfl⟩

/-! ## The commands -/

/-- How an error of the configuration is told. -/
def configurationMessages (error : ConfigError) : Messages :=
  "Invalid configuration" :: error.message :: error.causes

/-- What a fetch does with the settings of its layer. -/
def fetching (engine : String) (provisioning : Provisioning) (format : OutputFormat) :
    Effect Messages Completion := do
  let found ← Effect.mapError
    (fun (error : ProvisionError) =>
      ("Failed to provision engine '" ++ engine ++ "'") :: error.message :: error.causes)
    (provisioning.resolve engine)
  return .fetched found format

theorem run_runFetch {environment : Environment} {order : Order} {world later : World}
    {layer : ConfigLayer} (ran : run (layered environment order) world = (.ok layer, later)) :
    run (runFetch environment order) world =
      match layer.provisioning environment with
      | .error error => (.error (configurationMessages error), later)
      | .ok provisioning => run (fetching layer.engine provisioning order.format) later := by
  rw [runFetch, run_bind_of_ok _ ran]
  cases layer.provisioning environment with
  | error error => rfl
  | ok provisioning => rfl

/-- A precompilation is refused with the same words. -/
theorem run_runPrecompile_of_error {environment : Environment} {order : Order}
    {world later : World} {layer : ConfigLayer} {error : ConfigError}
    (ran : run (layered environment order) world = (.ok layer, later))
    (failed : layer.resolve environment = .error error) :
    run (runPrecompile environment order) world =
      (.error (configurationMessages error), later) := by
  rw [runPrecompile, run_bind_of_ok _ ran, failed]
  rfl

/-- Both commands are stopped by the file, or both have their layers, and these correspond.  The
fetch is then refused, and the precompilation with the same words, or it looks for the engine of its
layer as its layer says. -/
theorem provision_alike (alike : GivenAlike fetched precompiled) (environment : Environment)
    (world : World) :
    (∃ messages later,
      run (layered environment (orderOf .fetch fetched)) world = (.error messages, later) ∧
      run (layered environment (orderOf .precompile precompiled)) world =
        (.error messages, later)) ∨
    ∃ fetchLayer precompileLayer later,
      run (layered environment (orderOf .fetch fetched)) world = (.ok fetchLayer, later) ∧
      run (layered environment (orderOf .precompile precompiled)) world =
        (.ok precompileLayer, later) ∧
      ConfigLayer.Corresponds environment fetchLayer precompileLayer ∧
      (∀ error, fetchLayer.provisioning environment = .error error →
        run (runFetch environment (orderOf .fetch fetched)) world =
          (.error (configurationMessages error), later) ∧
        run (runPrecompile environment (orderOf .precompile precompiled)) world =
          (.error (configurationMessages error), later)) ∧
      ∀ provisioning, fetchLayer.provisioning environment = .ok provisioning →
        run (runFetch environment (orderOf .fetch fetched)) world =
          run (fetching fetchLayer.engine provisioning (formatOf fetched)) later := by
  rcases layered_alike environment _ _ alike.configPath world with
    stopped | ⟨lower, later, first, second⟩
  · exact .inl stopped
  · have corresponds := (alike.provisionsLike.merge lower).corresponds environment
    refine .inr ⟨_, _, later, first, second, corresponds, ?_, ?_⟩
    · intro error failed
      have refused := ((corresponds.refused error).mp failed).1
      refine ⟨?_, run_runPrecompile_of_error second refused⟩
      rw [run_runFetch first, failed]
    · intro provisioning provided
      rw [run_runFetch first, provided]
      rfl

/-! ## A timeout of zero -/

def sampleFetch : List Given :=
  [⟨timeoutParameter "Network timeout", .duration (Duration.ofSeconds 0)⟩]

/-- Without a source, which is not what it is refused for. -/
def samplePrecompilation : List Given :=
  [⟨timeoutParameter "Network timeout", .duration (Duration.ofSeconds 0)⟩,
    ⟨outputParameter, .format .json⟩]

def sampleWorld : World :=
  .initial ⟨[], []⟩ ⟨fun _ _ => .unreachable [], []⟩

theorem provision_alike_of_sample :
    (run (runFetch ⟨[]⟩ (orderOf .fetch sampleFetch)) sampleWorld).1 =
      .error ["Invalid configuration", "invalid value for 'timeout': must be greater than zero"] ∧
    (run (runPrecompile ⟨[]⟩ (orderOf .precompile samplePrecompilation)) sampleWorld).1 =
      .error ["Invalid configuration",
        "invalid value for 'timeout': must be greater than zero"] := by
  have alike : GivenAlike sampleFetch samplePrecompilation :=
    ⟨by decide, by decide⟩
  have usual : (Path.ofString ".").join (Path.ofString ConfigFile.usualName) =
      .ofString "./tmplc.lua" := by cbv
  have nowhere : FileTree.isFile ⟨[], []⟩ (.ofString "./tmplc.lua") = false := by cbv
  have absent : ConfigFile.find ⟨[], []⟩ none = .ok none := by
    rw [ConfigFile.find]
    simp only [usual, nowhere]
    rfl
  have ran : run (layered ⟨[]⟩ (orderOf .fetch sampleFetch)) sampleWorld =
      (.ok (ConfigLayer.empty.merge (Command.fetch.layer sampleFetch)), sampleWorld) := by
    have path : (orderOf .fetch sampleFetch).configPath = none := by decide
    rw [layered, run_bind_of_ok _ (run_files _), path,
      show sampleWorld.files = ⟨[], []⟩ from rfl, absent]
    rfl
  rcases provision_alike alike ⟨[]⟩ sampleWorld with
    ⟨messages, later, failed, _⟩ | ⟨layer, _, later, first, _, _, refused, _⟩
  · rw [ran] at failed
    cases failed
  · rw [ran] at first
    cases first
    obtain ⟨fetch, precompilation⟩ := refused (.invalidValue "timeout" "must be greater than zero")
      (by decide)
    have told : configurationMessages (.invalidValue "timeout" "must be greater than zero") =
        ["Invalid configuration",
          "invalid value for 'timeout': must be greater than zero"] := rfl
    rw [fetch, precompilation, told]
    exact ⟨rfl, rfl⟩

end CommandLine

end TemplateBuild

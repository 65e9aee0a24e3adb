import TemplateBuild.CommandLine.Arguments
import TemplateBuild.Config.Layer
import TemplateBuild.Environment

/-!
# Invocations

What the arguments of the program ask for.  The program has two commands; the parameters of a
command become the uppermost layer of its configuration.
-/

set_option autoImplicit false

namespace TemplateBuild.CommandLine

/-! ## The parameters of the program -/

def verboseParameter : Parameter :=
  ⟨"verbose", some 'v', .counter, "Increase log verbosity (-v info, -vv debug)"⟩

def helpParameter : Parameter :=
  ⟨"help", some 'h', .help, "Print help"⟩

def versionParameter : Parameter :=
  ⟨"version", some 'V', .version, "Print version"⟩

def configParameter : Parameter :=
  ⟨"config", some 'c', .setting "CONFIG" .path false,
    "Config file (default: ./tmplc.lua when present)"⟩

def engineParameter (summary : String) : Parameter :=
  ⟨"engine", some 'e', .setting "ENGINE" .text false, summary⟩

def cacheParameter : Parameter :=
  ⟨"cache-dir", none, .setting "CACHE_DIR" .path false, "Engine cache directory"⟩

def scriptsParameter : Parameter :=
  ⟨"script-dir", none, .setting "SCRIPT_DIRS" .path true,
    "Extra directory to search for bundled engine scripts (repeatable)"⟩

def offlineParameter (summary : String) : Parameter :=
  ⟨"offline", none, .switch, summary⟩

def timeoutParameter (summary : String) : Parameter :=
  ⟨"timeout", none, .setting "TIMEOUT" .duration false, summary⟩

def outputParameter : Parameter :=
  ⟨"output", some 'o', .setting "OUTPUT" .format false,
    "Output format [default: text] [possible values: text, json]"⟩

def urlParameter : Parameter :=
  ⟨"url", none, .setting "URL" .text false, "JSON download listing to look the engine up in"⟩

def urlTemplateParameter : Parameter :=
  ⟨"url-template", none, .setting "URL_TEMPLATE" .text false,
    "Download URL with a \x7bname\x7d placeholder for the engine identifier"⟩

def precompileParameters : List Parameter :=
  [configParameter,
   ⟨"source", some 's', .setting "SOURCE" .path false, "Directory holding the templates"⟩,
   ⟨"output-dir", some 'O', .setting "OUTPUT_DIR" .path false,
    "Directory for generated modules (default: the source directory)"⟩,
   engineParameter "Engine script identifier, e.g. handlebars-1.0.12.min.js",
   ⟨"ext", none, .setting "EXTENSIONS" .text true, "Template file extension (repeatable)"⟩,
   ⟨"output-extension", none, .setting "OUTPUT_EXTENSION" .text false,
    "Extension of generated modules"⟩,
   ⟨"flatten", none, .switch, "Write every module directly under the output directory"⟩,
   ⟨"purge-whitespace", none, .switch,
    "Strip newlines, carriage returns and tabs before compiling"⟩,
   ⟨"known-helper", none, .setting "KNOWN_HELPERS" .text true,
    "Helper known to exist at render time (repeatable)"⟩,
   ⟨"known-helpers-only", none, .switch,
    "Reject templates that use helpers not declared with --known-helper"⟩,
   ⟨"encoding", none, .setting "ENCODING" .text false,
    "Encoding of templates and generated modules"⟩,
   cacheParameter,
   scriptsParameter,
   offlineParameter "Never download the engine",
   timeoutParameter "Network timeout for engine downloads (e.g. \"30s\")",
   ⟨"keep-going", none, .switch,
    "Skip templates that fail to compile and report them all at the end"⟩,
   ⟨"dry-run", none, .switch, "Compile everything but write no files"⟩,
   outputParameter, verboseParameter, helpParameter]

def fetchParameters : List Parameter :=
  [configParameter,
   engineParameter "Engine script identifier",
   cacheParameter,
   scriptsParameter,
   urlParameter,
   urlTemplateParameter,
   offlineParameter "Fail instead of downloading on a cache miss",
   timeoutParameter "Network timeout (e.g. \"30s\")",
   outputParameter, verboseParameter, helpParameter]

inductive Command where
  | precompile
  | fetch
deriving DecidableEq, Repr

namespace Command

def name : Command → String
  | .precompile => "precompile"
  | .fetch => "fetch"

def all : List Command := [.precompile, .fetch]

def ofName? (name : String) : Option Command :=
  all.find? fun command => command.name == name

def summary : Command → String
  | .precompile => "Compile every template under a source directory"
  | .fetch => "Make sure the engine script is available locally"

def scope : Command → Scope
  | .precompile => ⟨precompileParameters, []⟩
  | .fetch => ⟨fetchParameters, []⟩

end Command

def helpCommand : String := "help"

def programScope : Scope :=
  ⟨[verboseParameter, helpParameter, versionParameter],
    Command.all.map Command.name ++ [helpCommand]⟩

/-! ## What was given -/

/-- The values of a parameter, in the order in which they were given. -/
def valuesOf (given : List Given) (name : String) : List ParameterValue :=
  (given.filter fun entry => entry.parameter.name == name).map Given.value

def isGiven (given : List Given) (name : String) : Bool :=
  !(valuesOf given name).isEmpty

def textsOf (given : List Given) (name : String) : List String :=
  (valuesOf given name).filterMap fun
    | .text value => some value
    | _ => none

def pathsOf (given : List Given) (name : String) : List Path :=
  (valuesOf given name).filterMap fun
    | .path value => some value
    | _ => none

def textOf? (given : List Given) (name : String) : Option String :=
  (textsOf given name).head?

def pathOf? (given : List Given) (name : String) : Option Path :=
  (pathsOf given name).head?

def durationOf? (given : List Given) (name : String) : Option Duration :=
  ((valuesOf given name).filterMap fun
    | .duration value => some value
    | _ => none).head?

def formatOf (given : List Given) : OutputFormat :=
  (((valuesOf given outputParameter.name).filterMap fun
    | .format value => some value
    | _ => none).head?).getD .text

/-- A list is a setting if it has a member. -/
def listed {α : Type} (items : List α) : Option (List α) :=
  if items.isEmpty then none else some items

/-- A switch that is given sets a value; one that is not leaves lower layers alone. -/
def switched {α : Type} (given : List Given) (name : String) (value : α) : Option α :=
  if isGiven given name then some value else none

/-- The layer of the parameters that both commands have. -/
def sharedLayer (given : List Given) : ConfigLayer where
  engineIdentifier := textOf? given "engine"
  cacheDirectory := pathOf? given "cache-dir"
  scriptDirectories := listed (pathsOf given "script-dir")
  offline := switched given "offline" true
  timeout := durationOf? given "timeout"

def Command.layer (command : Command) (given : List Given) : ConfigLayer :=
  match command with
  | .precompile =>
    { sharedLayer given with
      sourceDirectory := pathOf? given "source"
      outputDirectory := pathOf? given "output-dir"
      templateExtensions := listed (textsOf given "ext")
      preserveHierarchy := switched given "flatten" false
      purgeWhitespace := switched given "purge-whitespace" true
      knownHelpers := listed (textsOf given "known-helper")
      knownHelpersOnly := switched given "known-helpers-only" true
      encoding := textOf? given "encoding"
      outputExtension := textOf? given "output-extension"
      failurePolicy := switched given "keep-going" .collectAll
      dryRun := switched given "dry-run" true }
  | .fetch =>
    { sharedLayer given with
      engineUrl := textOf? given "url"
      engineUrlTemplate := textOf? given "url-template" }

/-! ## Invocations -/

/-- A command with what it was given. -/
structure Order where
  command : Command
  configPath : Option Path
  layer : ConfigLayer
  format : OutputFormat
deriving DecidableEq, Repr

inductive Invocation where
  | order (order : Order)
  /-- Help on the program, or on one command. -/
  | help (command : Option Command)
  | version
deriving DecidableEq, Repr

/-- The two ways of locating an engine cannot be given together. -/
def checkConflicts (given : List Given) : Reading Unit :=
  let remotes := (given.map Given.parameter).filter fun parameter =>
    parameter.name == urlParameter.name || parameter.name == urlTemplateParameter.name
  match remotes with
  | first :: second :: _ => .error (.conflict first second)
  | _ => .ok ()

def readCommand (command : Command) (arguments : List Bytes) : Reading Invocation := do
  match ← readArguments command.scope ReadState.initial arguments with
  | .complete given =>
    checkConflicts given
    return .order ⟨command, pathOf? given configParameter.name, command.layer given,
      formatOf given⟩
  | .help => return .help (some command)
  | .version => return .version
  | .command name _ _ => throw (.unknownCommand name)

/-- What the help command is asked about; commands have no commands of their own. -/
def readHelp (about : Option Command) : List Bytes → Reading Invocation
  | [] => .ok (.help about)
  | argument :: rest =>
    match about, argument.toString?.bind Command.ofName? with
    | none, some command => readHelp (some command) rest
    | _, _ => .error (.unknownCommand argument.toStringLossy)

/-- Reads the arguments of the program. -/
def readInvocation (arguments : List Bytes) : Reading Invocation := do
  match ← readArguments programScope ReadState.initial arguments with
  | .complete [] => throw .noArguments
  | .complete _ => throw (.missingCommand Environment.applicationName)
  | .help => return .help none
  | .version => return .version
  | .command name _ rest =>
    match Command.ofName? name with
    | some command => readCommand command rest
    | none => readHelp none rest

end TemplateBuild.CommandLine

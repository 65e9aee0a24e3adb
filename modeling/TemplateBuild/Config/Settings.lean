import TemplateBuild.Config.Error
import TemplateBuild.Config.Layer
import TemplateBuild.Encoding.Labels
import TemplateBuild.Environment
import TemplateBuild.HelperGate
import TemplateBuild.Layout
import TemplateBuild.Whitespace

/-!
# Settings of a run

What a stack of layers amounts to once defaults are filled in and the values are checked.
Fetching an engine needs only the provisioning part.
-/

set_option autoImplicit false

namespace TemplateBuild

/-- How the download location of an engine is found. -/
inductive Remote where
  /-- By its name in the JSON listing at a URL. -/
  | listing (url : String)
  /-- By putting its name into a URL template. -/
  | template (url : String)
deriving DecidableEq, Repr

structure Provisioning where
  scriptDirectories : List Path
  cacheDirectory : Path
  remote : Remote
  offline : Bool
  timeout : Duration
deriving DecidableEq, Repr

structure Settings where
  sourceDirectory : Path
  outputDirectory : Path
  templateExtensions : List String
  outputExtension : String
  hierarchy : Hierarchy
  whitespace : WhitespacePolicy
  /-- As configured, with order and repetition. -/
  knownHelpers : List String
  strictHelpers : Bool
  encoding : Encoding
  engine : String
  provisioning : Provisioning
  failurePolicy : FailurePolicy
  dryRun : Bool
deriving DecidableEq, Repr

def Settings.gate (settings : Settings) : HelperGate :=
  HelperGate.ofNames settings.knownHelpers settings.strictHelpers

def Settings.layout (settings : Settings) : Layout :=
  ⟨settings.outputDirectory, settings.hierarchy, settings.outputExtension⟩

namespace Provisioning

def defaultListing : String :=
  "https://api.github.com/repos/wycats/handlebars.js/downloads"

def defaultTimeout : Duration := Duration.ofSeconds 30

def placeholder : String := "\x7bname\x7d"

/-- Whether one text occurs in another. -/
def occursIn (pattern : List Char) : List Char → Bool
  | [] => pattern.isEmpty
  | first :: rest => pattern.isPrefixOf (first :: rest) || occursIn pattern rest

/-- Where nothing is configured. -/
def ofEnvironment (environment : Environment) : Provisioning where
  scriptDirectories := [environment.bundledScriptDirectory]
  cacheDirectory := environment.scriptCacheDirectory
  remote := .listing defaultListing
  offline := false
  timeout := defaultTimeout

end Provisioning

namespace ConfigLayer

def defaultEngine : String := "handlebars-1.0.12.min.js"

def defaultEncoding : String := "UTF-8"

def defaultTemplateExtensions : List String := ["html", "hbs"]

def defaultOutputExtension : String := "js"

def engine (layer : ConfigLayer) : String :=
  layer.engineIdentifier.getD defaultEngine

def remote (layer : ConfigLayer) : Except ConfigError Remote :=
  match layer.engineUrl, layer.engineUrlTemplate with
  | some _, some _ => .error .conflictingRemote
  | some url, none => .ok (.listing url)
  | none, some url =>
    if Provisioning.occursIn Provisioning.placeholder.toList url.toList then .ok (.template url)
    else .error (.invalidUrlTemplate url)
  | none, none => .ok (.listing Provisioning.defaultListing)

def checkedTimeout (layer : ConfigLayer) : Except ConfigError Duration :=
  match layer.timeout with
  | none => .ok Provisioning.defaultTimeout
  | some timeout =>
    if timeout.isZero then .error (.invalidValue "timeout" "must be greater than zero")
    else .ok timeout

def provisioning (layer : ConfigLayer) (environment : Environment) :
    Except ConfigError Provisioning := do
  let defaults := Provisioning.ofEnvironment environment
  let remote ← layer.remote
  let timeout ← layer.checkedTimeout
  return {
    scriptDirectories := layer.scriptDirectories.getD defaults.scriptDirectories
    cacheDirectory := layer.cacheDirectory.getD defaults.cacheDirectory
    remote := remote
    offline := layer.offline.getD false
    timeout := timeout }

/-- An extension without the dots it may have been given with. -/
def dropDots (extension : String) : String :=
  String.ofList (extension.toList.dropWhile (· == '.'))

def resolveEncoding (label : String) : Except ConfigError Encoding :=
  match Encoding.ofLabel? label with
  | some encoding => .ok encoding
  | none => .error (.unknownEncoding label)

def resolve (layer : ConfigLayer) (environment : Environment) : Except ConfigError Settings := do
  let provisioning ← layer.provisioning environment
  match layer.sourceDirectory with
  | none => .error .missingSource
  | some source =>
    let encoding ← resolveEncoding (layer.encoding.getD defaultEncoding)
    return {
      sourceDirectory := source
      outputDirectory := layer.outputDirectory.getD source
      templateExtensions :=
        (layer.templateExtensions.map (·.map dropDots)).getD defaultTemplateExtensions
      outputExtension := (layer.outputExtension.map dropDots).getD defaultOutputExtension
      hierarchy := if layer.preserveHierarchy.getD true then .preserve else .flatten
      whitespace := if layer.purgeWhitespace.getD false then .purge else .keep
      knownHelpers := layer.knownHelpers.getD []
      strictHelpers := layer.knownHelpersOnly.getD false
      encoding := encoding
      engine := layer.engine
      provisioning := provisioning
      failurePolicy := layer.failurePolicy.getD .failFast
      dryRun := layer.dryRun.getD false }

end ConfigLayer

end TemplateBuild

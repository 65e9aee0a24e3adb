import TemplateBuild.Duration
import TemplateBuild.Path

/-!
# Configuration layers

A layer holds what one source of configuration has to say: every setting may be absent.
Layers are stacked, later ones on top.  The two ways of locating an engine on the network
are one setting, so a layer that chooses either of them replaces both.
-/

set_option autoImplicit false

namespace TemplateBuild

/-- What happens when the engine rejects a template. -/
inductive FailurePolicy where
  /-- The run stops. -/
  | failFast
  /-- The template is left out, and the run fails at its end. -/
  | collectAll
deriving DecidableEq, Repr

namespace FailurePolicy

def label : FailurePolicy → String
  | .failFast => "fail-fast"
  | .collectAll => "collect-all"

def ofLabel? (label : String) : Option FailurePolicy :=
  if label = "fail-fast" then some .failFast
  else if label = "collect-all" then some .collectAll
  else none

end FailurePolicy

structure ConfigLayer where
  sourceDirectory : Option Path := none
  outputDirectory : Option Path := none
  templateExtensions : Option (List String) := none
  preserveHierarchy : Option Bool := none
  purgeWhitespace : Option Bool := none
  knownHelpers : Option (List String) := none
  knownHelpersOnly : Option Bool := none
  encoding : Option String := none
  engineIdentifier : Option String := none
  cacheDirectory : Option Path := none
  scriptDirectories : Option (List Path) := none
  engineUrl : Option String := none
  engineUrlTemplate : Option String := none
  offline : Option Bool := none
  timeout : Option Duration := none
  outputExtension : Option String := none
  failurePolicy : Option FailurePolicy := none
  dryRun : Option Bool := none
deriving DecidableEq, Repr

namespace ConfigLayer

def empty : ConfigLayer := {}

/-- Whether the layer says where engines are fetched from. -/
def choosesRemote (layer : ConfigLayer) : Bool :=
  layer.engineUrl.isSome || layer.engineUrlTemplate.isSome

/-- Puts `upper` on top of `lower`. -/
def merge (lower upper : ConfigLayer) : ConfigLayer where
  sourceDirectory := upper.sourceDirectory.or lower.sourceDirectory
  outputDirectory := upper.outputDirectory.or lower.outputDirectory
  templateExtensions := upper.templateExtensions.or lower.templateExtensions
  preserveHierarchy := upper.preserveHierarchy.or lower.preserveHierarchy
  purgeWhitespace := upper.purgeWhitespace.or lower.purgeWhitespace
  knownHelpers := upper.knownHelpers.or lower.knownHelpers
  knownHelpersOnly := upper.knownHelpersOnly.or lower.knownHelpersOnly
  encoding := upper.encoding.or lower.encoding
  engineIdentifier := upper.engineIdentifier.or lower.engineIdentifier
  cacheDirectory := upper.cacheDirectory.or lower.cacheDirectory
  scriptDirectories := upper.scriptDirectories.or lower.scriptDirectories
  engineUrl := if upper.choosesRemote then upper.engineUrl else lower.engineUrl
  engineUrlTemplate :=
    if upper.choosesRemote then upper.engineUrlTemplate else lower.engineUrlTemplate
  offline := upper.offline.or lower.offline
  timeout := upper.timeout.or lower.timeout
  outputExtension := upper.outputExtension.or lower.outputExtension
  failurePolicy := upper.failurePolicy.or lower.failurePolicy
  dryRun := upper.dryRun.or lower.dryRun

/-- All layers stacked, the first one at the bottom. -/
def stack (layers : List ConfigLayer) : ConfigLayer :=
  layers.foldl merge empty

end ConfigLayer

end TemplateBuild

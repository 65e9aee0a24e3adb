import TemplateBuild.Config.Settings

/-!
# Stacks of layers

Layers can be stacked in groups, and an empty layer changes nothing.  In a stack every setting is
as the last layer has it that sets it.  The two ways of locating an engine on the network are one
such setting, so whether they conflict is decided within one layer.
-/

set_option autoImplicit false

namespace TemplateBuild.ConfigLayer

variable {α : Type}

/-- The two ways of locating an engine on the network, of a layer that chooses any of them. -/
def remotes (layer : ConfigLayer) : Option (Option String × Option String) :=
  if layer.choosesRemote then some (layer.engineUrl, layer.engineUrlTemplate) else none

/-- The value of the last layer that sets a setting. -/
def lastSet (setting : ConfigLayer → Option α) (layers : List ConfigLayer) : Option α :=
  layers.reverse.findSome? setting

/-- The last layer that says where engines are fetched from. -/
def lastChoice (layers : List ConfigLayer) : Option ConfigLayer :=
  layers.reverse.find? choosesRemote

/-- A layer that has every setting as the last one of some layers that sets it. -/
structure Stacks (layers : List ConfigLayer) (layer : ConfigLayer) : Prop where
  sourceDirectory : layer.sourceDirectory = lastSet (·.sourceDirectory) layers
  outputDirectory : layer.outputDirectory = lastSet (·.outputDirectory) layers
  templateExtensions : layer.templateExtensions = lastSet (·.templateExtensions) layers
  preserveHierarchy : layer.preserveHierarchy = lastSet (·.preserveHierarchy) layers
  purgeWhitespace : layer.purgeWhitespace = lastSet (·.purgeWhitespace) layers
  knownHelpers : layer.knownHelpers = lastSet (·.knownHelpers) layers
  knownHelpersOnly : layer.knownHelpersOnly = lastSet (·.knownHelpersOnly) layers
  encoding : layer.encoding = lastSet (·.encoding) layers
  engineIdentifier : layer.engineIdentifier = lastSet (·.engineIdentifier) layers
  cacheDirectory : layer.cacheDirectory = lastSet (·.cacheDirectory) layers
  scriptDirectories : layer.scriptDirectories = lastSet (·.scriptDirectories) layers
  offline : layer.offline = lastSet (·.offline) layers
  timeout : layer.timeout = lastSet (·.timeout) layers
  outputExtension : layer.outputExtension = lastSet (·.outputExtension) layers
  failurePolicy : layer.failurePolicy = lastSet (·.failurePolicy) layers
  dryRun : layer.dryRun = lastSet (·.dryRun) layers
  engineUrl : layer.engineUrl = (lastChoice layers).bind (·.engineUrl)
  engineUrlTemplate : layer.engineUrlTemplate = (lastChoice layers).bind (·.engineUrlTemplate)

/-! ## Stacking in groups -/

theorem choosesRemote_merge (lower upper : ConfigLayer) :
    (merge lower upper).choosesRemote = (upper.choosesRemote || lower.choosesRemote) := by
  rw [choosesRemote, merge]
  cases chosen : upper.choosesRemote with
  | true =>
      simp only [if_true, Bool.true_or]
      exact chosen
  | false => simp only [Bool.false_eq_true, if_false, Bool.false_or, choosesRemote]

/-- Choosing a remote is one setting. -/
theorem remotes_merge (lower upper : ConfigLayer) :
    (merge lower upper).remotes = upper.remotes.or lower.remotes := by
  rw [remotes, remotes, remotes, choosesRemote_merge, merge]
  cases upper.choosesRemote with
  | true => rfl
  | false => rfl

theorem merge_assoc (lower middle upper : ConfigLayer) :
    merge (merge lower middle) upper = merge lower (merge middle upper) := by
  rw [merge, merge.eq_def lower (merge middle upper), choosesRemote_merge]
  simp only [merge, Option.or_assoc]
  cases upper.choosesRemote <;> simp

theorem empty_merge (layer : ConfigLayer) : merge empty layer = layer := by
  have url : (if layer.choosesRemote = true then layer.engineUrl else none) = layer.engineUrl := by
    rw [choosesRemote]
    cases layer.engineUrl <;> simp
  have template : (if layer.choosesRemote = true then layer.engineUrlTemplate else none) =
      layer.engineUrlTemplate := by
    rw [choosesRemote]
    cases layer.engineUrlTemplate <;> simp
  simp only [merge, empty, Option.or_none, url, template]

theorem merge_empty (layer : ConfigLayer) : merge layer empty = layer := by
  simp [merge, empty, choosesRemote]

/-! ## The last one that sets a setting -/

/-- A setting for which the upper of two layers counts. -/
theorem setting_foldl {setting : ConfigLayer → Option α}
    (upperFirst : ∀ lower upper, setting (merge lower upper) = (setting upper).or (setting lower))
    (layers : List ConfigLayer) (lower : ConfigLayer) :
    setting (layers.foldl merge lower) = (lastSet setting layers).or (setting lower) := by
  induction layers generalizing lower with
  | nil => rfl
  | cons layer rest ih =>
      rw [List.foldl_cons, ih, upperFirst, lastSet, lastSet, List.reverse_cons,
        List.findSome?_append, List.findSome?_singleton, Option.or_assoc]

theorem setting_stack (setting : ConfigLayer → Option α) (unset : setting empty = none)
    (upperFirst : ∀ lower upper, setting (merge lower upper) = (setting upper).or (setting lower))
    (layers : List ConfigLayer) : setting (stack layers) = lastSet setting layers := by
  rw [stack, setting_foldl upperFirst, unset, Option.or_none]

theorem remotes_stack (layers : List ConfigLayer) : (stack layers).remotes =
    (lastChoice layers).map fun layer => (layer.engineUrl, layer.engineUrlTemplate) := by
  rw [setting_stack remotes rfl remotes_merge, lastSet, lastChoice]
  induction layers.reverse with
  | nil => rfl
  | cons layer rest ih =>
      rw [List.findSome?_cons, List.find?_cons, remotes]
      cases layer.choosesRemote with
      | true => rfl
      | false => exact ih

theorem engineUrl_eq (layer : ConfigLayer) : layer.engineUrl = layer.remotes.bind (·.1) := by
  rw [remotes]
  cases url : layer.engineUrl <;> cases template : layer.engineUrlTemplate <;>
    simp [choosesRemote, url, template]

theorem engineUrlTemplate_eq (layer : ConfigLayer) :
    layer.engineUrlTemplate = layer.remotes.bind (·.2) := by
  rw [remotes]
  cases url : layer.engineUrl <;> cases template : layer.engineUrlTemplate <;>
    simp [choosesRemote, url, template]

theorem stacks_stack (layers : List ConfigLayer) : Stacks layers (stack layers) where
  sourceDirectory := setting_stack (·.sourceDirectory) rfl (fun _ _ => rfl) layers
  outputDirectory := setting_stack (·.outputDirectory) rfl (fun _ _ => rfl) layers
  templateExtensions := setting_stack (·.templateExtensions) rfl (fun _ _ => rfl) layers
  preserveHierarchy := setting_stack (·.preserveHierarchy) rfl (fun _ _ => rfl) layers
  purgeWhitespace := setting_stack (·.purgeWhitespace) rfl (fun _ _ => rfl) layers
  knownHelpers := setting_stack (·.knownHelpers) rfl (fun _ _ => rfl) layers
  knownHelpersOnly := setting_stack (·.knownHelpersOnly) rfl (fun _ _ => rfl) layers
  encoding := setting_stack (·.encoding) rfl (fun _ _ => rfl) layers
  engineIdentifier := setting_stack (·.engineIdentifier) rfl (fun _ _ => rfl) layers
  cacheDirectory := setting_stack (·.cacheDirectory) rfl (fun _ _ => rfl) layers
  scriptDirectories := setting_stack (·.scriptDirectories) rfl (fun _ _ => rfl) layers
  offline := setting_stack (·.offline) rfl (fun _ _ => rfl) layers
  timeout := setting_stack (·.timeout) rfl (fun _ _ => rfl) layers
  outputExtension := setting_stack (·.outputExtension) rfl (fun _ _ => rfl) layers
  failurePolicy := setting_stack (·.failurePolicy) rfl (fun _ _ => rfl) layers
  dryRun := setting_stack (·.dryRun) rfl (fun _ _ => rfl) layers
  engineUrl := by
    rw [engineUrl_eq, remotes_stack]
    cases lastChoice layers <;> rfl
  engineUrlTemplate := by
    rw [engineUrlTemplate_eq, remotes_stack]
    cases lastChoice layers <;> rfl

/-! ## Conflicts -/

theorem checkedTimeout_ne_conflict (layer : ConfigLayer) :
    layer.checkedTimeout ≠ .error .conflictingRemote := by
  rw [checkedTimeout]
  split
  · exact fun fails => by cases fails
  · split <;> exact fun fails => by cases fails

theorem remote_eq_conflict_iff (layer : ConfigLayer) : layer.remote = .error .conflictingRemote ↔
    layer.engineUrl.isSome = true ∧ layer.engineUrlTemplate.isSome = true := by
  rw [remote]
  cases layer.engineUrl with
  | some url => cases layer.engineUrlTemplate <;> simp
  | none =>
      cases layer.engineUrlTemplate with
      | none => simp
      | some template =>
          simp only [Option.isSome_none, Bool.false_eq_true, false_and, iff_false]
          split <;> exact fun fails => by cases fails

theorem provisioning_eq_conflict_iff (layer : ConfigLayer) (environment : Environment) :
    layer.provisioning environment = .error .conflictingRemote ↔
      layer.engineUrl.isSome = true ∧ layer.engineUrlTemplate.isSome = true := by
  rw [← remote_eq_conflict_iff, provisioning]
  cases layer.remote with
  | error error => simp [bind, Except.bind]
  | ok remote =>
      have timely := checkedTimeout_ne_conflict layer
      cases checked : layer.checkedTimeout with
      | ok timeout => simp [bind, Except.bind, pure, Except.pure]
      | error error =>
          rw [checked, ne_eq, Except.error.injEq] at timely
          simp [bind, Except.bind, timely]

/-- The laws of stacking.  Layers can be put together in groups, and an empty layer below or above
changes nothing.  In a stack every setting is as the last layer has it that sets it, and the two
remote settings are those of the last layer that sets any of them.  They conflict if this one layer
sets both. -/
theorem stack_laws :
    (∀ lower middle upper : ConfigLayer,
      merge (merge lower middle) upper = merge lower (merge middle upper)) ∧
    (∀ layer : ConfigLayer, merge empty layer = layer ∧ merge layer empty = layer) ∧
    ∀ layers : List ConfigLayer, Stacks layers (stack layers) ∧
      ∀ environment, (stack layers).provisioning environment = .error .conflictingRemote ↔
        ∃ layer, lastChoice layers = some layer ∧
          layer.engineUrl.isSome = true ∧ layer.engineUrlTemplate.isSome = true := by
  refine ⟨merge_assoc, fun layer => ⟨empty_merge layer, merge_empty layer⟩, ?_⟩
  intro layers
  have stacked := stacks_stack layers
  refine ⟨stacked, fun environment => ?_⟩
  rw [provisioning_eq_conflict_iff, stacked.engineUrl, stacked.engineUrlTemplate]
  cases lastChoice layers with
  | none => simp
  | some layer => simp

end TemplateBuild.ConfigLayer

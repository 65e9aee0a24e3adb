import TemplateBuild.Proofs.JavaScript.Options
import TemplateBuild.Proofs.Lua.Options

/-!
# The gate as engines see it

A Lua engine finds exactly the configured helpers to be known.  A JavaScript engine finds these and
everything that ordinary objects inherit, so that it accepts a call of `toString` under every gate.
-/

set_option autoImplicit false

namespace TemplateBuild.Sandbox

/-- Whatever machine the options are made on, an engine that keeps them as they are finds the
configured helpers to be known.  In Lua it finds no others.  In JavaScript a name that is not
configured is answered by what objects inherit, and is accepted where that counts as true. -/
theorem gate_as_seen (gate : HelperGate) :
    (∀ machine : Lua.Machine, ∃ options known later,
        Lua.Host.options gate machine = .done (.table options) later ∧
          Lua.Host.Presented gate options known later) ∧
      (∀ options known machine, Lua.Host.Presented gate options known machine → ∀ i,
        (∀ name, Lua.Host.knownHelper i (.table options) name machine =
          .done (.boolean (gate.isKnown name)) machine) ∧
        ∀ called, Lua.Host.rejects i (.table options) called machine =
          .done (gate.strictOnly && called.any fun name => !gate.isKnown name) machine) ∧
      (∀ machine : JavaScript.Machine, ∃ options known later,
        JavaScript.Host.options gate machine = .done (.object options) later ∧
          JavaScript.Host.Presented gate machine.prototypes.object options known later) ∧
      ∀ parent options known machine,
        JavaScript.Host.Presented gate parent options known machine → ∀ i,
          (∀ name, JavaScript.Host.knownHelper i (.object options) name machine =
            if gate.isKnown name then .done (.boolean true) machine
            else JavaScript.Access.inherited i (.object known) parent (Units.ofString name)
              machine) ∧
          ∀ called (truth : String → Bool), (∀ name ∈ "knownHelpersOnly" :: called,
            JavaScript.Host.inheritedTruth? machine parent name = some (truth name)) →
              JavaScript.Host.rejects i (.object options) called machine =
                .done ((gate.strictOnly || truth "knownHelpersOnly") &&
                  called.any fun name => !(gate.isKnown name || truth name)) machine := by
  refine ⟨Lua.Host.presented_of_options gate, ?_, JavaScript.Host.presented_of_options gate, ?_⟩
  · intro options known machine presented i
    exact ⟨Lua.Host.knownHelper_of_presented presented i,
      Lua.Host.rejects_of_presented presented i⟩
  · intro parent options known machine presented i
    exact ⟨JavaScript.Host.knownHelper_of_presented presented i, fun _ _ inherits =>
      JavaScript.Host.rejects_of_presented presented i inherits⟩

/-- Nothing is known, and only known helpers are allowed. -/
def closedGate : HelperGate :=
  ⟨[], true⟩

/-- The machine with what all objects inherit. -/
def machineWithObjects : JavaScript.Machine :=
  JavaScript.Machine.bare.after JavaScript.Library.storeObjects

/-- What ordinary objects inherit from there. -/
def ancestor : Nat :=
  machineWithObjects.prototypes.object

/-- The same machine with the options of that gate. -/
def presentedMachine : JavaScript.Machine :=
  { machineWithObjects with
    objects :=
      (machineWithObjects.objects.push (JavaScript.Host.knownObject closedGate ancestor)).push
        (JavaScript.Host.optionsObject closedGate ancestor machineWithObjects.objects.size) }

theorem inherits_toString : ∀ name ∈ ["knownHelpersOnly", "toString"],
    JavaScript.Host.inheritedTruth? presentedMachine ancestor name =
      some (name == "toString") := by
  decide +kernel

/-- A call of `toString` is not rejected, although no helper is known. -/
theorem toString_accepted :
    (closedGate.isKnown "toString" = false ∧ closedGate.strictOnly = true) ∧
      JavaScript.Host.options closedGate machineWithObjects =
        .done (.object (machineWithObjects.objects.size + 1)) presentedMachine ∧
      ∀ i, JavaScript.Host.rejects i (.object (machineWithObjects.objects.size + 1)) ["toString"]
        presentedMachine = .done false presentedMachine := by
  have presented : JavaScript.Host.Presented closedGate ancestor
      (machineWithObjects.objects.size + 1) machineWithObjects.objects.size presentedMachine :=
    ⟨getElem_last _ _ _, getElem_before_last _ _ _⟩
  refine ⟨⟨rfl, rfl⟩, JavaScript.Host.options_run closedGate machineWithObjects, fun i => ?_⟩
  exact ((gate_as_seen closedGate).2.2.2 _ _ _ _ presented i).2 ["toString"] (· == "toString")
    inherits_toString

end TemplateBuild.Sandbox

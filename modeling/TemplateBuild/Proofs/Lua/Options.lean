import Mathlib
import TemplateBuild.Lua.Host
import TemplateBuild.Proofs.Sandbox.Heap
import TemplateBuild.Proofs.Text.Utf8

/-!
# The options of a Lua engine

The known helpers are an object of the host.  Whatever text a script looks up there, the host
answers whether it is the name of a known helper.
-/

set_option autoImplicit false

namespace TemplateBuild.Lua.Host

open Lua.Action hiding pure bind

/-! ## The objects -/

def optionsTable (gate : HelperGate) (known : Nat) : ValueTable :=
  let entries := Table.empty.set (textKey "knownHelpers") (some (.object known))
  if gate.strictOnly then entries.set (textKey "knownHelpersOnly") (some (.boolean true))
  else entries

/-- The machine has the options of the gate, and the gate itself, as they were made. -/
structure Presented (gate : HelperGate) (options known : Nat) (machine : Machine) : Prop where
  options : machine.tables[options]? = some ⟨optionsTable gate known, none⟩
  known : machine.objects[known]? = some (.gate gate)

theorem get_optionsTable (gate : HelperGate) (known : Nat) :
    (optionsTable gate known).get? (textKey "knownHelpers") = some (.object known) ∧
      (optionsTable gate known).get? (textKey "knownHelpersOnly") =
        if gate.strictOnly then some (.boolean true) else none := by
  rw [optionsTable]
  cases gate.strictOnly with
  | true =>
      simp only [if_true]
      exact ⟨by cbv, by cbv⟩
  | false =>
      simp only [Bool.false_eq_true, if_false]
      exact ⟨by cbv, by cbv⟩

theorem rawSetNamed_last {machine : Machine} {tables : Array TableObject} {last : TableObject}
    (shape : machine.tables = tables.push last) (name : String) {value : Value}
    (present : value.isNil = false) :
    rawSetNamed tables.size name value machine = .done () { machine with
      tables := tables.push { last with
        entries := last.entries.set (textKey name) (some value) } } := by
  have held : stored value = some value := by
    rw [stored, present]
    rfl
  rw [← Sandbox.modify_last tables last fun object =>
    { object with entries := object.entries.set (textKey name) (some value) }, ← shape, ← held]
  rfl

theorem options_run (gate : HelperGate) (machine : Machine) :
    options gate machine = .done (.table machine.tables.size) { machine with
      tables := machine.tables.push ⟨optionsTable gate machine.objects.size, none⟩
      objects := machine.objects.push (.gate gate) } := by
  let entries : ValueTable := Table.empty.set (textKey "knownHelpers")
    (some (.object machine.objects.size))
  let filled : Machine := { machine with
    tables := machine.tables.push ⟨entries, none⟩
    objects := machine.objects.push (.gate gate) }
  let begun : Machine := { machine with
    tables := machine.tables.push ⟨Table.empty, none⟩
    objects := machine.objects.push (.gate gate) }
  have begins : begun.tables = machine.tables.push ⟨Table.empty, none⟩ := rfl
  have fills : filled.tables = machine.tables.push ⟨entries, none⟩ := rfl
  have names : rawSetNamed machine.tables.size "knownHelpers" (.object machine.objects.size) begun =
      .done () filled :=
    rawSetNamed_last begins _ rfl
  have marks : rawSetNamed machine.tables.size "knownHelpersOnly" (.boolean true) filled =
      .done () { filled with
        tables := machine.tables.push
          ⟨entries.set (textKey "knownHelpersOnly") (some (.boolean true)), none⟩ } :=
    rawSetNamed_last fills _ rfl
  change Outcome.bind (rawSetNamed machine.tables.size "knownHelpers"
    (.object machine.objects.size) begun) (fun _ =>
        if gate.strictOnly then
          Action.bind (rawSetNamed machine.tables.size "knownHelpersOnly" (.boolean true)) fun _ =>
            Action.pure (Value.table machine.tables.size)
        else Action.pure (Value.table machine.tables.size)) = _
  rw [names, Outcome.bind, optionsTable]
  cases gate.strictOnly with
  | true =>
      simp only [if_true]
      rw [Action.bind, marks]
      rfl
  | false => rfl

theorem presented_of_options (gate : HelperGate) (machine : Machine) :
    ∃ options known later, Host.options gate machine = .done (.table options) later ∧
      Presented gate options known later :=
  ⟨_, machine.objects.size, _, options_run gate machine, Array.getElem?_push_size,
    Array.getElem?_push_size⟩

/-! ## What an engine sees -/

/-- The entry of a helper among the known ones. -/
def knownHelper (i : Interpreter) (options : Value) (name : String) : Action Value :=
  Action.bind (Operator.index i options (.string "knownHelpers") none) fun known =>
    Operator.index i known (.string name) none

/-- An engine that, where only known helpers are allowed, rejects every template that calls a helper
without a true entry among them. -/
def rejects (i : Interpreter) (options : Value) (called : List String) : Action Bool :=
  Action.bind (Operator.index i options (.string "knownHelpersOnly") none) fun only =>
    if only.isTrue then
      called.anyM fun name =>
        Action.bind (knownHelper i options name) fun entry => Action.pure !entry.isTrue
    else Action.pure false

theorem askGate_string (gate : HelperGate) (name : String) (machine : Machine) :
    Operator.askGate gate (.string name) machine =
      .done (.boolean (gate.isKnown name)) machine := by
  have text : Operator.textOf? (.string name) = some (Bytes.ofString name) := rfl
  have read : Utf8.decode (Bytes.ofString name) = .ok name.toList := Utf8.decode_encode _
  unfold Operator.askGate
  rw [text]
  simp only
  rw [read]
  simp only
  rw [String.ofList_toList]
  rfl

theorem iterate_of_answer {σ β : Type} {step : σ → Action (Sum σ β)} {count : Nat} {state : σ}
    {machine later : Machine} {result : β}
    (answers : step state machine = .done (.inr result) later) :
    iterate step (count + 1) state machine = .done result later := by
  simp only [iterate, answers]

theorem index_gate (i : Interpreter) {gate : HelperGate} {known : Nat} {machine : Machine}
    (held : machine.objects[known]? = some (.gate gate)) (name : String) :
    Operator.index i (.object known) (.string name) none machine =
      .done (.boolean (gate.isKnown name)) machine := by
  have found : objectAt known machine = .done (.gate gate) machine := by
    rw [objectAt, held]
    rfl
  refine iterate_of_answer ?_
  change Action.bind (objectAt known) _ machine = _
  rw [Action.bind, found]
  change Action.bind (Operator.askGate gate (.string name)) _ machine = _
  rw [Action.bind, askGate_string]
  rfl

theorem handler_of_bare {entries : ValueTable} {address : Nat} {machine : Machine}
    (held : machine.tables[address]? = some ⟨entries, none⟩) (event : String) :
    handler (.table address) event machine = .done .nil machine := by
  have found : tableAt address machine = .done ⟨entries, none⟩ machine := by
    rw [tableAt, held]
    rfl
  have bare : metatableOf (.table address) machine = .done none machine := by
    unfold metatableOf
    change Action.bind (tableAt address) _ machine = _
    rw [Action.bind, found]
    rfl
  unfold handler
  change Action.bind (metatableOf (.table address)) _ machine = _
  rw [Action.bind, bare]
  rfl

/-- What a table without a metatable has under a name. -/
theorem index_table (i : Interpreter) {entries : ValueTable} {address : Nat} {machine : Machine}
    (held : machine.tables[address]? = some ⟨entries, none⟩) (name : String) :
    Operator.index i (.table address) (.string name) none machine =
      .done ((entries.get? (textKey name)).getD .nil) machine := by
  have found : rawGet address (.string name) machine =
      .done ((entries.get? (textKey name)).getD .nil) machine := by
    simp only [rawGet, held]
    rfl
  refine iterate_of_answer ?_
  change Action.bind (rawGet address (.string name)) _ machine = _
  rw [Action.bind, found, Outcome.bind]
  generalize (entries.get? (textKey name)).getD .nil = value
  cases value with
  | nil =>
      change Action.bind (handler (.table address) "__index") _ machine = _
      rw [Action.bind, handler_of_bare held]
      rfl
  | _ => rfl

section

variable {gate : HelperGate} {options known : Nat} {machine : Machine}
  (presented : Presented gate options known machine) (i : Interpreter)

include presented

theorem knownHelper_of_presented (name : String) :
    knownHelper i (.table options) name machine = .done (.boolean (gate.isKnown name)) machine := by
  have entry := index_table i presented.options "knownHelpers"
  rw [(get_optionsTable gate known).1] at entry
  rw [knownHelper, Action.bind, entry]
  exact index_gate i presented.known name

theorem knownHelpersOnly_of_presented :
    ∃ only, Operator.index i (.table options) (.string "knownHelpersOnly") none machine =
      .done only machine ∧ only.isTrue = gate.strictOnly := by
  have entry := index_table i presented.options "knownHelpersOnly"
  rw [(get_optionsTable gate known).2] at entry
  refine ⟨_, entry, ?_⟩
  cases gate.strictOnly <;> rfl

end

theorem anyM_run {names : List String} {test : String → Action Bool} {answer : String → Bool}
    {machine : Machine} (each : ∀ name ∈ names, test name machine = .done (answer name) machine) :
    names.anyM test machine = .done (names.any answer) machine := by
  induction names with
  | nil => rfl
  | cons name names ih =>
      rw [List.forall_mem_cons] at each
      change Action.bind (test name) _ machine = _
      rw [Action.bind, each.1, List.any_cons]
      cases answer name with
      | true => rfl
      | false =>
          rw [Bool.false_or]
          exact ih each.2

theorem rejects_of_presented {gate : HelperGate} {options known : Nat} {machine : Machine}
    (presented : Presented gate options known machine) (i : Interpreter) (called : List String) :
    rejects i (.table options) called machine =
      .done (gate.strictOnly && called.any fun name => !gate.isKnown name) machine := by
  have each : ∀ name ∈ called, Action.bind (knownHelper i (.table options) name)
      (fun entry => Action.pure !entry.isTrue) machine = .done (!gate.isKnown name) machine := by
    intro name _
    rw [Action.bind, knownHelper_of_presented presented]
    rfl
  obtain ⟨only, found, same⟩ := knownHelpersOnly_of_presented presented i
  rw [rejects, Action.bind, found, Outcome.bind, same]
  cases gate.strictOnly with
  | true =>
      rw [if_pos rfl, Bool.true_and]
      exact anyM_run each
  | false => rfl

end TemplateBuild.Lua.Host

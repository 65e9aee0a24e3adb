import Mathlib.Data.List.Basic
import TemplateBuild.JavaScript.Host
import TemplateBuild.JavaScript.Objects
import TemplateBuild.Proofs.Sandbox.Heap
import TemplateBuild.Proofs.Text.Units

/-!
# The options of a JavaScript engine

Storing a property makes it the property of its key and leaves those of all other keys alone.
What an object does not have itself is looked for along its chain of prototypes.

The known helpers are properties of an ordinary object.  A name without a property there is looked
for along the chain of prototypes, so what that object inherits counts as a known helper as well.
-/

set_option autoImplicit false

namespace TemplateBuild.JavaScript

open Action (placeOf? withProperty)

namespace Property

/-! ## Places -/

/-- The place of a key depends on the keys only. -/
theorem placeOf_eq (properties : Array (Units × Property)) (key : Units) :
    placeOf? properties key = (properties.map (·.1)).findIdx? (· == key) := by
  rw [Array.findIdx?_map]
  rfl

theorem key_of_placeOf {properties : Array (Units × Property)} {key : Units} {place : Nat}
    (found : placeOf? properties key = some place) :
    ∃ property, properties[place]? = some (key, property) := by
  obtain ⟨inside, same, _⟩ := Array.findIdx?_eq_some_iff_getElem.mp found
  refine ⟨properties[place].2, ?_⟩
  rw [Array.getElem?_eq_getElem inside]
  exact congrArg some (Prod.ext (eq_of_beq same) rfl)

theorem placeOf_replaced {properties : Array (Units × Property)} {key : Units} {place : Nat}
    (found : placeOf? properties key = some place) (property : Property) (other : Units) :
    placeOf? (properties.set! place (key, property)) other = placeOf? properties other := by
  obtain ⟨before, held⟩ := key_of_placeOf found
  have inside : place < (properties.map (·.1)).size := by
    rw [Array.size_map]
    exact (Array.getElem?_eq_some_iff.mp held).1
  have keys : (properties.set! place (key, property)).map (·.1) = properties.map (·.1) := by
    apply Array.ext_getElem?
    intro index
    rw [Array.set!_eq_setIfInBounds, Array.map_setIfInBounds, Array.getElem?_setIfInBounds]
    by_cases same : place = index
    · subst same
      rw [if_pos rfl, if_pos inside, Array.getElem?_map, held]
      rfl
    · rw [if_neg same]
  rw [placeOf_eq, keys, placeOf_eq]

/-! ## Storing -/

theorem storedIn_empty {object : Object} (empty : object.properties = #[]) (key : Units) :
    storedIn object key = none := by
  rw [storedIn, empty, placeOf?, Array.findIdx?_empty]
  rfl

/-- A property takes the place of the one that its key had. -/
theorem storedIn_replaced {object : Object} {key : Units} {place : Nat}
    (found : placeOf? object.properties key = some place) (property : Property) (other : Units) :
    storedIn { object with properties := object.properties.set! place (key, property) } other =
      if other = key then some property else storedIn object other := by
  obtain ⟨before, held⟩ := key_of_placeOf found
  have inside := (Array.getElem?_eq_some_iff.mp held).1
  simp only [storedIn]
  rw [placeOf_replaced found]
  by_cases same : other = key
  · subst same
    rw [if_pos rfl, found, Option.bind_some, Array.set!_eq_setIfInBounds,
      Array.getElem?_setIfInBounds, if_pos rfl, if_pos inside]
    rfl
  · rw [if_neg same]
    cases elsewhere : placeOf? object.properties other with
    | none => rfl
    | some index =>
        have apart : place ≠ index := by
          rintro rfl
          obtain ⟨_, heldThere⟩ := key_of_placeOf elsewhere
          rw [held] at heldThere
          cases heldThere
          exact same rfl
        rw [Option.bind_some, Option.bind_some, Array.set!_eq_setIfInBounds,
          Array.getElem?_setIfInBounds, if_neg apart]

/-- A property of a new key comes behind all others. -/
theorem storedIn_added {object : Object} {key : Units}
    (absent : placeOf? object.properties key = none) (property : Property) (other : Units) :
    storedIn { object with properties := object.properties.push (key, property) } other =
      if other = key then some property else storedIn object other := by
  simp only [storedIn]
  by_cases same : other = key
  · subst same
    have added : placeOf? (object.properties.push (other, property)) other =
        some object.properties.size := by
      rw [placeOf?] at absent
      rw [placeOf?, Array.findIdx?_push, absent, Option.none_or, if_pos (beq_self_eq_true other)]
    rw [if_pos rfl, added, Option.bind_some, Array.getElem?_push_size]
    rfl
  · have kept : placeOf? (object.properties.push (key, property)) other =
        placeOf? object.properties other := by
      rw [placeOf?, Array.findIdx?_push,
        if_neg (fun found => same (eq_of_beq found).symm), Option.or_none]
      rfl
    rw [if_neg same, kept]
    cases elsewhere : placeOf? object.properties other with
    | none => rfl
    | some index =>
        obtain ⟨_, held⟩ := key_of_placeOf elsewhere
        have inside := (Array.getElem?_eq_some_iff.mp held).1
        rw [Option.bind_some, Option.bind_some, Array.getElem?_push,
          if_neg (Nat.ne_of_lt inside)]

theorem storedIn_withProperty (key other : Units) (property : Property) (object : Object) :
    storedIn (withProperty key property object) other =
      if other = key then some property else storedIn object other := by
  rw [withProperty]
  cases found : placeOf? object.properties key with
  | some place => exact storedIn_replaced found property other
  | none => exact storedIn_added found property other

theorem kind_withProperty (key : Units) (property : Property) (object : Object) :
    (withProperty key property object).kind = object.kind := by
  rw [withProperty]
  split <;> rfl

theorem prototype_withProperty (key : Units) (property : Property) (object : Object) :
    (withProperty key property object).prototype = object.prototype := by
  rw [withProperty]
  split <;> rfl

end Property

/-! ## Reading a property -/

namespace Access

/-- What a script gets from a property of an object or of one that it inherits from.  A getter is
called for the object itself. -/
def answer (i : Interpreter) (object : Value) : Option (Nat × Property) → Action Value
  | none => return .undefined
  | some (_, ⟨.value found _, _, _⟩) => return found
  | some (_, ⟨.accessor .undefined _, _, _⟩) => return .undefined
  | some (_, ⟨.accessor getter _, _, _⟩) => i.call getter object []

/-- What a script gets under a key that an object does not have itself. -/
def inherited (i : Interpreter) (object : Value) (parent : Nat) (key : Units) : Action Value :=
  fun machine =>
    answer i object (Property.find? machine.objects key (longestChain - 1) parent) machine

theorem get_object (i : Interpreter) (address : Nat) (key : Units) (machine : Machine) :
    get i (.object address) key machine =
      answer i (.object address) (Property.find? machine.objects key longestChain address)
        machine := by
  change (match Property.find? machine.objects key longestChain address with
    | none => Action.pure Value.undefined
    | some (_, ⟨.value found _, _, _⟩) => Action.pure found
    | some (_, ⟨.accessor .undefined _, _, _⟩) => Action.pure .undefined
    | some (_, ⟨.accessor getter _, _, _⟩) => i.call getter (.object address) []) machine = _
  rcases Property.find? machine.objects key longestChain address with
    _ | ⟨_, ⟨_ | ⟨getter, _⟩, _, _⟩⟩
  · rfl
  · rfl
  · cases getter <;> rfl

section

variable {machine : Machine} {address : Nat} {object : Object}
  (held : machine.objects[address]? = some object) (plain : object.kind = .plain) {key : Units}

include held plain

theorem find_of_stored {property : Property} (stored : Property.storedIn object key = some property)
    (fuel : Nat) :
    Property.find? machine.objects key (fuel + 1) address = some (address, property) := by
  simp only [Property.find?, held, Property.own?, plain, stored]

theorem find_of_absent {parent : Nat} (absent : Property.storedIn object key = none)
    (inherits : object.prototype = some parent) (fuel : Nat) :
    Property.find? machine.objects key (fuel + 1) address =
      Property.find? machine.objects key fuel parent := by
  simp only [Property.find?, held, Property.own?, plain, absent, inherits]

theorem get_of_stored (i : Interpreter) {value : Value}
    (stored : Property.storedIn object key = some (.plain value)) :
    get i (.object address) key machine = .done value machine := by
  rw [get_object, longestChain, find_of_stored held plain stored 9999]
  rfl

theorem get_of_absent (i : Interpreter) {parent : Nat}
    (absent : Property.storedIn object key = none) (inherits : object.prototype = some parent) :
    get i (.object address) key machine = inherited i (.object address) parent key machine := by
  rw [get_object, longestChain, find_of_absent held plain absent inherits 9999]
  rfl

end

end Access

namespace Host

/-! ## The objects -/

/-- An object of its own without properties. -/
def emptyObject (parent : Nat) : Object :=
  ⟨.plain, some parent, #[], true⟩

def withKnown (object : Object) (name : String) : Object :=
  withProperty (Units.ofString name) (.plain (.boolean true)) object

def knownObject (gate : HelperGate) (parent : Nat) : Object :=
  gate.names.foldl withKnown (emptyObject parent)

def optionsObject (gate : HelperGate) (parent known : Nat) : Object :=
  let object := withProperty (Units.ofString "knownHelpers") (.plain (.object known))
    (emptyObject parent)
  if gate.strictOnly then withKnown object "knownHelpersOnly" else object

/-- The machine has the options of the gate, and the object of the known helpers, as they were
made. -/
structure Presented (gate : HelperGate) (parent options known : Nat) (machine : Machine) :
    Prop where
  options : machine.objects[options]? = some (optionsObject gate parent known)
  known : machine.objects[known]? = some (knownObject gate parent)

theorem storeNamed_last {machine : Machine} {objects : Array Object} {last : Object}
    (shape : machine.objects = objects.push last) (name : String) (value : Value) :
    storeNamed objects.size name value machine =
      .done () { machine with
        objects := objects.push (withProperty (Units.ofString name) (.plain value) last) } := by
  rw [← Sandbox.modify_last, ← shape]
  rfl

/-- By induction on the names; the object of the known helpers stays the last one. -/
theorem storeKnown_last {objects : Array Object} : ∀ (names : List String) (machine : Machine)
    (last : Object), machine.objects = objects.push last →
      (names.forM fun name => storeNamed objects.size name (.boolean true)) machine =
        .done () { machine with objects := objects.push (names.foldl withKnown last) } := by
  intro names
  induction names with
  | nil =>
      intro machine last shape
      rw [List.foldl_nil, ← shape]
      rfl
  | cons name names ih =>
      intro machine last shape
      have next := ih { machine with objects := objects.push (withKnown last name) }
        (withKnown last name) rfl
      change Action.bind (storeNamed objects.size name (.boolean true))
        (fun _ => names.forM fun name => storeNamed objects.size name (.boolean true)) machine = _
      rw [Action.bind, storeNamed_last shape]
      exact next

/-- Two objects are added, first that of the known helpers. -/
theorem options_run (gate : HelperGate) (machine : Machine) :
    options gate machine =
      .done (.object (machine.objects.size + 1)) { machine with
        objects := (machine.objects.push (knownObject gate machine.prototypes.object)).push
          (optionsObject gate machine.prototypes.object machine.objects.size) } := by
  let parent := machine.prototypes.object
  let filled : Array Object := machine.objects.push (knownObject gate parent)
  let named : Object := withProperty (Units.ofString "knownHelpers")
    (.plain (.object machine.objects.size)) (emptyObject parent)
  have size : filled.size = machine.objects.size + 1 := Array.size_push ..
  have fills : (gate.names.forM fun name => storeNamed machine.objects.size name (.boolean true))
      { machine with objects := machine.objects.push (emptyObject parent) } =
        .done () { machine with objects := filled } :=
    storeKnown_last gate.names { machine with objects := machine.objects.push (emptyObject parent) }
      (emptyObject parent) rfl
  have names : storeNamed filled.size "knownHelpers" (.object machine.objects.size)
      { machine with objects := filled.push (emptyObject parent) } =
        .done () { machine with objects := filled.push named } :=
    storeNamed_last rfl _ _
  have marks : storeNamed filled.size "knownHelpersOnly" (.boolean true)
      { machine with objects := filled.push named } =
        .done () { machine with objects := filled.push (withKnown named "knownHelpersOnly") } :=
    storeNamed_last rfl _ _
  change Action.bind (gate.names.forM fun name => storeNamed machine.objects.size name
    (.boolean true)) (fun _ => Action.bind Action.newPlain fun address =>
      Action.bind (storeNamed address "knownHelpers" (.object machine.objects.size)) fun _ =>
        if gate.strictOnly then
          Action.bind (storeNamed address "knownHelpersOnly" (.boolean true)) fun _ =>
            Action.pure (Value.object address)
        else Action.pure (Value.object address))
    { machine with objects := machine.objects.push (emptyObject parent) } = _
  rw [Action.bind, fills]
  change Action.bind (storeNamed filled.size "knownHelpers" (.object machine.objects.size))
    (fun _ => if gate.strictOnly then
      Action.bind (storeNamed filled.size "knownHelpersOnly" (.boolean true)) fun _ =>
        Action.pure (Value.object filled.size)
      else Action.pure (Value.object filled.size))
    { machine with objects := filled.push (emptyObject parent) } = _
  rw [Action.bind, names, optionsObject, ← size]
  cases gate.strictOnly with
  | true =>
      simp only [if_true]
      rw [Action.bind, marks]
      rfl
  | false => rfl

theorem presented_of_options (gate : HelperGate) (machine : Machine) :
    ∃ options known later, Host.options gate machine = .done (.object options) later ∧
      Presented gate machine.prototypes.object options known later :=
  ⟨_, machine.objects.size, _, options_run gate machine, Sandbox.getElem_last _ _ _,
    Sandbox.getElem_before_last _ _ _⟩

/-! ## Their properties -/

theorem storedIn_withKnown (object : Object) (known name : String) :
    Property.storedIn (withKnown object known) (Units.ofString name) =
      if name = known then some (.plain (.boolean true))
      else Property.storedIn object (Units.ofString name) := by
  rw [withKnown, Property.storedIn_withProperty]
  by_cases same : name = known
  · rw [if_pos same, if_pos (congrArg Units.ofString same)]
  · rw [if_neg same, if_neg fun units => same (Units.ofString_injective units)]

theorem storedIn_foldl (names : List String) (object : Object) (name : String) :
    Property.storedIn (names.foldl withKnown object) (Units.ofString name) =
      if name ∈ names then some (.plain (.boolean true))
      else Property.storedIn object (Units.ofString name) := by
  induction names generalizing object with
  | nil => rw [List.foldl_nil, if_neg List.not_mem_nil]
  | cons known names ih =>
      rw [List.foldl_cons, ih, storedIn_withKnown]
      by_cases later : name ∈ names
      · rw [if_pos later, if_pos (List.mem_cons_of_mem known later)]
      · by_cases same : name = known
        · rw [if_neg later, if_pos same, if_pos (same ▸ List.mem_cons_self)]
        · rw [if_neg later, if_neg same, if_neg (by simp [later, same])]

theorem kind_foldl (names : List String) (object : Object) :
    (names.foldl withKnown object).kind = object.kind := by
  induction names generalizing object with
  | nil => rfl
  | cons name names ih => rw [List.foldl_cons, ih, withKnown, Property.kind_withProperty]

theorem prototype_foldl (names : List String) (object : Object) :
    (names.foldl withKnown object).prototype = object.prototype := by
  induction names generalizing object with
  | nil => rfl
  | cons name names ih => rw [List.foldl_cons, ih, withKnown, Property.prototype_withProperty]

theorem storedIn_knownObject (gate : HelperGate) (parent : Nat) (name : String) :
    Property.storedIn (knownObject gate parent) (Units.ofString name) =
      if gate.isKnown name then some (.plain (.boolean true)) else none := by
  have absent : Property.storedIn (emptyObject parent) (Units.ofString name) = none :=
    Property.storedIn_empty rfl _
  rw [knownObject, storedIn_foldl, absent, HelperGate.isKnown]
  simp only [List.contains_iff_mem]

theorem kind_optionsObject (gate : HelperGate) (parent known : Nat) :
    (optionsObject gate parent known).kind = .plain := by
  rw [optionsObject]
  split
  · rw [withKnown, Property.kind_withProperty, Property.kind_withProperty]
    rfl
  · rw [Property.kind_withProperty]
    rfl

theorem prototype_optionsObject (gate : HelperGate) (parent known : Nat) :
    (optionsObject gate parent known).prototype = some parent := by
  rw [optionsObject]
  split
  · rw [withKnown, Property.prototype_withProperty, Property.prototype_withProperty]
    rfl
  · rw [Property.prototype_withProperty]
    rfl

theorem storedIn_optionsObject (gate : HelperGate) (parent known : Nat) :
    Property.storedIn (optionsObject gate parent known) (Units.ofString "knownHelpers") =
        some (.plain (.object known)) ∧
      Property.storedIn (optionsObject gate parent known) (Units.ofString "knownHelpersOnly") =
        if gate.strictOnly then some (.plain (.boolean true)) else none := by
  have other : Units.ofString "knownHelpersOnly" ≠ Units.ofString "knownHelpers" := by
    intro same
    exact absurd (Units.ofString_injective same) (by decide)
  have absent : Property.storedIn (emptyObject parent) (Units.ofString "knownHelpersOnly") = none :=
    Property.storedIn_empty rfl _
  rw [optionsObject]
  cases gate.strictOnly with
  | true =>
      simp only [if_true]
      rw [storedIn_withKnown, if_neg (by decide), storedIn_withKnown, if_pos rfl,
        Property.storedIn_withProperty, if_pos rfl]
      exact ⟨rfl, rfl⟩
  | false =>
      simp only [Bool.false_eq_true, if_false]
      rw [Property.storedIn_withProperty, if_pos rfl, Property.storedIn_withProperty, if_neg other]
      exact ⟨rfl, absent⟩

/-! ## What an engine sees -/

open Access (getNamed inherited)

/-- The entry of a helper among the known ones. -/
def knownHelper (i : Interpreter) (options : Value) (name : String) : Action Value :=
  Action.bind (getNamed i options "knownHelpers") fun known => getNamed i known name

section

variable {gate : HelperGate} {parent options known : Nat} {machine : Machine}
  (presented : Presented gate parent options known machine) (i : Interpreter)

include presented

theorem knownHelper_of_presented (name : String) :
    knownHelper i (.object options) name machine =
      if gate.isKnown name then .done (.boolean true) machine
      else inherited i (.object known) parent (Units.ofString name) machine := by
  have plain : (knownObject gate parent).kind = .plain := kind_foldl _ _
  have inherits : (knownObject gate parent).prototype = some parent := prototype_foldl _ _
  have stored := storedIn_knownObject gate parent name
  have entry : getNamed i (.object options) "knownHelpers" machine =
      .done (.object known) machine :=
    Access.get_of_stored presented.options (kind_optionsObject gate parent known) i
      (storedIn_optionsObject gate parent known).1
  rw [knownHelper, Action.bind, entry]
  simp only
  by_cases isKnown : gate.isKnown name = true
  · rw [if_pos isKnown] at stored ⊢
    exact Access.get_of_stored presented.known plain i stored
  · rw [if_neg isKnown] at stored ⊢
    exact Access.get_of_absent presented.known plain i stored inherits

theorem knownHelpersOnly_of_presented :
    getNamed i (.object options) "knownHelpersOnly" machine =
      if gate.strictOnly then .done (.boolean true) machine
      else inherited i (.object options) parent (Units.ofString "knownHelpersOnly") machine := by
  have plain := kind_optionsObject gate parent known
  have inherits := prototype_optionsObject gate parent known
  have stored := (storedIn_optionsObject gate parent known).2
  by_cases strict : gate.strictOnly = true
  · rw [if_pos strict] at stored ⊢
    exact Access.get_of_stored presented.options plain i stored
  · rw [if_neg strict] at stored ⊢
    exact Access.get_of_absent presented.options plain i stored inherits

end

/-! ## What an engine rejects -/

/-- An engine that, where only known helpers are allowed, rejects every template that calls a helper
without a true entry among them. -/
def rejects (i : Interpreter) (options : Value) (called : List String) : Action Bool :=
  Action.bind (getNamed i options "knownHelpersOnly") fun only =>
    if Operator.toBoolean only then
      called.anyM fun name =>
        Action.bind (knownHelper i options name) fun entry =>
          Action.pure !Operator.toBoolean entry
    else Action.pure false

/-- Whether a property counts as true, unless a getter decides it. -/
def truth? : Option (Nat × Property) → Option Bool
  | none => some false
  | some (_, ⟨.value found _, _, _⟩) => some (Operator.toBoolean found)
  | some (_, ⟨.accessor .undefined _, _, _⟩) => some false
  | some (_, ⟨.accessor _ _, _, _⟩) => none

/-- Whether what objects inherit under a name counts as true. -/
def inheritedTruth? (machine : Machine) (parent : Nat) (name : String) : Option Bool :=
  truth? (Property.find? machine.objects (Units.ofString name) (Access.longestChain - 1) parent)

theorem answer_of_truth (i : Interpreter) (object : Value) (machine : Machine)
    {found : Option (Nat × Property)} {truth : Bool} (counts : truth? found = some truth) :
    ∃ value, Access.answer i object found machine = .done value machine ∧
      Operator.toBoolean value = truth := by
  rcases found with _ | ⟨_, ⟨_ | ⟨getter, _⟩, _, _⟩⟩
  · cases counts
    exact ⟨.undefined, rfl, rfl⟩
  · cases counts
    exact ⟨_, rfl, rfl⟩
  · cases getter with
    | undefined =>
        cases counts
        exact ⟨.undefined, rfl, rfl⟩
    | null | boolean | number | text | object => cases counts

theorem anyM_run {names : List String} {test : String → Action Bool} {answer : String → Bool}
    {machine : Machine} (each : ∀ name ∈ names, test name machine = .done (answer name) machine) :
    names.anyM test machine = .done (names.any answer) machine := by
  induction names with
  | nil => rfl
  | cons name names ih =>
      rw [List.forall_mem_cons] at each
      change Action.bind (test name) _ machine = _
      rw [Action.bind, each.1, List.any_cons]
      cases answer name with
      | true => rfl
      | false =>
          rw [Bool.false_or]
          exact ih each.2

theorem rejects_of_presented {gate : HelperGate} {parent options known : Nat} {machine : Machine}
    (presented : Presented gate parent options known machine) (i : Interpreter)
    {called : List String} {truth : String → Bool}
    (inherits : ∀ name ∈ "knownHelpersOnly" :: called,
      inheritedTruth? machine parent name = some (truth name)) :
    rejects i (.object options) called machine =
      .done ((gate.strictOnly || truth "knownHelpersOnly") &&
        called.any fun name => !(gate.isKnown name || truth name)) machine := by
  rw [List.forall_mem_cons] at inherits
  obtain ⟨onlyInherits, inherits⟩ := inherits
  have only : ∃ value, getNamed i (.object options) "knownHelpersOnly" machine =
      .done value machine ∧
        Operator.toBoolean value = (gate.strictOnly || truth "knownHelpersOnly") := by
    rw [knownHelpersOnly_of_presented presented]
    cases gate.strictOnly with
    | true => exact ⟨.boolean true, rfl, rfl⟩
    | false => exact answer_of_truth i (.object options) machine onlyInherits
  have each : ∀ name ∈ called, Action.bind (knownHelper i (.object options) name)
      (fun entry => Action.pure !Operator.toBoolean entry) machine =
        .done (!(gate.isKnown name || truth name)) machine := by
    intro name member
    rw [Action.bind, knownHelper_of_presented presented]
    cases gate.isKnown name with
    | true => rfl
    | false =>
        obtain ⟨value, found, same⟩ :=
          answer_of_truth i (.object known) machine (inherits name member)
        simp only [Bool.false_eq_true, if_false, inherited, found, Bool.false_or, ← same]
        rfl
  obtain ⟨value, found, same⟩ := only
  rw [rejects, Action.bind, found]
  simp only
  rw [same]
  cases gate.strictOnly || truth "knownHelpersOnly" with
  | true =>
      rw [if_pos rfl, Bool.true_and]
      exact anyM_run each
  | false => rfl

end Host

end TemplateBuild.JavaScript

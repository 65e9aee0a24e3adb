import TemplateBuild.JavaScript.Value

/-!
# Actions of the machine

An action runs on the machine and ends with a value, with a thrown value, or because a limit
was reached.  What it changed before it threw stays changed.
-/

set_option autoImplicit false

namespace TemplateBuild.JavaScript

inductive Outcome (α : Type) where
  | done (value : α) (machine : Machine)
  | thrown (error : Value) (machine : Machine)
  | exhausted (machine : Machine)

def Action (α : Type) := Machine → Outcome α

namespace Action

@[inline] def pure {α : Type} (value : α) : Action α :=
  fun machine => .done value machine

@[inline] def bind {α β : Type} (action : Action α) (next : α → Action β) : Action β :=
  fun machine =>
    match action machine with
    | .done value machine => next value machine
    | .thrown error machine => .thrown error machine
    | .exhausted machine => .exhausted machine

instance : Monad Action where
  pure := Action.pure
  bind := Action.bind

instance {α : Type} : Inhabited (Action α) := ⟨fun machine => .exhausted machine⟩

@[inline] def machine : Action Machine :=
  fun machine => .done machine machine

@[inline] def change (update : Machine → Machine) : Action Unit :=
  fun machine => .done () (update machine)

def throwValue {α : Type} (error : Value) : Action α :=
  fun machine => .thrown error machine

def exhausted {α : Type} : Action α :=
  fun machine => .exhausted machine

/-- Runs an action and gives what it throws as a value. -/
def attempt {α : Type} (action : Action α) : Action (Except Value α) :=
  fun machine =>
    let depth := machine.depth
    match action machine with
    | .done value machine => .done (.ok value) machine
    | .thrown error machine => .done (.error error) { machine with depth := depth }
    | .exhausted machine => .exhausted machine

/-- Repeats a step until it answers; the count bounds the repetitions. -/
def iterate {σ β : Type} (step : σ → Action (Sum σ β)) : Nat → σ → Action β
  | 0, _ => exhausted
  | count + 1, state => fun machine =>
    match step state machine with
    | .done (.inl next) machine => iterate step count next machine
    | .done (.inr result) machine => .done result machine
    | .thrown error machine => .thrown error machine
    | .exhausted machine => .exhausted machine

/-- No script repeats a loop more often than this. -/
def endless : Nat := 1 <<< 62

/-- Functions of the script may call one another as deep as this. -/
def deepestCall : Nat := 511

/-- Runs an action one call deeper. -/
def deeper {α : Type} (action : Action α) : Action α := do
  let depth := (← machine).depth
  if depth ≥ deepestCall then exhausted
  else
    change fun machine => { machine with depth := depth + 1 }
    let result ← action
    change fun machine => { machine with depth := depth }
    return result

/-! ## Objects -/

def newObject (kind : ObjectKind) (prototype : Option Nat) : Action Nat :=
  fun machine => .done machine.objects.size
    { machine with objects := machine.objects.push ⟨kind, prototype, #[], true⟩ }

def objectAt (address : Nat) : Action Object :=
  fun machine => .done (machine.objects[address]?.getD default) machine

def changeObject (address : Nat) (update : Object → Object) : Action Unit :=
  change fun machine => { machine with objects := machine.objects.modify address update }

def newPlain : Action Nat := do
  newObject .plain (some (← machine).prototypes.object)

def newArray (elements : List Value) : Action Value := do
  return .object (← newObject (.array (elements.map some).toArray)
    (some (← machine).prototypes.array))

def newBuiltin (name : String) (held : List Value) : Action Value := do
  return .object (← newObject (.builtin name held) (some (← machine).prototypes.function))

/-- The place of a key among the properties. -/
def placeOf? (properties : Array (Units × Property)) (key : Units) : Option Nat :=
  properties.findIdx? fun entry => entry.1 == key

/-- Adds a property or replaces one in its place. -/
def withProperty (key : Units) (property : Property) (object : Object) : Object :=
  match placeOf? object.properties key with
  | some place => { object with properties := object.properties.set! place (key, property) }
  | none => { object with properties := object.properties.push (key, property) }

def storeProperty (address : Nat) (key : Units) (property : Property) : Action Unit :=
  changeObject address (withProperty key property)

def storeHidden (address : Nat) (name : String) (value : Value) : Action Unit :=
  storeProperty address (Units.ofString name) (.hidden value)

/-! ## Errors -/

def errorPrototype (kind : ErrorKind) : Action Nat := do
  let prototypes := (← machine).prototypes
  return (prototypes.errors.lookup kind).getD prototypes.object

def newError (kind : ErrorKind) (message : String) : Action Value := do
  let address ← newObject .failure (some (← errorPrototype kind))
  storeHidden address "message" (.string message)
  return .object address

def raiseError {α : Type} (kind : ErrorKind) (message : String) : Action α := do
  throwValue (← newError kind message)

def typeFault {α : Type} (message : String) : Action α :=
  raiseError .type message

/-! ## Scopes -/

def newScope (parent : Nat) (bindings : List (Name × Binding)) : Action Nat :=
  fun machine => .done machine.scopes.size
    { machine with scopes := machine.scopes.push ⟨bindings, some parent⟩ }

def scopeAt (address : Nat) : Action ScopeObject :=
  fun machine => .done (machine.scopes[address]?.getD default) machine

def changeScope (address : Nat) (update : ScopeObject → ScopeObject) : Action Unit :=
  change fun machine => { machine with scopes := machine.scopes.modify address update }

def replaceBinding (name : Name) (binding : Binding) :
    List (Name × Binding) → List (Name × Binding)
  | [] => [(name, binding)]
  | entry :: rest =>
    if entry.1 == name then (name, binding) :: rest else entry :: replaceBinding name binding rest

/-- Declares a name in a scope, or gives it a value there. -/
def bindIn (scope : Nat) (name : Name) (binding : Binding) : Action Unit :=
  changeScope scope fun object =>
    { object with bindings := replaceBinding name binding object.bindings }

/-- The innermost scope with a name, and what it is bound to. -/
def findBinding (scopes : Array ScopeObject) (name : Name) : Nat → Nat → Option (Nat × Binding)
  | 0, _ => none
  | fuel + 1, address =>
    match scopes[address]? with
    | none => none
    | some scope =>
      match scope.bindings.lookup name with
      | some binding => some (address, binding)
      | none =>
        match scope.parent with
        | some parent => findBinding scopes name fuel parent
        | none => none

def resolve (context : Context) (name : Name) : Action (Option (Nat × Binding)) := do
  let machine ← machine
  return findBinding machine.scopes name machine.scopes.size context.scope

end Action

end TemplateBuild.JavaScript

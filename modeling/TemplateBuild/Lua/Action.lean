import TemplateBuild.Lua.Value

/-!
# Actions of the machine

An action runs on the machine and ends in one of several ways: with a value, with an error,
or because the allowed depth was used up.  It may also pause, to hand values to the thread
that resumed it or to resume another one; then it carries how to go on.  What an action
changed before an error stays changed.
-/

set_option autoImplicit false

namespace TemplateBuild.Lua

inductive Outcome (α : Type) where
  | done (value : α) (machine : Machine)
  | raised (error : Value) (machine : Machine)
  | exhausted (machine : Machine)
  | yielding (values : List Value) (machine : Machine)
      (resume : List Value → Machine → Outcome α)
  | resuming (thread : Nat) (values : List Value) (machine : Machine)
      (proceed : Except Value (List Value) → Machine → Outcome α)

def Action (α : Type) := Machine → Outcome α

namespace Outcome

def bind {α β : Type} (outcome : Outcome α) (next : α → Action β) : Outcome β :=
  match outcome with
  | .done value machine => next value machine
  | .raised error machine => .raised error machine
  | .exhausted machine => .exhausted machine
  | .yielding values machine resume =>
    .yielding values machine fun values machine => bind (resume values machine) next
  | .resuming thread values machine proceed =>
    .resuming thread values machine fun result machine => bind (proceed result machine) next

/-- Turns an error into a value. -/
def attempt {α : Type} : Outcome α → Outcome (Except Value α)
  | .done value machine => .done (.ok value) machine
  | .raised error machine => .done (.error error) machine
  | .exhausted machine => .exhausted machine
  | .yielding values machine resume =>
    .yielding values machine fun values machine => attempt (resume values machine)
  | .resuming thread values machine proceed =>
    .resuming thread values machine fun result machine => attempt (proceed result machine)

end Outcome

namespace Action

@[inline] def pure {α : Type} (value : α) : Action α :=
  fun machine => .done value machine

@[inline] def bind {α β : Type} (action : Action α) (next : α → Action β) : Action β :=
  fun machine => (action machine).bind next

instance : Monad Action where
  pure := Action.pure
  bind := Action.bind

instance {α : Type} : Inhabited (Action α) := ⟨fun machine => .exhausted machine⟩

@[inline] def machine : Action Machine :=
  fun machine => .done machine machine

@[inline] def change (update : Machine → Machine) : Action Unit :=
  fun machine => .done () (update machine)

def raise {α : Type} (error : Value) : Action α :=
  fun machine => .raised error machine

def exhausted {α : Type} : Action α :=
  fun machine => .exhausted machine

/-- Runs an action and gives its error as a value; the frames are those from before. -/
def attempt {α : Type} (action : Action α) : Action (Except Value α) :=
  fun machine =>
    let frames := machine.frames
    (action machine).attempt.bind fun result =>
      fun later => .done result { later with frames := frames }

def yield (values : List Value) : Action (List Value) :=
  fun machine => .yielding values machine fun values machine => .done values machine

def resume (thread : Nat) (values : List Value) : Action (Except Value (List Value)) :=
  fun machine => .resuming thread values machine fun result machine => .done result machine

/-- Repeats a step until it answers; the count bounds the repetitions. -/
def iterate {σ β : Type} (step : σ → Action (Sum σ β)) : Nat → σ → Action β
  | 0, _ => exhausted
  | count + 1, state => fun machine =>
    match step state machine with
    | .done (.inl next) machine => iterate step count next machine
    | .done (.inr result) machine => .done result machine
    | .raised error machine => .raised error machine
    | .exhausted machine => .exhausted machine
    | outcome =>
      outcome.bind fun
        | .inl next => iterate step count next
        | .inr result => pure result

/-- No script repeats a loop more often than this. -/
def endless : Nat := 1 <<< 62

/-! ## The parts of the machine -/

def newCell (value : Value) : Action Nat :=
  fun machine => .done machine.cells.size { machine with cells := machine.cells.push value }

def cell (address : Nat) : Action Value :=
  fun machine => .done (machine.cells[address]?.getD .nil) machine

def setCell (address : Nat) (value : Value) : Action Unit :=
  change fun machine => { machine with cells := machine.cells.set! address value }

def newTable (entries : ValueTable) : Action Value :=
  fun machine => .done (.table machine.tables.size)
    { machine with tables := machine.tables.push ⟨entries, none⟩ }

def newFunction (object : FunctionObject) : Action Value :=
  fun machine => .done (.function machine.functions.size)
    { machine with functions := machine.functions.push object }

def newObject (object : HostObject) : Action Value :=
  fun machine => .done (.object machine.objects.size)
    { machine with objects := machine.objects.push object }

def newBuiltin (name : String) (cells : List Nat) : Action Value :=
  newFunction (.builtin name cells)

def tableAt (address : Nat) : Action TableObject :=
  fun machine => .done (machine.tables[address]?.getD ⟨Table.empty, none⟩) machine

def rawGet (address : Nat) (key : Value) : Action Value :=
  fun machine =>
    let value := match machine.tables[address]?, key.toKey? with
      | some object, some key => (object.entries.get? key).getD .nil
      | _, _ => .nil
    .done value machine

def stored (value : Value) : Option Value :=
  if value.isNil then none else some value

def rawSetKey (address : Nat) (key : Key ObjectKey) (value : Value) : Action Unit :=
  change fun machine => { machine with
    tables := machine.tables.modify address fun object =>
      { object with entries := object.entries.set key (stored value) } }

def rawGetNamed (address : Nat) (name : String) : Action Value :=
  rawGet address (.string name)

def rawSetNamed (address : Nat) (name : String) (value : Value) : Action Unit :=
  rawSetKey address (textKey name) value

/-- The length of a table without its metatable. -/
def rawLength (address : Nat) : Action Nat :=
  fun machine =>
    match machine.tables[address]? with
    | none => .done 0 machine
    | some object =>
      let (border, limit) := object.entries.borderAndLimit
      .done border { machine with
        tables := machine.tables.modify address fun object =>
          { object with entries := { object.entries with limit := limit } } }

def objectAt (address : Nat) : Action HostObject :=
  fun machine => .done (machine.objects[address]?.getD (.failure "")) machine

def functionAt (address : Nat) : Action FunctionObject :=
  fun machine => .done (machine.functions[address]?.getD (.builtin "" [])) machine

/-! ## Frames and positions -/

/-- Where the function at a level stands, counted from the running one, as messages begin. -/
def position (level : Nat) : Action Bytes := do
  match (← machine).frames[level]? with
  | some ⟨some chunk, line, _⟩ =>
    return chunk ++ Bytes.ofString (":" ++ toString line ++ ": ")
  | _ => return []

def setLine (line : Nat) : Action Unit :=
  change fun machine =>
    match machine.frames with
    | frame :: rest => { machine with frames := { frame with line := line } :: rest }
    | [] => machine

/-- Raises a message with the place where the running function stands. -/
def fault {α : Type} (message : String) : Action α := do
  raise (.text ((← position 0) ++ Bytes.ofString message))

/-- Raises a message for the function that called the running one. -/
def callerFault {α : Type} (message : String) : Action α := do
  raise (.text ((← position 1) ++ Bytes.ofString message))

/-- Runs an action with one more frame. -/
def within {α : Type} (frame : Frame) (action : Action α) : Action α := do
  change fun machine => { machine with frames := frame :: machine.frames }
  let result ← action
  change fun machine => { machine with frames := machine.frames.drop 1 }
  return result

/-! ## Metatables -/

def metatableOf (value : Value) : Action (Option Nat) := do
  match value with
  | .table address => return (← tableAt address).metatable
  | .text _ => return (← machine).textMetatable
  | _ => return none

/-- The handler of an event, or nil. -/
def handler (value : Value) (event : String) : Action Value := do
  match ← metatableOf value with
  | some address => rawGetNamed address event
  | none => return .nil

/-- The name of a value's type in messages; a metatable may give another one. -/
def shownType (value : Value) : Action String := do
  match value with
  | .object address =>
    match ← objectAt address with
    | .gate _ => return "HelperGate"
    | .failure _ => return "error"
    | .stream _ => return "FILE*"
  | .table _ =>
    match ← handler value "__name" with
    | .text name => return name.toStringLossy
    | _ => return "table"
  | _ => return value.typeName

end Action

end TemplateBuild.Lua

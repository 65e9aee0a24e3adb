import TemplateBuild.Lua.Library.Mathematics
import TemplateBuild.Lua.Library.Scripts
import TemplateBuild.Lua.Library.Surroundings
import TemplateBuild.Lua.Library.Tables
import TemplateBuild.Lua.Library.Threads
import TemplateBuild.Lua.Library.Unicode

/-!
# Running scripts

The interpreter of a depth takes one step and leaves the rest to that of the next lower depth;
where no depth is left the script has recursed too far.  Threads take turns: whoever resumes a
thread waits until it yields or ends.
-/

set_option autoImplicit false

namespace TemplateBuild.Lua

namespace Library

/-- The functions of a library with the library's name before theirs. -/
def qualified (library : String) (functions : Functions) : Functions :=
  functions.map fun (name, function) => (library ++ "." ++ name, function)

def scriptFunctions : Functions :=
  [("dofile", Scripts.doFile), ("load", Scripts.load), ("loadfile", Scripts.loadFile),
   ("require", Scripts.require), ("collectgarbage", Surroundings.count)]

/-- Functions that are no library's entries: those that iterate, and those of streams. -/
def innerFunctions : Functions :=
  [("ipairs next", Basic.ipairsNext), ("string gmatch next", Texts.gmatchNext),
   ("utf8 codes next", Unicode.codesNext true), ("utf8 lax codes next", Unicode.codesNext false),
   ("coroutine wrapped", Threads.wrapped)] ++
  qualified "stream" Surroundings.streamMethods

def all : Functions :=
  Basic.functions ++ scriptFunctions ++ innerFunctions ++
    qualified "string" Texts.functions ++ qualified "table" Tables.functions ++
    qualified "math" Mathematics.functions ++ qualified "utf8" Unicode.functions ++
    qualified "coroutine" Threads.functions ++ qualified "os" Surroundings.systemFunctions ++
    qualified "io" Surroundings.streamFunctions

def find? (name : String) : Option Builtin :=
  all.lookup name

end Library

namespace Interpreter

/-- Where no depth is left. -/
def overflowing : Interpreter :=
  ⟨fun _ _ => Action.fault "stack overflow", fun _ _ => Action.fault "stack overflow",
    fun _ _ => Action.fault "stack overflow", fun _ _ _ => Action.fault "stack overflow"⟩

/-- The interpreter that takes one step before another one goes on. -/
def above (lower : Interpreter) : Interpreter :=
  ⟨Step.one lower, Step.many lower, Step.statement lower, Step.call lower Library.find?⟩

def ofDepth (depth : Nat) : Interpreter :=
  Nat.repeat above depth overflowing

/-- Scripts may be nested, and may recurse, as deep as this. -/
def greatestDepth : Nat := 200000

def full : Interpreter :=
  ofDepth greatestDepth

end Interpreter

/-! ## Threads that take turns -/

/-- A thread that yielded, with how it goes on. -/
structure Sleeper where
  thread : Nat
  frames : List Frame
  proceed : List Value → Machine → Outcome (List Value)

/-- A thread that waits for the one that it resumed. -/
structure Resumer where
  thread : Nat
  frames : List Frame
  proceed : Except Value (List Value) → Machine → Outcome (List Value)

/-- Who runs, who waits for whom, and who sleeps. -/
structure Schedule where
  current : Nat
  outcome : Outcome (List Value)
  waiting : List Resumer
  asleep : List Sleeper

/-- How a run ended. -/
inductive Ending where
  | done (values : List Value)
  | raised (error : Value)
  | exhausted

namespace Schedule

def setStatus (thread : Nat) (status : ThreadStatus) (machine : Machine) : Machine :=
  { machine with
    threads := machine.threads.modify thread fun object => { object with status := status } }

/-- Hands a result to the thread that waits for the current one. -/
def handBack (schedule : Schedule) (result : Except Value (List Value)) (machine : Machine)
    (resumer : Resumer) (others : List Resumer) (asleep : List Sleeper) : Schedule :=
  let machine := setStatus resumer.thread .running
    { machine with frames := resumer.frames, running := machine.running.drop 1 }
  { schedule with
    current := resumer.thread
    outcome := resumer.proceed result machine
    waiting := others
    asleep }

def begin (i : Interpreter) (schedule : Schedule) (thread : Nat) (values : List Value)
    (machine : Machine)
    (proceed : Except Value (List Value) → Machine → Outcome (List Value)) : Schedule :=
  let resumer : Resumer := ⟨schedule.current, machine.frames, proceed⟩
  let waiting := resumer :: schedule.waiting
  let machine := setStatus thread .running (setStatus schedule.current .waiting
    { machine with running := thread :: machine.running })
  match schedule.asleep.find? fun sleeper => sleeper.thread == thread with
  | some sleeper =>
    { current := thread
      outcome := sleeper.proceed values { machine with frames := sleeper.frames }
      waiting
      asleep := schedule.asleep.filter fun sleeper => sleeper.thread != thread }
  | none =>
    let function := match machine.threads[thread]? with
      | some object => object.function
      | none => .nil
    { current := thread
      outcome := i.call function values none { machine with frames := [] }
      waiting
      asleep := schedule.asleep }

/-- One turn: the run is over, or another thread is running. -/
def turn (i : Interpreter) (schedule : Schedule) : Sum Schedule (Ending × Machine) :=
  match schedule.outcome with
  | .exhausted machine => .inr (.exhausted, machine)
  | .done values machine =>
    match schedule.waiting with
    | [] => .inr (.done values, machine)
    | resumer :: others =>
      .inl (handBack schedule (.ok values) (setStatus schedule.current .dead machine) resumer
        others schedule.asleep)
  | .raised error machine =>
    match schedule.waiting with
    | [] => .inr (.raised error, machine)
    | resumer :: others =>
      .inl (handBack schedule (.error error) (setStatus schedule.current .dead machine) resumer
        others schedule.asleep)
  | .yielding values machine proceed =>
    match schedule.waiting with
    | [] => .inr (.done values, machine)
    | resumer :: others =>
      .inl (handBack schedule (.ok values) (setStatus schedule.current .suspended machine) resumer
        others (⟨schedule.current, machine.frames, proceed⟩ :: schedule.asleep))
  | .resuming thread values machine proceed =>
    .inl (begin i schedule thread values machine proceed)

def run (i : Interpreter) : Nat → Schedule → Ending × Machine
  | 0, schedule =>
    match schedule.outcome with
    | .done _ machine | .raised _ machine | .exhausted machine => (.exhausted, machine)
    | .yielding _ machine _ | .resuming _ _ machine _ => (.exhausted, machine)
  | turns + 1, schedule =>
    match turn i schedule with
    | .inl next => run i turns next
    | .inr result => result

end Schedule

namespace Machine

/-! ## The start of a machine -/

/-- A machine with a table for global variables and the thread in which scripts begin. -/
def bare (surroundings : Surroundings) : Machine where
  tables := #[⟨Table.empty, none⟩]
  functions := #[]
  threads := #[⟨.nil, .running⟩]
  objects := #[]
  cells := #[]
  frames := []
  running := [0]
  globals := 0
  textMetatable := none
  written := []
  complained := []
  random := Library.Mathematics.seeded 1 0
  surroundings := surroundings

/-- Runs an action with the interpreter on a machine. -/
def run (machine : Machine) (action : Interpreter → Action (List Value)) : Ending × Machine :=
  let i := Interpreter.full
  Schedule.run i Action.endless
    ⟨0, action i { machine with frames := [], running := [0] }, [], []⟩

/-- The machine after an action that neither fails nor calls a script. -/
def after (machine : Machine) (action : Action Unit) : Machine :=
  match action machine with
  | .done _ machine | .raised _ machine | .exhausted machine => machine
  | .yielding _ machine _ | .resuming _ _ machine _ => machine

open Action in
/-- Stores functions under their names; messages know them by their qualified names. -/
def storeFunctions (address : Nat) (library : Option String) (functions : Library.Functions) :
    Action Unit :=
  functions.forM fun (name, _) => do
    let full := match library with
      | some library => library ++ "." ++ name
      | none => name
    rawSetNamed address name (← newBuiltin full [])

open Action in
/-- A table of functions and constants, which is a global variable. -/
def storeLibrary (library : String) (functions : Library.Functions)
    (constants : List (String × Value)) : Action (Option Nat) := do
  match ← newTable Table.empty with
  | .table address =>
    storeFunctions address (some library) functions
    constants.forM fun (name, value) => rawSetNamed address name value
    rawSetNamed (← machine).globals library (.table address)
    return some address
  | _ => return none

open Action in
/-- The libraries that every script may use. -/
def storeCommon : Action Unit := do
  let globals := (← machine).globals
  storeFunctions globals none Library.Basic.functions
  rawSetNamed globals "_G" (.table globals)
  rawSetNamed globals "_VERSION" (.string "Lua 5.4")
  let _ ← storeLibrary "table" Library.Tables.functions []
  let _ ← storeLibrary "math" Library.Mathematics.functions Library.Mathematics.constants
  let _ ← storeLibrary "utf8" Library.Unicode.functions
    [("charpattern", Library.Unicode.charPattern)]
  if let some texts ← storeLibrary "string" Library.Texts.functions [] then
    if let .table metatable ← newTable Table.empty then
      rawSetNamed metatable "__index" (.table texts)
      change fun machine => { machine with textMetatable := some metatable }

open Action in
/-- The libraries that reach outside the script, and the table of packages. -/
def storeOuter : Action Unit := do
  let globals := (← machine).globals
  storeFunctions globals none Library.scriptFunctions
  let _ ← storeLibrary "coroutine" Library.Threads.functions []
  let _ ← storeLibrary "os" Library.Surroundings.systemFunctions []
  let output ← newObject (.stream false)
  let complaints ← newObject (.stream true)
  let _ ← storeLibrary "io" Library.Surroundings.streamFunctions
    [("stderr", complaints), ("stdin", output), ("stdout", output)]
  let loaded ← newTable Table.empty
  let preload ← newTable Table.empty
  let _ ← storeLibrary "package" []
    [("config", .string "/\n;\n?\n!\n-\n"), ("loaded", loaded),
     ("path", .string Library.Scripts.defaultPath), ("preload", preload)]
  if let .table address := loaded then
    ["_G", "coroutine", "io", "math", "os", "package", "string", "table", "utf8"].forM fun name => do
      rawSetNamed address name (← rawGetNamed globals name)

/-- A machine whose scripts reach nothing outside themselves. -/
def restricted : Machine :=
  (bare ⟨⟨[]⟩, fun _ => .error .notFound⟩).after storeCommon

/-- A machine whose scripts may read files and variables of the environment. -/
def unrestricted (surroundings : Surroundings) : Machine :=
  (bare surroundings).after do
    storeCommon
    storeOuter

end Machine

end TemplateBuild.Lua

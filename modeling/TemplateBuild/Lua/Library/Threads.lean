import TemplateBuild.Lua.Library.Basic

/-!
# Functions on threads

A thread runs until it yields, and goes on when it is resumed.  The first thread is the one in
which a script begins.
-/

set_option autoImplicit false

namespace TemplateBuild.Lua.Library.Threads

open Action

def threadAt (address : Nat) : Action ThreadObject := do
  return (← machine).threads[address]?.getD ⟨.nil, .dead⟩

def setStatus (address : Nat) (status : ThreadStatus) : Action Unit :=
  change fun machine => { machine with
    threads := machine.threads.modify address fun thread => { thread with status := status } }

/-- The thread that is running; the first one if no other has been resumed. -/
def running : Action Nat := do
  return (← machine).running.headD 0

def newThread (function : Value) : Action Nat :=
  fun machine => .done machine.threads.size
    { machine with threads := machine.threads.push ⟨function, .suspended⟩ }

def threadArgument (arguments : List Value) : Action Nat := do
  match Argument.value arguments 1 with
  | .thread address => return address
  | _ => Argument.expected arguments 1 "thread"

def create : Builtin := fun _ _ arguments => do
  return [.thread (← newThread (← Argument.function arguments 1))]

/-- Resumes a thread that can be resumed. -/
def resumeThread (address : Nat) (values : List Value) : Action (Except Value (List Value)) := do
  match (← threadAt address).status with
  | .suspended => resume address values
  | .dead => return .error (.string "cannot resume dead coroutine")
  | _ => return .error (.string "cannot resume non-suspended coroutine")

def resumed : Builtin := fun _ _ arguments => do
  match ← resumeThread (← threadArgument arguments) (arguments.drop 1) with
  | .ok values => return .boolean true :: values
  | .error error => return [.boolean false, error]

def wrap : Builtin := fun _ _ arguments => do
  let address ← newThread (← Argument.function arguments 1)
  return [← newBuiltin "coroutine wrapped" [← newCell (.thread address)]]

/-- An error of the thread is told with the place of the call. -/
def wrapped : Builtin := fun _ cells arguments => do
  match ← cell (cells.headD 0) with
  | .thread address =>
    match ← resumeThread address arguments with
    | .ok values => return values
    | .error (.text text) => raise (.text ((← position 1) ++ text))
    | .error error => raise error
  | _ => return []

def yieldValues : Builtin := fun _ _ arguments => do
  if (← running) = 0 then callerFault "attempt to yield from outside a coroutine"
  yield arguments

def statusName : ThreadStatus → String
  | .suspended => "suspended"
  | .running => "running"
  | .waiting => "normal"
  | .dead => "dead"

def status : Builtin := fun _ _ arguments => do
  return [.string (statusName (← threadAt (← threadArgument arguments)).status)]

def isYieldable : Builtin := fun _ _ _ => do
  return [.boolean ((← running) != 0)]

def runningThread : Builtin := fun _ _ _ => do
  let address ← running
  return [.thread address, .boolean (address == 0)]

def close : Builtin := fun _ _ arguments => do
  let address ← threadArgument arguments
  match (← threadAt address).status with
  | .suspended | .dead =>
    setStatus address .dead
    return [.boolean true]
  | status => callerFault ("cannot close a " ++ statusName status ++ " coroutine")

def functions : Functions :=
  [("close", close), ("create", create), ("isyieldable", isYieldable), ("resume", resumed),
   ("running", runningThread), ("status", status), ("wrap", wrap), ("yield", yieldValues)]

end TemplateBuild.Lua.Library.Threads

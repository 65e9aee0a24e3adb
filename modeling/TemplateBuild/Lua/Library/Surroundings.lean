import TemplateBuild.Lua.Library.Basic

/-!
# What surrounds a script

Variables of the environment, standard streams, files to read, and the clock.  A script's clock
stands still.
-/

set_option autoImplicit false

namespace TemplateBuild.Lua.Library.Surroundings

open Action

def getEnvironment : Builtin := fun _ _ arguments => do
  let name ← Argument.text arguments 1
  let found := (← machine).surroundings.environment.get? name.toStringLossy
  return [(found.map Value.text).getD .nil]

def clock : Builtin := fun _ _ _ => return [.float 0.0]

def time : Builtin := fun _ _ _ => return [.integer 0]

def date : Builtin := fun _ _ _ => return [.string "Thu Jan  1 00:00:00 1970"]

def difference : Builtin := fun _ _ arguments => do
  return [.float ((← Argument.float arguments 1) - (← Argument.float arguments 2))]

def textsFrom (arguments : List Value) : Nat → Nat → Action (List Bytes)
  | 0, _ => return []
  | count + 1, position => do
    let text ← Argument.text arguments position
    return text :: (← textsFrom arguments count (position + 1))

def write : Builtin := fun _ _ arguments => do
  let texts ← textsFrom arguments arguments.length 1
  Basic.write texts.flatten
  return [← newObject (.stream false)]

def writeTo : Builtin := fun _ _ arguments => do
  let texts ← textsFrom arguments (arguments.length - 1) 2
  match Argument.value arguments 1 with
  | .object address =>
    match ← objectAt address with
    | .stream true => Basic.complain texts.flatten
    | _ => Basic.write texts.flatten
    return [.object address]
  | _ => Argument.expected arguments 1 "FILE*"

/-- A file that cannot be opened gives nil, the reason and its number. -/
def openFile : Builtin := fun _ _ arguments => do
  let path ← Argument.text arguments 1
  match (← machine).surroundings.readFile path with
  | .ok _ => return [← newObject (.stream false)]
  | .error failure =>
    let (reason, number) := failure.reason
    return [.nil, .text (path ++ Bytes.ofString (": " ++ reason)),
      .integer (Int64.ofNat (number.getD 22))]

def nothing : Builtin := fun _ _ _ => return [.nil]

def same : Builtin := fun _ _ arguments => return [Argument.value arguments 1]

def count : Builtin := fun _ _ arguments => do
  match ← Argument.textOr arguments 1 (Bytes.ofString "collect") with
  | text =>
    if text = Bytes.ofString "count" then return [.float 32.0]
    else if text = Bytes.ofString "isrunning" then return [.boolean true]
    else return [.integer 0]

def systemFunctions : Functions :=
  [("clock", clock), ("date", date), ("difftime", difference), ("getenv", getEnvironment),
   ("time", time)]

def streamFunctions : Functions :=
  [("open", openFile), ("read", nothing), ("write", write)]

def streamMethods : Functions :=
  [("close", nothing), ("flush", same), ("read", nothing), ("write", writeTo)]

end TemplateBuild.Lua.Library.Surroundings

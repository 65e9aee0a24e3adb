import TemplateBuild.HelperGate
import TemplateBuild.JavaScript.Display
import TemplateBuild.JavaScript.Interpreter
import TemplateBuild.Sandbox.Error

/-!
# Scripts and their host

The host loads scripts, runs others on the same machine, and takes texts from them.  What goes
wrong becomes a message, and the machine stays as the script left it.
-/

set_option autoImplicit false

namespace TemplateBuild.JavaScript.Host

open Action hiding pure bind

/-- Why an action has no result. -/
inductive Fault where
  | thrown (error : Value)
  | exhausted

def run {α : Type} (machine : Machine) (action : Interpreter → Action α) :
    Except Fault α × Machine :=
  match action Interpreter.full { machine with depth := 0 } with
  | .done value machine => (.ok value, machine)
  | .thrown error machine => (.error (.thrown error), machine)
  | .exhausted machine => (.error .exhausted, machine)

/-- What is said of a script that has called too deeply. -/
def exhaustedText : String :=
  "RuntimeLimit: exceeded maximum number of recursive calls"

/-- A fault as values are shown. -/
def shown (machine : Machine) : Fault → String
  | .thrown error => Display.value machine.objects Display.deepest 0 [] error
  | .exhausted => exhaustedText

/-- A fault as the script would write what was thrown. -/
def described (machine : Machine) (fault : Fault) : String × Machine :=
  match fault with
  | .exhausted => (exhaustedText, machine)
  | .thrown error =>
    match run machine fun i => Operator.toText i error with
    | (.ok text, machine) => (text.toString, machine)
    | (.error _, machine) => (shown machine fault, machine)

/-- Runs a text as a script of its own. -/
def execute (i : Interpreter) (source : String) : Action Value := do
  match parse source.toList with
  | .ok code => Step.script i code
  | .error fault => raiseError .ofSyntax fault.detail

/-- The text of what a script results in, after what has to be done before it. -/
def evaluateAfter (before : Interpreter → Action Unit) (source : String) (machine : Machine) :
    Except String String × Machine :=
  let (result, machine) := run machine fun i => do
    before i
    Operator.toText i (← execute i source)
  match result with
  | .ok text => (.ok text.toString, machine)
  | .error fault =>
    let (message, machine) := described machine fault
    (.error message, machine)

def evaluate (source : String) (machine : Machine) : Except String String × Machine :=
  evaluateAfter (fun _ => return ()) source machine

/-! ## Engines -/

/-- The script that tells whether the entry function is there. -/
def entryCheck : String :=
  "typeof " ++ entryObject ++ " === 'object' && " ++ entryObject ++ " !== null && typeof " ++
    entryObject ++ "." ++ entryFunction ++ " === 'function'"

/-- The script that compiles what `data` holds. -/
def entryCall : String :=
  entryObject ++ "." ++ entryFunction ++ "(String(data), options)"

/-- Runs an engine's script and makes sure that it defines the entry function. -/
def load (engine : String) (source : String) : Except SandboxError Machine :=
  match run Machine.fresh fun i => execute i source with
  | (.error fault, machine) => .error (.load engine (shown machine fault))
  | (.ok _, machine) =>
    match run machine fun i => execute i entryCheck with
    | (.error fault, machine) => .error (.load engine (shown machine fault))
    | (.ok ready, machine) =>
      if Operator.toBoolean ready then .ok machine else .error (.missingEntry engine)

def storeNamed (address : Nat) (name : String) (value : Value) : Action Unit :=
  storeProperty address (Units.ofString name) (.plain value)

/-- The options that an engine is given: an object whose properties are the known helpers, and
a mark if unknown helpers are errors. -/
def options (gate : HelperGate) : Action Value := do
  let known ← newPlain
  gate.names.forM fun name => storeNamed known name (.boolean true)
  let address ← newPlain
  storeNamed address "knownHelpers" (.object known)
  if gate.strictOnly then storeNamed address "knownHelpersOnly" (.boolean true)
  return .object address

/-- Gives the script its template and options as global variables. -/
def present (template : String) (gate : HelperGate) (i : Interpreter) : Action Unit := do
  let options ← options gate
  let globalObject := Value.object (← machine).globalObject
  Access.set i true globalObject (Units.ofString "data") (.string template)
  Access.set i true globalObject (Units.ofString "options") options

/-- Compiles a template to a fragment. -/
def compile (template : String) (gate : HelperGate) (machine : Machine) :
    Except String String × Machine :=
  evaluateAfter (present template gate) entryCall machine

end TemplateBuild.JavaScript.Host

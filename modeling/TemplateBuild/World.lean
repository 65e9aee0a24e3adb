import TemplateBuild.FileTree.Change
import TemplateBuild.Http.Network
import TemplateBuild.Sandbox.Output

/-!
# What a run acts on

The files, the network, the warnings given so far, and what scripts have said.  An effect
changes them and gives a value or an error; what it changed before an error stays changed.
-/

set_option autoImplicit false

namespace TemplateBuild

inductive Warning where
  /-- A template whose name an earlier one of its bundle has too. -/
  | duplicateName (directory : Path) (name : String) (path : Path)
  /-- A template that the engine did not accept and that was left out. -/
  | rejected (template : Path) (fault : String)
deriving DecidableEq, Repr

structure World where
  files : FileTree
  network : Network
  /-- In the order in which they were given. -/
  warnings : List Warning
  said : ScriptOutput

namespace World

/-- Before anything has happened. -/
def initial (files : FileTree) (network : Network) : World :=
  ⟨files, network, [], ScriptOutput.none⟩

end World

abbrev Effect (ε α : Type) := ExceptT ε (StateM World) α

namespace Effect

variable {ε α : Type}

def files : Effect ε FileTree := do
  return (← get).files

def setFiles (files : FileTree) : Effect ε Unit :=
  modify fun world => { world with files := files }

def warn (warning : Warning) : Effect ε Unit :=
  modify fun world => { world with warnings := world.warnings ++ [warning] }

def warnAll (warnings : List Warning) : Effect ε Unit :=
  modify fun world => { world with warnings := world.warnings ++ warnings }

/-- Passes on what a script has written. -/
def say (output : ScriptOutput) : Effect ε Unit :=
  modify fun world => { world with said := world.said ++ output }

/-- Changes the files; a failure becomes an error. -/
def change (onFailure : FileFailure → ε)
    (operation : FileTree → Except FileFailure Unit × FileTree) : Effect ε Unit := do
  let (result, files) := operation (← files)
  setFiles files
  match result with
  | .ok () => return ()
  | .error failure => throw (onFailure failure)

def exchange (request : Request) : Effect ε Exchange := do
  let (answer, network) := (← get).network.exchange request
  modify fun world => { world with network := network }
  return answer

/-- Errors of one kind as errors of another. -/
def mapError {ε' : Type} (onError : ε → ε') (effect : Effect ε α) : Effect ε' α :=
  ExceptT.adapt onError effect

def run (effect : Effect ε α) (world : World) : Except ε α × World :=
  StateT.run (ExceptT.run effect) world

end Effect

end TemplateBuild

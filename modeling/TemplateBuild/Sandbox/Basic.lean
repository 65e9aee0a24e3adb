import TemplateBuild.Engine.Identity
import TemplateBuild.JavaScript.Host
import TemplateBuild.Lua.Host

/-!
# Sandboxes

A sandbox holds an engine that has been loaded, and compiles templates with it one after the
other.  The engine's own global state goes from one template to the next.
-/

set_option autoImplicit false

namespace TemplateBuild

inductive Sandbox where
  | javaScript (machine : JavaScript.Machine)
  | lua (machine : Lua.Machine)

namespace Sandbox

def language : Sandbox → ScriptLanguage
  | .javaScript _ => .javaScript
  | .lua _ => .lua

/-- Loads an engine; its name tells the language of the script. -/
def load (engine source : String) : Except SandboxError Sandbox × ScriptOutput :=
  match ScriptLanguage.ofEngine engine with
  | .javaScript => ((JavaScript.Host.load engine source).map .javaScript, ScriptOutput.none)
  | .lua =>
    let (result, machine) := Lua.Host.load engine (Bytes.ofString source)
    let (said, machine) := Lua.Host.takeOutput machine
    (result.map fun () => .lua machine, said)

/-- Compiles a template to a fragment, or gives the engine's own message. -/
def compile (template : String) (gate : HelperGate) :
    Sandbox → Except String String × ScriptOutput × Sandbox
  | .javaScript machine =>
    let (result, machine) := JavaScript.Host.compile template gate machine
    (result, ScriptOutput.none, .javaScript machine)
  | .lua machine =>
    let (result, machine) := (Lua.Host.compile template gate).run machine
    let (said, machine) := Lua.Host.takeOutput machine
    (result, said, .lua machine)

end Sandbox

end TemplateBuild

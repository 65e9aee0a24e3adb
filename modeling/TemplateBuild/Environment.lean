import TemplateBuild.Path

/-!
# Environment and default directories

The variables that decide where engine scripts are looked for when nothing is configured.
-/

set_option autoImplicit false

namespace TemplateBuild

structure Environment where
  entries : List (String × Bytes)
deriving DecidableEq, Repr

namespace Environment

def get? (environment : Environment) (name : String) : Option Bytes :=
  environment.entries.lookup name

/-- A variable whose value is text; one that is not UTF-8 counts as unset. -/
def text? (environment : Environment) (name : String) : Option Path :=
  match environment.get? name with
  | some value => if value.toString?.isSome then some ⟨value⟩ else none
  | none => none

/-- The name under which the program keeps its directories. -/
def applicationName : String := "tmplc"

def applicationVersion : String := "0.1.0"

def home (environment : Environment) : Path :=
  match environment.get? "HOME" with
  | some value => ⟨value⟩
  | none => ⟨[]⟩

def configDirectory (environment : Environment) : Path :=
  let base := (environment.text? "XDG_CONFIG_HOME").getD
    (environment.home.join (Path.ofString ".config"))
  base.join (Path.ofString applicationName)

def cacheDirectory (environment : Environment) : Path :=
  let base := (environment.text? "XDG_CACHE_HOME").getD
    (environment.home.join (Path.ofString ".cache"))
  base.join (Path.ofString applicationName)

def cacheVariable : String := "TMPLC_CACHE_DIR"

/-- Where fetched engine scripts are kept: the directory that the cache variable names, or
one below the user's cache. -/
def scriptCacheDirectory (environment : Environment) : Path :=
  match environment.get? cacheVariable with
  | some (first :: rest) => ⟨first :: rest⟩
  | _ => environment.cacheDirectory.join (Path.ofString "script")

/-- Where engine scripts of an installation are looked for. -/
def bundledScriptDirectory (environment : Environment) : Path :=
  environment.configDirectory.join (Path.ofString "script")

end Environment

end TemplateBuild

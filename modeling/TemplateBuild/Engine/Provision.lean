import TemplateBuild.Config.Settings
import TemplateBuild.Engine.Fetch
import TemplateBuild.Engine.Identity

/-!
# Provisioning

An engine is taken from the first script directory that has it, else from the cache, else it
is fetched into the cache.
-/

set_option autoImplicit false

namespace TemplateBuild

/-- A file in the cache directory. -/
structure CacheEntry where
  directory : Path
  name : String
deriving DecidableEq, Repr

namespace CacheEntry

def path (entry : CacheEntry) : Path :=
  entry.directory.join (Path.ofString entry.name)

def isHit (entry : CacheEntry) (files : FileTree) : Bool :=
  files.isFile entry.path

def ensureDirectory (entry : CacheEntry) : Effect ProvisionError Unit :=
  Effect.change (.cache entry.directory) fun files => files.makeDirectories entry.directory

end CacheEntry

namespace Provisioning

def replaceIn (pattern replacement : List Char) : List Char → List Char
  | [] => []
  | first :: rest =>
    if pattern ≠ [] ∧ pattern.isPrefixOf (first :: rest) then
      replacement ++ replaceIn pattern replacement (rest.drop (pattern.length - 1))
    else first :: replaceIn pattern replacement rest
termination_by text => text.length
decreasing_by all_goals (simp; try omega)

/-- A URL template with an engine's name in all its places. -/
def fill (template engine : String) : String :=
  String.ofList (replaceIn placeholder.toList engine.toList template.toList)

def findBundled (provisioning : Provisioning) (files : FileTree) (engine : String) :
    Option Path :=
  (provisioning.scriptDirectories.map fun directory =>
    directory.join (Path.ofString engine)).find? files.isFile

def cacheEntry (provisioning : Provisioning) (engine : String) : CacheEntry :=
  ⟨provisioning.cacheDirectory, engine⟩

/-- Where the script of an engine is downloaded from. -/
def downloadUrl (provisioning : Provisioning) (engine : String) : Effect ProvisionError String :=
  match provisioning.remote with
  | .listing url => Fetch.lookup url engine
  | .template url => return fill url engine

/-- Downloads the script of an engine into the cache. -/
def fetch (provisioning : Provisioning) (engine : String) : Effect ProvisionError Path := do
  let entry := provisioning.cacheEntry engine
  let url ← provisioning.downloadUrl engine
  entry.ensureDirectory
  let _ ← Fetch.download url entry.path
  return entry.path

/-- Finds the script of an engine, or gets it. -/
def resolve (provisioning : Provisioning) (engine : String) : Effect ProvisionError Engine := do
  if !Engine.isPlainName engine then throw (.invalidName engine)
  let files ← Effect.files
  match provisioning.findBundled files engine with
  | some path => return ⟨engine, ⟨.bundled, path⟩⟩
  | none =>
    let entry := provisioning.cacheEntry engine
    if entry.isHit files then return ⟨engine, ⟨.cached, entry.path⟩⟩
    if provisioning.offline then throw (.offline engine provisioning.cacheDirectory)
    return ⟨engine, ⟨.fetched, ← provisioning.fetch engine⟩⟩

end Provisioning

namespace Engine

def source (engine : Engine) (files : FileTree) : Except FileFailure String :=
  files.textOf engine.location.path

end Engine

end TemplateBuild

import TemplateBuild.CommandLine.Execution

/-!
# The program

Reads the directories that a command may look into, executes the command on them, and writes
back what it changed.  The network counts as unreachable, so engines have to be at hand.
-/

set_option autoImplicit false

namespace TemplateBuild.Program

def bytesOfArray (content : ByteArray) : Bytes :=
  content.toList

def arrayOfBytes (bytes : Bytes) : ByteArray :=
  ⟨bytes.toArray⟩

/-- The place that an absolute path names. -/
def placeOf (path : String) : Place :=
  (Path.ofString path).normalNames

def pathText (place : Place) : String :=
  (FileTree.pathOf place).display

/-- The absolute path without links, if there is something at the path. -/
def resolved? (path : String) : IO (Option String) := do
  try
    return some (← IO.FS.realPath path).toString
  catch _ => return none

/-- What lies at a path that has no links on the way. -/
partial def loadAt (path : String) : IO (List (Place × Entry)) := do
  let metadata ← (← IO.FS.realPath path).metadata
  match metadata.type with
  | .dir =>
    let mut entries := [(placeOf path, Entry.directory)]
    for entry in ← (← IO.FS.realPath path).readDir do
      let inner := entry.path.toString
      match (← entry.path.symlinkMetadata).type with
      | .symlink =>
        let target := (← resolved? inner).getD "/dev/null/missing"
        entries := entries ++ [(placeOf inner, Entry.link (Path.ofString target))]
      | _ => entries := entries ++ (← loadAt inner)
    return entries
  | _ =>
    try
      return [(placeOf path, Entry.file (bytesOfArray (← IO.FS.readBinFile path)))]
    catch _ => return []

/-- The directories on the way to a place. -/
def wayTo (place : Place) : List (Place × Entry) :=
  ((List.range place.length).drop 1).map fun count => (place.take count, Entry.directory)

/-- Adds to a tree what lies at a path, unless it is known already. -/
def addTree (tree : FileTree) (path : String) : IO FileTree := do
  match ← resolved? path with
  | none => return tree
  | some path =>
    if (tree.entry? (placeOf path)).isSome then return tree
    let found := wayTo (placeOf path) ++ (← loadAt path)
    return found.foldl (fun tree (place, entry) =>
      if (tree.entry? place).isSome then tree else tree.store place entry) tree

def readEnvironment : IO Environment := do
  let names := ["HOME", "XDG_CONFIG_HOME", "XDG_CACHE_HOME", Environment.cacheVariable]
  let mut entries := []
  for name in names do
    if let some value ← IO.getEnv name then
      entries := entries ++ [(name, Bytes.ofString value)]
  return ⟨entries⟩

/-- Writes what is new or different. -/
def writeChanges (before after : FileTree) : IO Unit := do
  for (place, entry) in after.entries do
    if before.entry? place != some entry then
      match entry with
      | .directory => IO.FS.createDirAll (pathText place)
      | .file content => IO.FS.writeBinFile (pathText place) (arrayOfBytes content)
      | .link _ => pure ()

def run (arguments : List String) : IO UInt32 := do
  let started ← IO.monoNanosNow
  let environment ← readEnvironment
  let working := (← IO.currentDir).toString
  let roots := [working, environment.scriptCacheDirectory.display,
    environment.bundledScriptDirectory.display] ++ arguments
  let start : FileTree := ⟨[], placeOf working⟩
  let tree ← roots.foldlM addTree start
  let (completion, world) := CommandLine.execute environment (arguments.map Bytes.ofString)
    (World.initial tree Network.unreachable)
  writeChanges tree world.files
  let elapsed := Duration.ofNanos ((← IO.monoNanosNow) - started)
  let outcome := (completion.outcome elapsed).withScripts world.said
  (← IO.getStdout).write (arrayOfBytes outcome.output)
  (← IO.getStderr).write (arrayOfBytes outcome.errors)
  return UInt32.ofNat outcome.exitCode

end TemplateBuild.Program

def main (arguments : List String) : IO UInt32 :=
  TemplateBuild.Program.run arguments

import TemplateBuild.Walk.Bundle
import TemplateBuild.Walk.Error
import TemplateBuild.World

/-!
# Walking a source tree

Every real directory below the root is visited before the directories in it, and these in
increasing order of their names.  A directory that holds templates yields a bundle.  What is
below a directory is read when the directory is visited, so whoever takes the bundles may write
files on the way.  Links are not entered, but a root that is a link is.
-/

set_option autoImplicit false

namespace TemplateBuild

structure Walk where
  root : Path
  /-- Without leading dots, and not empty. -/
  extensions : List String
  layout : Layout
deriving DecidableEq, Repr

namespace Walk

def of (root : Path) (extensions : List String) (layout : Layout) : Walk :=
  let plain := extensions.map fun extension =>
    String.ofList (extension.toList.dropWhile (· == '.'))
  ⟨root, plain.filter fun extension => !extension.isEmpty, layout⟩

def isTemplateName (walk : Walk) (path : Path) : Bool :=
  match path.extension with
  | some extension => walk.extensions.any fun wanted => Bytes.ofString wanted == extension
  | none => false

/-- The templates directly in a directory, in increasing order of their names. -/
def templatesIn (walk : Walk) (files : FileTree) (directory : Path) (names : List Name) :
    List TemplateSource :=
  let paths := (FileTree.sortBy id names).map directory.joinName
  (paths.filter fun path => files.isFile path && walk.isTemplateName path).map
    TemplateSource.ofPath

/-- The bundle of a directory, which lies below the root by these names. -/
def bundleAt (walk : Walk) (files : FileTree) (directory : Path) (relative : List Name) :
    Except WalkError (Option Bundle) := do
  let names ← (files.listing directory).mapError (.listing directory)
  let templates := walk.templatesIn files directory names
  let below : Path := ⟨Path.joinSegments relative⟩
  let directoryName := (directory.fileName.map Bytes.toStringLossy).getD ""
  return if templates.isEmpty then none
    else some ⟨directory, below, walk.layout.outputFile below directoryName, templates⟩

/-- A warning for every template whose name was there before. -/
def collisions (directory : Path) : List String → List TemplateSource → List Warning
  | _, [] => []
  | seen, template :: rest =>
    let others := collisions directory (template.logicalName :: seen) rest
    if seen.contains template.logicalName then
      .duplicateName directory template.logicalName template.path :: others
    else others

/-- The real directories in a directory, in increasing order of their names. -/
def directoriesIn (files : FileTree) (directory : Path) : Except FileFailure (List Name) := do
  let place ← files.directoryOf directory
  return FileTree.sortBy id ((files.namesIn place).filter fun name =>
    files.isDirectoryAt (place ++ [name]))

/-- What a walk yields. -/
abbrev Item := Except WalkError Bundle

/-- Whoever takes what a walk yields. -/
structure Visitor (m : Type → Type) where
  files : m FileTree
  warn : List Warning → m Unit
  visit : Item → m Unit

variable {m : Type → Type} [Monad m]

def visitBundle (walk : Walk) (visitor : Visitor m) (directory : Path) (relative : List Name) :
    m Unit := do
  match walk.bundleAt (← visitor.files) directory relative with
  | .error error => visitor.visit (.error error)
  | .ok none => return ()
  | .ok (some bundle) =>
    visitor.warn (collisions bundle.sourceDirectory [] bundle.templates)
    visitor.visit (.ok bundle)

/-- Visits what is in a directory; `own` tells whether the directory itself yields a bundle. -/
def visitWithin (walk : Walk) (visitor : Visitor m) : Nat → Bool → Path → List Name → m Unit
  | 0, _, _, _ => return ()
  | depth + 1, own, directory, relative => do
    let below := directoriesIn (← visitor.files) directory
    if own then walk.visitBundle visitor directory relative
    match below with
    | .error failure => visitor.visit (.error (.traverse directory failure))
    | .ok names =>
      names.forM fun name =>
        walk.visitWithin visitor depth true (directory.joinName name) (relative ++ [name])

/-- A path cannot be longer than the system allows, so no directory lies deeper than this. -/
def greatestDepth : Nat := FileTree.longestPath + 1

/-- Visits the whole tree. -/
def visitAll (walk : Walk) (visitor : Visitor m) : m Unit := do
  let files ← visitor.files
  let failed := fun (failure : FileFailure) =>
    visitor.visit (.error (.traverse walk.root failure))
  match files.findItself walk.root with
  | .error failure => failed failure
  | .ok (_, .file _) => return ()
  | .ok (_, .directory) => walk.visitWithin visitor greatestDepth true walk.root []
  | .ok (_, .link _) =>
    match files.find walk.root with
    | .error failure => failed failure
    | .ok (_, .directory) => walk.visitWithin visitor greatestDepth false walk.root []
    | .ok _ => return ()

/-- Takes notes of what a walk through a tree that stays as it is yields. -/
def collector (files : FileTree) : Visitor (StateM (List Item × List Warning)) where
  files := return files
  warn := fun warnings => modify fun (items, seen) => (items, seen ++ warnings)
  visit := fun item => modify fun (items, seen) => (items ++ [item], seen)

/-- All that a walk yields, and the warnings that it gives. -/
def items (walk : Walk) (files : FileTree) : List Item × List Warning :=
  ((walk.visitAll (collector files)).run ([], [])).2

end Walk

end TemplateBuild

import TemplateBuild.FileTree.Reading

/-!
# Changing a file tree

Directories are created with all that is missing above them.  A file is written to a
temporary one beside it, which then takes its place: the steps are values, so that what can
be seen after each of them is the tree after a part of the list.
-/

set_option autoImplicit false

namespace TemplateBuild

namespace FileTree

/-! ## Directories -/

def makeDirectory (tree : FileTree) (path : Path) : Except FileFailure FileTree := do
  match ← tree.locateItself path with
  | .present _ _ => throw .exists
  | .absent directory name => return tree.store (directory ++ [name]) .directory

/-- A directory that is there already does for one that could not be created. -/
def acceptDirectory (tree : FileTree) (path : Path) (failure : FileFailure) :
    Except FileFailure Unit :=
  if tree.isDirectory path then .ok () else .error failure

/-- Creates a directory and what is missing above it. -/
def makeDirectoriesWithin (tree : FileTree) : Nat → Path → Except FileFailure Unit × FileTree
  | 0, _ => (.error .notFound, tree)
  | depth + 1, path =>
    if path.isEmpty then (.ok (), tree)
    else
      match tree.makeDirectory path with
      | .ok tree => (.ok (), tree)
      | .error .notFound =>
        match path.parent with
        | none => (.error .notFound, tree)
        | some parent =>
          match tree.makeDirectoriesWithin depth parent with
          | (.error failure, tree) => (.error failure, tree)
          | (.ok (), tree) =>
            match tree.makeDirectory path with
            | .ok tree => (.ok (), tree)
            | .error failure => (tree.acceptDirectory path failure, tree)
      | .error failure => (tree.acceptDirectory path failure, tree)

/-- A parent is shorter than the path, which bounds the depth. -/
def makeDirectories (tree : FileTree) (path : Path) : Except FileFailure Unit × FileTree :=
  tree.makeDirectoriesWithin (path.bytes.length + 1) path

/-! ## Files -/

/-- A name that nothing has. -/
def freshName (names : List Name) : Name :=
  let candidates := (List.range (names.length + 1)).map fun number =>
    Bytes.ofString (".tmp" ++ toString number)
  (candidates.find? fun candidate => !names.contains candidate).getD (Bytes.ofString ".tmp")

/-- The place for a temporary file in a directory; the empty path is the working directory. -/
def temporaryPlace (tree : FileTree) (directory : Path) : Except FileFailure Place := do
  let directory := if directory.isEmpty then Path.ofString "." else directory
  let place ← tree.directoryOf directory
  return place ++ [freshName (tree.namesIn place)]

/-- Whether a path ends in a name, which a file can have. -/
def endsInName (path : Path) : Bool :=
  match path.dropSlashes.moves.getLast? with
  | some (.enter _) => true
  | _ => false

/-- Moves a file to a path, where it replaces another file or a link. -/
def rename (tree : FileTree) (source : Place) (destination : Path) :
    Except FileFailure FileTree := do
  let arrival ← tree.locateItself destination
  if !endsInName destination then throw .busy
  if destination.hasSlashAtEnd then throw .notDirectory
  match tree.entry? source, arrival with
  | none, _ => throw .notFound
  | some _, .present _ .directory => throw .isDirectory
  | some entry, .present place _ => return (tree.erase source).store place entry
  | some entry, .absent directory name =>
    return (tree.erase source).store (directory ++ [name]) entry

end FileTree

/-- A step on the way to a file whose content is complete when it is first seen. -/
inductive WriteStep where
  | create (temporary : Place)
  | append (temporary : Place) (piece : Bytes)
  | settle (temporary : Place) (destination : Path)
deriving DecidableEq, Repr

namespace WriteStep

def perform (tree : FileTree) : WriteStep → Except FileFailure FileTree
  | .create temporary =>
    match tree.entry? temporary with
    | none => .ok (tree.store temporary (.file []))
    | some _ => .error .exists
  | .append temporary piece =>
    match tree.entry? temporary with
    | some (.file content) => .ok (tree.store temporary (.file (content ++ piece)))
    | some _ => .error .isDirectory
    | none => .error .notFound
  | .settle temporary destination => tree.rename temporary destination

/-- Takes steps up to the first that fails. -/
def performAll (tree : FileTree) : List WriteStep → Except FileFailure Unit × FileTree
  | [] => (.ok (), tree)
  | step :: rest =>
    match step.perform tree with
    | .ok tree => performAll tree rest
    | .error failure => (.error failure, tree)

/-- The steps that fill a temporary file. -/
def filling (temporary : Place) (pieces : List Bytes) : List WriteStep :=
  .create temporary :: pieces.map (.append temporary)

/-- All steps that lead to a file. -/
def writing (temporary : Place) (pieces : List Bytes) (destination : Path) : List WriteStep :=
  filling temporary pieces ++ [.settle temporary destination]

end WriteStep

namespace FileTree

/-- Takes steps with a temporary file, which is removed if one of them fails. -/
def withTemporary (tree : FileTree) (temporary : Place) (steps : List WriteStep) :
    Except FileFailure Unit × FileTree :=
  match WriteStep.performAll tree steps with
  | (.ok (), tree) => (.ok (), tree)
  | (.error failure, tree) => (.error failure, tree.erase temporary)

/-- Writes a file by way of a temporary one in a directory. -/
def replaceFile (tree : FileTree) (directory : Path) (destination : Path) (content : Bytes) :
    Except FileFailure Unit × FileTree :=
  match tree.temporaryPlace directory with
  | .error failure => (.error failure, tree)
  | .ok temporary =>
    tree.withTemporary temporary (WriteStep.writing temporary [content] destination)

/-! ## Changes from outside -/

/-- Writes a file in place, through links. -/
def writeInPlace (tree : FileTree) (path : Path) (content : Bytes) :
    Except FileFailure FileTree := do
  match ← tree.locate path with
  | .present _ .directory => throw .isDirectory
  | .present place _ => return tree.store place (.file content)
  | .absent directory name => return tree.store (directory ++ [name]) (.file content)

def makeLink (tree : FileTree) (path : Path) (target : Path) : Except FileFailure FileTree := do
  match ← tree.locateItself path with
  | .present _ _ => throw .exists
  | .absent directory name => return tree.store (directory ++ [name]) (.link target)

/-- Removes a file, a link, or a directory with all that is in it. -/
def remove (tree : FileTree) (path : Path) : Except FileFailure FileTree := do
  match ← tree.locateItself path with
  | .present place _ => return tree.erase place
  | .absent _ _ => throw .notFound

end FileTree

end TemplateBuild

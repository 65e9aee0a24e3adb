import TemplateBuild.FileTree.Route

/-!
# Reading a file tree

What a program sees of the tree without changing it.
-/

set_option autoImplicit false

namespace TemplateBuild.FileTree

def contentOf (tree : FileTree) (path : Path) : Except FileFailure Bytes := do
  match ← tree.find path with
  | (_, .file content) => return content
  | _ => throw .isDirectory

/-- A file that is read as text has to be UTF-8. -/
def textOf (tree : FileTree) (path : Path) : Except FileFailure String := do
  let content ← tree.contentOf path
  match content.toString? with
  | some text => return text
  | none => throw .notText

/-- Whether a path leads to a file, through links. -/
def isFile (tree : FileTree) (path : Path) : Bool :=
  match tree.find path with
  | .ok (_, .file _) => true
  | _ => false

def isDirectory (tree : FileTree) (path : Path) : Bool :=
  match tree.find path with
  | .ok (_, .directory) => true
  | _ => false

/-- The place of a directory that a path leads to. -/
def directoryOf (tree : FileTree) (path : Path) : Except FileFailure Place := do
  match ← tree.find path with
  | (place, .directory) => return place
  | _ => throw .notDirectory

/-- The absolute path without links of what a path leads to. -/
def canonical (tree : FileTree) (path : Path) : Except FileFailure Path := do
  return pathOf (← tree.find path).1

/-- The names in a directory, as the directory lists them. -/
def listing (tree : FileTree) (path : Path) : Except FileFailure (List Name) := do
  return tree.namesIn (← tree.directoryOf path)

/-- Whether bytes come before others, a beginning before the whole. -/
def precedes : Bytes → Bytes → Bool
  | _, [] => false
  | [], _ :: _ => true
  | first :: rest, other :: others =>
    if first = other then precedes rest others else first < other

/-- Puts a value in front of the first one whose key does not come before its own. -/
def insertBy {α : Type} (key : α → Bytes) (value : α) : List α → List α
  | [] => [value]
  | first :: rest =>
    if precedes (key first) (key value) then first :: insertBy key value rest
    else value :: first :: rest

/-- The values in increasing order of keys; those with the same key keep their order. -/
def sortBy {α : Type} (key : α → Bytes) : List α → List α
  | [] => []
  | first :: rest => insertBy key first (sortBy key rest)

/-- Everything below a directory, by path from there, in increasing order of paths. -/
def everythingIn (tree : FileTree) (place : Place) : List (Path × Entry) :=
  let below := tree.entries.filter fun entry => place.isPrefixOf entry.1 && entry.1 != place
  sortBy (fun (path, _) => path.bytes) (below.map fun (other, entry) =>
    (⟨Path.joinSegments (other.drop place.length)⟩, entry))

end TemplateBuild.FileTree

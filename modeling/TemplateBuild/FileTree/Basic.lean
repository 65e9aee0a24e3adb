import TemplateBuild.Path

/-!
# File trees

Every file, directory and link has a place: the names on the way from the root.  A tree holds
what lies at each place, in the order in which a directory lists it, and the place from which
relative paths are read.
-/

set_option autoImplicit false

namespace TemplateBuild

/-- The names from the root down to something; the root itself has none. -/
abbrev Place := List Name

inductive Entry where
  | file (content : Bytes)
  | directory
  /-- A symbolic link, which may lead nowhere. -/
  | link (target : Path)
deriving DecidableEq, Repr

structure FileTree where
  entries : List (Place × Entry)
  /-- Where relative paths begin. -/
  working : Place
deriving DecidableEq, Repr

namespace FileTree

/-- What lies at a place; the root is always a directory. -/
def entry? (tree : FileTree) (place : Place) : Option Entry :=
  if place = [] then some .directory else tree.entries.lookup place

/-- Replaces the first entry of a place, or adds one. -/
def storeIn (place : Place) (entry : Entry) : List (Place × Entry) → List (Place × Entry)
  | [] => [(place, entry)]
  | first :: rest =>
    if first.1 = place then (place, entry) :: rest else first :: storeIn place entry rest

def store (tree : FileTree) (place : Place) (entry : Entry) : FileTree :=
  { tree with entries := storeIn place entry tree.entries }

/-- The tree without what lies at a place and below it. -/
def erase (tree : FileTree) (place : Place) : FileTree :=
  { tree with entries := tree.entries.filter fun entry => !place.isPrefixOf entry.1 }

/-- The name of a place directly below another one. -/
def nameBelow? : Place → Place → Option Name
  | [], [name] => some name
  | first :: rest, other :: others => if first = other then nameBelow? rest others else none
  | _, _ => none

/-- The names in a directory, in the order in which it lists them. -/
def namesIn (tree : FileTree) (place : Place) : List Name :=
  tree.entries.filterMap fun entry => nameBelow? place entry.1

def isDirectoryAt (tree : FileTree) (place : Place) : Bool :=
  tree.entry? place = some .directory

/-- The absolute path of a place. -/
def pathOf (place : Place) : Path :=
  match place with
  | [] => ⟨[Path.slash]⟩
  | names => ⟨names.flatMap fun name => Path.slash :: name⟩

end FileTree

end TemplateBuild

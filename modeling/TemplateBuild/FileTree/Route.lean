import TemplateBuild.FileTree.Basic
import TemplateBuild.FileTree.Failure

/-!
# From paths to places

A path is followed name by name.  A link on the way leads on from where it lies; so does a
link at the end, unless the link itself is meant.  A name that is missing at the very end is
no failure here: something may be created there.
-/

set_option autoImplicit false

namespace TemplateBuild

namespace Path

/-- One move on the way to a place. -/
inductive Move where
  | stay
  | up
  | enter (name : Name)
deriving DecidableEq, Repr

def moveOf (segment : Bytes) : Move :=
  if segment = [] ∨ segment = currentSegment then .stay
  else if segment = parentSegment then .up
  else .enter segment

/-- A path that ends in a slash makes sure that it has come to a directory. -/
def moves (path : Path) : List Move :=
  match path.segments with
  | [] => []
  | first :: rest =>
    (if first = [] then [] else [moveOf first]) ++
      (rest.filter fun segment => segment ≠ []).map moveOf ++
      (if rest.getLast? = some [] then [.stay] else [])

/-- Without the slashes at the end; a root stays a root. -/
def dropSlashes (path : Path) : Path :=
  let kept := (path.bytes.reverse.dropWhile (· = slash)).reverse
  if kept.isEmpty && path.isAbsolute then ⟨[slash]⟩ else ⟨kept⟩

def hasSlashAtEnd (path : Path) : Bool :=
  path.bytes.getLast? = some slash

end Path

namespace FileTree

/-- Where a path leads. -/
inductive Arrival where
  | present (place : Place) (entry : Entry)
  /-- Nothing has this name in the directory. -/
  | absent (directory : Place) (name : Name)
deriving DecidableEq, Repr

def longestName : Nat := 255

def longestPath : Nat := 4095

/-- So many links are followed on one way. -/
def mostLinks : Nat := 40

/-- Follows moves from a directory; `links` links may still be followed on the way. -/
def follow (tree : FileTree) (through : Bool) (links : Nat) (place : Place) :
    List Path.Move → Except FileFailure Arrival
  | [] => .ok (.present place .directory)
  | .stay :: rest => follow tree through links place rest
  | .up :: rest => follow tree through links place.dropLast rest
  | .enter name :: rest =>
    if name.length > longestName then .error .nameTooLong
    else
      match tree.entry? (place ++ [name]) with
      | none => if rest = [] then .ok (.absent place name) else .error .notFound
      | some .directory => follow tree through links (place ++ [name]) rest
      | some (.file content) =>
        if rest = [] then .ok (.present (place ++ [name]) (.file content))
        else .error .notDirectory
      | some (.link target) =>
        if rest = [] ∧ through = false then .ok (.present (place ++ [name]) (.link target))
        else
          match links with
          | 0 => .error .tooManyLinks
          | links + 1 =>
            if target.isEmpty then .error .notFound
            else
              follow tree through links (if target.isAbsolute then [] else place)
                (target.moves ++ rest)
termination_by moves => (links, moves.length)

/-- What the system checks before it follows a path. -/
def checkPath (path : Path) : Except FileFailure Unit :=
  if path.bytes.contains 0 then .error .zeroInPath
  else if path.isEmpty then .error .notFound
  else if path.bytes.length > longestPath then .error .nameTooLong
  else .ok ()

def startPlace (tree : FileTree) (path : Path) : Place :=
  if path.isAbsolute then [] else tree.working

/-- Where a path leads; `through` tells whether a link at its end is followed. -/
def locateThrough (tree : FileTree) (through : Bool) (path : Path) :
    Except FileFailure Arrival := do
  checkPath path
  follow tree through mostLinks (tree.startPlace path) path.moves

def locate (tree : FileTree) (path : Path) : Except FileFailure Arrival :=
  tree.locateThrough true path

/-- Where something with this path is created, replaced or removed: a link at the end is meant
itself, and slashes at the end do not count. -/
def locateItself (tree : FileTree) (path : Path) : Except FileFailure Arrival := do
  checkPath path
  tree.locateThrough false path.dropSlashes

def present : Arrival → Except FileFailure (Place × Entry)
  | .present place entry => .ok (place, entry)
  | .absent _ _ => .error .notFound

/-- What a path leads to, which has to be there. -/
def find (tree : FileTree) (path : Path) : Except FileFailure (Place × Entry) := do
  present (← tree.locate path)

/-- What a path leads to without following a link at its end. -/
def findItself (tree : FileTree) (path : Path) : Except FileFailure (Place × Entry) := do
  present (← tree.locateThrough false path)

end FileTree

end TemplateBuild

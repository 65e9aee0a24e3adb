import TemplateBuild.Text.Utf8

/-!
# Paths

A path is the bytes that were written, never normalised.  `Path.components` is its reading:
doubled slashes, inner dot segments and trailing slashes do not count.  `Path.join` appends
text, `Path.fileName`, `Path.fileStem` and `Path.extension` take the last component apart,
and `Path.parent` is the text before it.
-/

set_option autoImplicit false

namespace TemplateBuild

/-- A file name as a directory holds it: any bytes but a slash or a zero. -/
abbrev Name := Bytes

structure Path where
  bytes : Bytes
deriving DecidableEq, Repr

namespace Path

def slash : UInt8 := 0x2F

def dot : UInt8 := 0x2E

def ofString (text : String) : Path :=
  ⟨Bytes.ofString text⟩

/-- The path as messages show it. -/
def display (path : Path) : String :=
  path.bytes.toStringLossy

def isEmpty (path : Path) : Bool :=
  path.bytes.isEmpty

def isAbsolute (path : Path) : Bool :=
  path.bytes.head? = some slash

/-- The pieces between slashes, empty ones included. -/
def segmentsOf : Bytes → List Bytes
  | [] => [[]]
  | byte :: rest =>
    if byte = slash then [] :: segmentsOf rest
    else
      match segmentsOf rest with
      | [] => [[byte]]
      | first :: others => (byte :: first) :: others

def segments (path : Path) : List Bytes :=
  segmentsOf path.bytes

inductive Component where
  | root
  | current
  | parent
  | normal (name : Name)
deriving DecidableEq, Repr

def currentSegment : Bytes := [dot]

def parentSegment : Bytes := [dot, dot]

/-- What a segment after the first stands for; empty and dot segments stand for nothing. -/
def componentOf (segment : Bytes) : Option Component :=
  if segment = [] ∨ segment = currentSegment then none
  else if segment = parentSegment then some .parent
  else some (.normal segment)

/-- The first segment of a path is the root if it is empty, and a leading dot counts. -/
def leadingComponent (segment : Bytes) : Component :=
  if segment = [] then .root
  else if segment = currentSegment then .current
  else if segment = parentSegment then .parent
  else .normal segment

def components (path : Path) : List Component :=
  if path.isEmpty then []
  else
    match path.segments with
    | [] => []
    | first :: rest => leadingComponent first :: rest.filterMap componentOf

/-- The names among the components. -/
def normalNames (path : Path) : List Name :=
  path.components.filterMap fun
    | .normal name => some name
    | _ => none

/-- An absolute right side replaces the left; otherwise one slash comes between, unless the
left side is empty or already ends in one. -/
def join (base : Path) (tail : Path) : Path :=
  if tail.isAbsolute ∨ base.isEmpty then tail
  else if base.bytes.getLast? = some slash then ⟨base.bytes ++ tail.bytes⟩
  else ⟨base.bytes ++ slash :: tail.bytes⟩

def joinName (base : Path) (name : Name) : Path :=
  base.join ⟨name⟩

/-- The last component, if it is a name. -/
def fileName (path : Path) : Option Name :=
  match path.components.getLast? with
  | some (.normal name) => some name
  | _ => none

/-- Splits a file name at its last dot.  A dot that comes first, or none at all, leaves
the name whole. -/
def splitName (name : Name) : Name × Option Bytes :=
  match name.reverse.span (· ≠ dot) with
  | (_, []) => (name, none)
  | (_, [_]) => (name, none)
  | (ending, _ :: before) => (before.reverse, some ending.reverse)

def fileStem (path : Path) : Option Name :=
  path.fileName.map fun name => (splitName name).1

def extension (path : Path) : Option Bytes :=
  path.fileName.bind fun name => (splitName name).2

def dropTrailing : List Bytes → List Bytes
  | [] => []
  | [first] => [first]
  | segment :: rest => if (componentOf segment).isNone then dropTrailing rest else segment :: rest

/-- Segments with slashes between them. -/
def joinSegments : List Bytes → Bytes
  | [] => []
  | [only] => only
  | first :: rest => first ++ slash :: joinSegments rest

/-- The text before the last component, without trailing slashes and dot segments.  The
root and the empty path have no parent. -/
def parent (path : Path) : Option Path :=
  match path.components.getLast? with
  | none | some .root => none
  | some _ =>
    match dropTrailing path.segments.reverse with
    | [] => none
    | _ :: before =>
      match dropTrailing before with
      | [] => some ⟨[]⟩
      | [[]] => some ⟨[slash]⟩
      | kept => some ⟨joinSegments kept.reverse⟩

/-- The directory in which a file at the path is created: the parent, or the working
directory for a bare name. -/
def directory (path : Path) : Path :=
  match path.parent with
  | some parent => if parent.isEmpty then ofString "." else parent
  | none => ofString "."

end Path

end TemplateBuild

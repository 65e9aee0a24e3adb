import TemplateBuild.Path

/-!
# Where modules go

The output file of a bundle, from the directory of the bundle below the source root and the
name of that directory.  In `preserve` mode the tree of the source is repeated; in `flatten`
mode every module lies directly in the output directory, under the names on the way joined
with hyphens.
-/

set_option autoImplicit false

namespace TemplateBuild

inductive Hierarchy where
  | preserve
  | flatten
deriving DecidableEq, Repr

structure Layout where
  output : Path
  hierarchy : Hierarchy
  extension : String
deriving DecidableEq, Repr

namespace Layout

def flattenSeparator : String := "-"

/-- The name of the source root, which has no name of its own. -/
def rootName : String := "index"

def orRootName (name : String) : String :=
  if name.isEmpty then rootName else name

/-- The names of the directory below the source root, as text, with hyphens between them. -/
def flattenedName (relative : Path) : String :=
  String.intercalate flattenSeparator (relative.normalNames.map Bytes.toStringLossy)

def moduleName (layout : Layout) (stem : String) : String :=
  if layout.extension.isEmpty then stem else stem ++ "." ++ layout.extension

def outputFile (layout : Layout) (relative : Path) (directoryName : String) : Path :=
  match layout.hierarchy with
  | .preserve =>
    (layout.output.join relative).join
      (Path.ofString (layout.moduleName (orRootName directoryName)))
  | .flatten =>
    layout.output.join (Path.ofString (layout.moduleName (orRootName (flattenedName relative))))

end Layout

end TemplateBuild

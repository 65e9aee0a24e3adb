import TemplateBuild.Layout

/-!
# Bundles

The templates that lie directly in one directory form a bundle, and each bundle becomes one
module.  A template is known in its module by its file name without the last extension.
-/

set_option autoImplicit false

namespace TemplateBuild

structure TemplateSource where
  path : Path
  logicalName : String
deriving DecidableEq, Repr

namespace TemplateSource

def ofPath (path : Path) : TemplateSource :=
  ⟨path, match path.fileStem with
    | some stem => stem.toStringLossy
    | none => ""⟩

end TemplateSource

structure Bundle where
  sourceDirectory : Path
  /-- From the root of the walk; empty for the root itself. -/
  relativeDirectory : Path
  outputFile : Path
  /-- At least one, in increasing order of file names. -/
  templates : List TemplateSource
deriving DecidableEq, Repr

end TemplateBuild

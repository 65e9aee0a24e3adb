/-!
# The helper gate

The helpers that will exist when a template is rendered.  The names are kept in increasing
order without repetition, so that two gates made from the same names are equal and an engine
that lists them sees one order only.
-/

set_option autoImplicit false

namespace TemplateBuild

/-- Inserts a name into an increasing list, once. -/
def insertName (name : String) : List String → List String
  | [] => [name]
  | first :: rest =>
    if name = first then first :: rest
    else if name < first then name :: first :: rest
    else first :: insertName name rest

/-- `strictOnly` asks the engine to reject every helper outside `names`.  The gate itself
only answers membership. -/
structure HelperGate where
  names : List String
  strictOnly : Bool
deriving DecidableEq, Repr

namespace HelperGate

def ofNames (names : List String) (strictOnly : Bool) : HelperGate :=
  ⟨names.foldr insertName [], strictOnly⟩

def isKnown (gate : HelperGate) (name : String) : Bool :=
  gate.names.contains name

end HelperGate

end TemplateBuild

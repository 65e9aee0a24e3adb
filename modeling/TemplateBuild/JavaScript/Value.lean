import TemplateBuild.JavaScript.Regex.Syntax
import TemplateBuild.JavaScript.Syntax

/-!
# JavaScript values and the machine

Objects and scopes live on the machine and are known by their addresses.  The properties of an
object are kept in the order in which they were added; arrays keep their elements apart.
-/

set_option autoImplicit false

namespace TemplateBuild.JavaScript

inductive Value where
  | undefined
  | null
  | boolean (value : Bool)
  | number (value : Float)
  | text (value : Units)
  | object (address : Nat)

instance : Inhabited Value := ⟨.undefined⟩

namespace Value

def string (value : String) : Value :=
  .text (Units.ofString value)

def ofNat (value : Nat) : Value :=
  .number (Float.ofNat value)

def ofInt (value : Int) : Value :=
  .number (Float.ofInt value)

def isUndefined : Value → Bool
  | .undefined => true
  | _ => false

/-- The two values that have no properties. -/
def isNothing : Value → Bool
  | .undefined => true
  | .null => true
  | _ => false

end Value

inductive ErrorKind where
  | plain
  | type
  | reference
  | range
  | ofSyntax
  | uri
  | eval
deriving DecidableEq, Repr

def ErrorKind.name : ErrorKind → String
  | .plain => "Error"
  | .type => "TypeError"
  | .reference => "ReferenceError"
  | .range => "RangeError"
  | .ofSyntax => "SyntaxError"
  | .uri => "URIError"
  | .eval => "EvalError"

def ErrorKind.all : List ErrorKind :=
  [.plain, .type, .reference, .range, .ofSyntax, .uri, .eval]

/-- Where a script stands: the scope of names, and the one in which variables are declared. -/
structure Context where
  scope : Nat
  vars : Nat
  strict : Bool

inductive Slot where
  | value (value : Value) (writable : Bool)
  | accessor (getter setter : Value)

structure Property where
  slot : Slot
  enumerable : Bool
  configurable : Bool

namespace Property

/-- A property as assignments make it. -/
def plain (value : Value) : Property :=
  ⟨.value value true, true, true⟩

/-- A property as the library has it: it can be changed but is not listed. -/
def hidden (value : Value) : Property :=
  ⟨.value value true, false, true⟩

/-- A property that cannot be changed. -/
def fixed (value : Value) : Property :=
  ⟨.value value false, false, false⟩

end Property

inductive ObjectKind where
  | plain
  /-- Missing elements are holes. -/
  | array (elements : Array (Option Value))
  /-- The arguments of a call, which look like an array. -/
  | arguments (elements : Array (Option Value))
  | closure (code : Function) (context : Context) (home : Option Nat)
      (fields : List (Units × Option Function))
  /-- A function of the library, with the values that belong to it. -/
  | builtin (name : String) (held : List Value)
  | failure
  | regex (source flags : Units) (pattern : Regex.Pattern)
  | boxed (value : Value)
  | map (entries : Array (Option (Value × Value)))
  | set (entries : Array (Option Value))

structure Object where
  kind : ObjectKind
  prototype : Option Nat
  properties : Array (Units × Property)
  extensible : Bool

instance : Inhabited Object := ⟨⟨.plain, none, #[], true⟩⟩

/-- A variable; it has no value before its declaration is reached. -/
structure Binding where
  value : Option Value
  mutable : Bool

structure ScopeObject where
  bindings : List (Name × Binding)
  parent : Option Nat

instance : Inhabited ScopeObject := ⟨⟨[], none⟩⟩

/-- The objects from which values of each kind inherit. -/
structure Prototypes where
  object : Nat
  function : Nat
  array : Nat
  text : Nat
  number : Nat
  boolean : Nat
  regex : Nat
  map : Nat
  set : Nat
  errors : List (ErrorKind × Nat)

structure Machine where
  objects : Array Object
  scopes : Array ScopeObject
  prototypes : Prototypes
  globalObject : Nat
  /-- How many calls of functions of the script are running. -/
  depth : Nat
  random : UInt64

/-- The scope of all scripts. -/
def globalScope : Nat := 0

end TemplateBuild.JavaScript

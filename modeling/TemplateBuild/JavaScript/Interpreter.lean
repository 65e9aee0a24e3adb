import TemplateBuild.JavaScript.Library.Addresses
import TemplateBuild.JavaScript.Library.Collections
import TemplateBuild.JavaScript.Library.Functions
import TemplateBuild.JavaScript.Library.Json
import TemplateBuild.JavaScript.Library.Numbers
import TemplateBuild.JavaScript.Library.Objects
import TemplateBuild.JavaScript.Library.Texts

/-!
# Running scripts

The interpreter of a depth takes one step and leaves the rest to that of the next lower depth.
A machine begins with the objects of the library, and keeps what its scripts change.
-/

set_option autoImplicit false

namespace TemplateBuild.JavaScript

namespace Library

open Action hiding pure bind

/-! ## The functions of the library -/

/-- Functions that can be constructed with, by name. -/
def constructors : List (String × Builtin) :=
  [("Object", Objects.construct), ("Function", Functions.construct), ("Array", Lists.construct),
   ("String", Texts.construct), ("Number", Numbers.construct),
   ("Boolean", Numbers.constructBoolean), ("RegExp", Regexes.construct),
   ("Map", Collections.constructMap), ("Set", Collections.constructSet)] ++
  ErrorKind.all.map fun kind => (kind.name, Functions.errorConstruct kind)

def isConstructor (name : String) : Bool :=
  (constructors.lookup name).isSome

def globals : Group := ⟨"global",
  [("isFinite", Numbers.checkConverted Numbers.isFinite),
   ("isNaN", Numbers.checkConverted Numeral.isNaN), ("parseFloat", Numbers.parseNumber),
   ("parseInt", Numbers.parseWhole)] ++ Addresses.functions.functions⟩

/-- Runs a text as code of the global scope; other values stay as they are. -/
def evaluator : Builtin := fun i call => do
  match call.argument 0 with
  | .text source => Step.evaluateText i ⟨globalScope, globalScope, false⟩ source
  | value => return value

/-- The name of the function from which all functions inherit. -/
def nothingName : String := "Function.prototype"

def groups : List Group :=
  [globals, Objects.statics, Objects.methods, Objects.protoAccessor, Functions.methods,
   Functions.errorMethods, Lists.statics, Lists.methods, Regexes.methods, Regexes.accessors,
   Texts.statics, Texts.methods, Numbers.statics, Numbers.methods, Numbers.booleanMethods,
   Numbers.mathematics, Json.statics, Collections.mapMethods, Collections.setMethods,
   Collections.accessors]

def all : List (String × Builtin) :=
  constructors ++
  [(Functions.boundName, Functions.bound), (Step.evaluatorName, evaluator),
   (nothingName, Functions.nothing)] ++
  groups.flatMap Group.qualified

def find? (name : String) : Option Builtin :=
  all.lookup name

/-! ## The objects of the library -/

/-- A function of the library that knows its name. -/
def newNamed (full name : String) : Action Value := do
  let function ← newBuiltin full []
  match function with
  | .object address =>
    storeProperty address (Units.ofString "name")
      ⟨.value (.string name) false, false, true⟩
  | _ => return function
  return function

def storeFunctions (address : Nat) (group : Group) : Action Unit :=
  group.functions.forM fun (name, _) => do
    storeHidden address name (← newNamed (group.owner ++ "." ++ name) name)

def storeFixed (address : Nat) (constants : List (String × Value)) : Action Unit :=
  constants.forM fun (name, value) => storeProperty address (Units.ofString name) (.fixed value)

def storeGetter (address : Nat) (name full : String) : Action Unit := do
  storeProperty address (Units.ofString name)
    ⟨.accessor (← newBuiltin full []) .undefined, false, true⟩

def storeGetters (address : Nat) (group : Group) : Action Unit :=
  group.functions.forM fun (name, _) =>
    storeGetter address name (group.owner ++ "." ++ name)

def storeGlobal (name : String) (value : Value) : Action Unit := do
  storeHidden (← machine).globalObject name value

/-- A constructor with the prototype of what it constructs. -/
def storeConstructor (name : String) (prototype : Nat) : Action Nat := do
  let address ← match ← newNamed name name with
    | .object address => pure address
    | _ => pure (← machine).globalObject
  storeProperty address Step.prototypeKey (.fixed (.object prototype))
  storeHidden prototype "constructor" (.object address)
  storeGlobal name (.object address)
  return address

def storeObjects : Action Unit := do
  let prototype := (← machine).prototypes.object
  storeFunctions (← storeConstructor "Object" prototype) Objects.statics
  storeFunctions prototype Objects.methods
  let owner := Objects.protoAccessor.owner
  storeProperty prototype (Units.ofString "__proto__")
    ⟨.accessor (← newBuiltin (owner ++ ".get") []) (← newBuiltin (owner ++ ".set") []), false, true⟩

def storeCollections : Action Unit := do
  let prototypes := (← machine).prototypes
  let _ ← storeConstructor "Map" prototypes.map
  storeFunctions prototypes.map Collections.mapMethods
  storeGetters prototypes.map Collections.accessors
  let _ ← storeConstructor "Set" prototypes.set
  storeFunctions prototypes.set Collections.setMethods
  storeGetters prototypes.set Collections.accessors

def storeTexts : Action Unit := do
  let prototypes := (← machine).prototypes
  storeFunctions (← storeConstructor "String" prototypes.text) Texts.statics
  storeFunctions prototypes.text Texts.methods
  let _ ← storeConstructor "RegExp" prototypes.regex
  storeFunctions prototypes.regex Regexes.methods
  storeGetters prototypes.regex Regexes.accessors

def storeNumbers : Action Unit := do
  let prototypes := (← machine).prototypes
  let number ← storeConstructor "Number" prototypes.number
  storeFunctions number Numbers.statics
  storeFixed number Numbers.constants
  storeFunctions prototypes.number Numbers.methods
  let _ ← storeConstructor "Boolean" prototypes.boolean
  storeFunctions prototypes.boolean Numbers.booleanMethods

/-- Errors of each kind inherit from plain ones. -/
def storeErrors : Action Unit := do
  (← machine).prototypes.errors.forM fun (kind, prototype) => do
    let _ ← storeConstructor kind.name prototype
    storeHidden prototype "name" (.string kind.name)
    storeHidden prototype "message" (.string "")
  storeFunctions (← errorPrototype .plain) Functions.errorMethods

/-- An object that holds functions and constants, as a global variable. -/
def storeHolder (group : Group) (constants : List (String × Value)) : Action Unit := do
  let address ← newPlain
  storeFunctions address group
  storeFixed address constants
  storeGlobal group.owner (.object address)

def storeAll : Action Unit := do
  let globalObject := (← machine).globalObject
  let prototypes := (← machine).prototypes
  storeObjects
  let _ ← storeConstructor "Function" prototypes.function
  storeFunctions prototypes.function Functions.methods
  storeFunctions (← storeConstructor "Array" prototypes.array) Lists.statics
  storeFunctions prototypes.array Lists.methods
  storeTexts
  storeNumbers
  storeCollections
  storeErrors
  storeHolder Numbers.mathematics Numbers.mathematicalConstants
  storeHolder Json.statics []
  storeFunctions globalObject globals
  storeGlobal Step.evaluatorName (← newNamed Step.evaluatorName Step.evaluatorName)
  storeGlobal "globalThis" (.object globalObject)
  storeFixed globalObject
    [("undefined", .undefined), ("NaN", .number Numeral.notANumber),
     ("Infinity", .number Numeral.infinity)]

end Library

namespace Interpreter

/-- Where no depth is left. -/
def overflowing : Interpreter :=
  ⟨fun _ _ => Action.exhausted, fun _ _ => Action.exhausted, fun _ _ _ => Action.exhausted,
    fun _ _ _ => Action.exhausted⟩

/-- The interpreter that takes one step before another one goes on. -/
def above (lower : Interpreter) : Interpreter :=
  ⟨Step.evaluate lower, Step.execute lower, Step.call lower Library.find?,
    Step.construct lower Library.find? Library.isConstructor⟩

def ofDepth (depth : Nat) : Interpreter :=
  Nat.repeat above depth overflowing

/-- Expressions, statements and calls may be nested as deep as this. -/
def greatestDepth : Nat := 100000

def full : Interpreter :=
  ofDepth greatestDepth

end Interpreter

namespace Machine

/-- The addresses of the objects that are there before the library is. -/
def firstPrototypes : Prototypes where
  object := 0
  function := 1
  array := 2
  text := 3
  number := 4
  boolean := 5
  regex := 6
  map := 7
  set := 8
  errors := ErrorKind.all.zipIdx.map fun (kind, place) => (kind, 10 + place)

/-- Prototypes are objects of the kind that they serve, as far as scripts see it. -/
def firstObjects : Array Object :=
  let inherits := fun (kind : ObjectKind) (prototype : Nat) =>
    (⟨kind, some prototype, #[], true⟩ : Object)
  #[⟨.plain, none, #[], true⟩, inherits (.builtin Library.nothingName []) 0,
    inherits (.array #[]) 0, inherits (.boxed (.text #[])) 0, inherits (.boxed (.number 0)) 0,
    inherits (.boxed (.boolean false)) 0, inherits .plain 0, inherits .plain 0, inherits .plain 0,
    inherits .plain 0] ++
  (ErrorKind.all.map fun kind => inherits .plain (if kind = .plain then 0 else 10)).toArray

/-- A machine without a library. -/
def bare : Machine where
  objects := firstObjects
  scopes := #[⟨[(Step.thisName, ⟨some (.object 9), false⟩)], none⟩]
  prototypes := firstPrototypes
  globalObject := 9
  depth := 0
  random := 1

def after (machine : Machine) (action : Action Unit) : Machine :=
  match action machine with
  | .done _ machine | .thrown _ machine | .exhausted machine => machine

/-- The machine with which every engine begins. -/
def fresh : Machine :=
  bare.after Library.storeAll

end Machine

end TemplateBuild.JavaScript

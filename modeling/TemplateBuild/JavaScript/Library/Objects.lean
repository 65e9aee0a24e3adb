import TemplateBuild.JavaScript.Library.Basic

/-!
# Functions on objects

Listing, defining and freezing properties, and what all objects inherit.
-/

set_option autoImplicit false

namespace TemplateBuild.JavaScript.Library.Objects

open Action hiding pure bind

def construct : Builtin := fun _ call => do
  match call.argument 0 with
  | .undefined => return .object (← newPlain)
  | .null => return .object (← newPlain)
  | value => return .object (← Operator.toObject value)

/-- The listed keys of an object itself. -/
def listed (address : Nat) : Action (List Units) := do
  return ((Property.ownKeys (← objectAt address)).filter (·.2)).map (·.1)

def keys : Builtin := fun _ call => do
  newArray ((← listed (← Operator.toObject (call.argument 0))).map .text)

def valuesAt (i : Interpreter) (address : Nat) : List Units → Action (List Value)
  | [] => return []
  | key :: rest => do
    let value ← Access.get i (.object address) key
    return value :: (← valuesAt i address rest)

def values : Builtin := fun i call => do
  let address ← Operator.toObject (call.argument 0)
  newArray (← valuesAt i address (← listed address))

def pairsOf : List (Value × Value) → Action (List Value)
  | [] => return []
  | (key, value) :: rest => do
    let pair ← newArray [key, value]
    return pair :: (← pairsOf rest)

def entries : Builtin := fun i call => do
  let address ← Operator.toObject (call.argument 0)
  let keys ← listed address
  newArray (← pairsOf ((keys.map Value.text).zip (← valuesAt i address keys)))

def assign : Builtin := fun i call => do
  let target := Value.object (← Operator.toObject (call.argument 0))
  (call.arguments.drop 1).forM fun source => do
    if !source.isNothing then
      let address ← Operator.toObject source
      (← listed address).forM fun key => do
        Access.set i true target key (← Access.get i source key)
  return target

def fromEntries : Builtin := fun i call => do
  let address ← newPlain
  (← Step.valuesOf (call.argument 0)).forM fun pair => do
    let key ← Operator.toKey i (← Access.get i pair (Units.ofNat 0))
    storeProperty address key (.plain (← Access.get i pair (Units.ofNat 1)))
  return .object address

/-! ## Descriptions of properties -/

def flag (i : Interpreter) (description : Value) (name : String) (default : Bool) :
    Action Bool := do
  let address ← objectArgument description
  if ← Access.has address (Units.ofString name) then
    return Operator.toBoolean (← Access.getNamed i description name)
  return default

def member? (i : Interpreter) (description : Value) (name : String) : Action (Option Value) := do
  let address ← objectArgument description
  if ← Access.has address (Units.ofString name) then
    return some (← Access.getNamed i description name)
  return none

/-- Defines a property as described; what is not described stays as it was. -/
def define (i : Interpreter) (address : Nat) (key : Units) (description : Value) :
    Action Unit := do
  let old := Property.own? (← objectAt address) key
  if old.any (!·.configurable) then
    match old with
    | some ⟨.value _ true, _, _⟩ => pure ()
    | _ => typeFault "cannot redefine property"
  else if old.isNone && !(← objectAt address).extensible then
    typeFault "cannot define property, object is not extensible"
  let enumerable ← flag i description "enumerable" ((old.map (·.enumerable)).getD false)
  let configurable ← flag i description "configurable" ((old.map (·.configurable)).getD false)
  let getter ← member? i description "get"
  let setter ← member? i description "set"
  let (oldValue, oldWritable, oldGetter, oldSetter) := match old with
    | some ⟨.value value writable, _, _⟩ => (value, writable, Value.undefined, Value.undefined)
    | some ⟨.accessor getter setter, _, _⟩ => (.undefined, false, getter, setter)
    | none => (.undefined, false, .undefined, .undefined)
  if getter.isSome || setter.isSome then
    storeProperty address key
      ⟨.accessor (getter.getD oldGetter) (setter.getD oldSetter), enumerable, configurable⟩
  else
    let value := (← member? i description "value").getD oldValue
    let writable ← flag i description "writable" oldWritable
    let isElement := (Property.elementsOf? (← objectAt address).kind).isSome &&
      (key.index?.isSome || key == Property.lengthKey)
    if isElement then Access.putOwn address key value
    else storeProperty address key ⟨.value value writable, enumerable, configurable⟩

def defineProperty : Builtin := fun i call => do
  let address ← objectArgument (call.argument 0)
  define i address (← Operator.toKey i (call.argument 1)) (call.argument 2)
  return .object address

def defineAll (i : Interpreter) (address : Nat) (descriptions : Value) : Action Unit := do
  let source ← Operator.toObject descriptions
  (← listed source).forM fun key => do
    define i address key (← Access.get i descriptions key)

def defineProperties : Builtin := fun i call => do
  let address ← objectArgument (call.argument 0)
  defineAll i address (call.argument 1)
  return .object address

def create : Builtin := fun i call => do
  let prototype ← match call.argument 0 with
    | .object address => pure (some address)
    | .null => pure none
    | _ => typeFault "prototype may only be an object or null"
  let address ← newObject .plain prototype
  if !(call.argument 1).isUndefined then defineAll i address (call.argument 1)
  return .object address

def describe (property : Property) : Action Value := do
  let address ← newPlain
  let store := fun (name : String) (value : Value) =>
    storeProperty address (Units.ofString name) (.plain value)
  match property.slot with
  | .value value writable =>
    store "value" value
    store "writable" (.boolean writable)
  | .accessor getter setter =>
    store "get" getter
    store "set" setter
  store "enumerable" (.boolean property.enumerable)
  store "configurable" (.boolean property.configurable)
  return .object address

def ownDescriptor : Builtin := fun i call => do
  let address ← Operator.toObject (call.argument 0)
  match Property.own? (← objectAt address) (← Operator.toKey i (call.argument 1)) with
  | some property => describe property
  | none => return .undefined

def ownNames : Builtin := fun _ call => do
  let address ← Operator.toObject (call.argument 0)
  newArray ((Property.ownKeys (← objectAt address)).map fun (key, _) => .text key)

/-! ## Prototypes and freezing -/

def prototypeOf (value : Value) : Action Value := do
  match value with
  | .object address =>
    match (← objectAt address).prototype with
    | some parent => return .object parent
    | none => return .null
  | value => return .object (← Access.start value)

def getPrototype : Builtin := fun _ call => prototypeOf (call.argument 0)

def changePrototype (value parent : Value) : Action Unit := do
  match value, parent with
  | .object address, .object parent =>
    changeObject address fun object => { object with prototype := some parent }
  | .object address, .null =>
    changeObject address fun object => { object with prototype := none }
  | _, _ => return ()

def setPrototype : Builtin := fun _ call => do
  changePrototype (call.argument 0) (call.argument 1)
  return call.argument 0

def sealedProperty (freezes : Bool) (property : Property) : Property :=
  match property.slot with
  | .value value writable =>
    ⟨.value value (writable && !freezes), property.enumerable, false⟩
  | slot => ⟨slot, property.enumerable, false⟩

def restrict (freezes : Bool) : Builtin := fun _ call => do
  match call.argument 0 with
  | .object address =>
    changeObject address fun object => { object with
      extensible := false
      properties := object.properties.map fun (key, property) =>
        (key, sealedProperty freezes property) }
    return .object address
  | value => return value

def preventExtensions : Builtin := fun _ call => do
  match call.argument 0 with
  | .object address =>
    changeObject address fun object => { object with extensible := false }
    return .object address
  | value => return value

def isFixed (freezes : Bool) (property : Property) : Bool :=
  !property.configurable &&
    match property.slot with
    | .value _ writable => !(writable && freezes)
    | .accessor _ _ => true

def isRestricted (freezes : Bool) : Builtin := fun _ call => do
  match call.argument 0 with
  | .object address =>
    let object ← objectAt address
    return .boolean (!object.extensible && object.properties.all fun entry =>
      isFixed freezes entry.2)
  | _ => return .boolean true

def isExtensible : Builtin := fun _ call => do
  match call.argument 0 with
  | .object address => return .boolean (← objectAt address).extensible
  | _ => return .boolean false

/-- Like identity, but the two zeros differ, and what is no number is itself. -/
def isSame : Builtin := fun _ call => do
  match call.argument 0, call.argument 1 with
  | .number left, .number right => return .boolean (left.toBits == right.toBits)
  | left, right => return .boolean (Operator.identical left right)

/-! ## What all objects inherit -/

def hasOwn : Builtin := fun i call => do
  let key ← Operator.toKey i (call.argument 0)
  return .boolean (← Access.hasOwn (← Operator.toObject call.this) key)

def hasOwnOf : Builtin := fun i call => do
  let address ← Operator.toObject (call.argument 0)
  return .boolean (← Access.hasOwn address (← Operator.toKey i (call.argument 1)))

def isListed : Builtin := fun i call => do
  let key ← Operator.toKey i (call.argument 0)
  let address ← Operator.toObject call.this
  return .boolean ((Property.own? (← objectAt address) key).any (·.enumerable))

def isPrototype : Builtin := fun _ call => do
  match call.argument 0 with
  | .object address =>
    let wanted ← Operator.toObject call.this
    return .boolean (Operator.inherits (← machine).objects wanted Access.longestChain address)
  | _ => return .boolean false

def tagOf (value : Value) : Action String := do
  match value with
  | .undefined => return "Undefined"
  | .null => return "Null"
  | value =>
    match (← objectAt (← Operator.toObject value)).kind with
    | .array _ => return "Array"
    | .arguments _ => return "Arguments"
    | .closure _ _ _ _ => return "Function"
    | .builtin _ _ => return "Function"
    | .failure => return "Error"
    | .regex _ _ _ => return "RegExp"
    | .map _ => return "Map"
    | .set _ => return "Set"
    | .boxed (.text _) => return "String"
    | .boxed (.number _) => return "Number"
    | .boxed (.boolean _) => return "Boolean"
    | _ => return "Object"

def toText : Builtin := fun _ call => do
  return .string ("[object " ++ (← tagOf call.this) ++ "]")

def toLocalText : Builtin := fun i call => Access.invoke i call.this "toString" []

def valueOf : Builtin := fun _ call => do
  return .object (← Operator.toObject call.this)

def protoGetter : Builtin := fun _ call => prototypeOf call.this

def protoSetter : Builtin := fun _ call => do
  changePrototype call.this (call.argument 0)
  return .undefined

def statics : Group := ⟨"Object",
  [("assign", assign), ("create", create), ("defineProperties", defineProperties),
   ("defineProperty", defineProperty), ("entries", entries), ("freeze", restrict true),
   ("fromEntries", fromEntries), ("getOwnPropertyDescriptor", ownDescriptor),
   ("getOwnPropertyNames", ownNames), ("getPrototypeOf", getPrototype), ("hasOwn", hasOwnOf),
   ("is", isSame), ("isExtensible", isExtensible), ("isFrozen", isRestricted true),
   ("isSealed", isRestricted false), ("keys", keys), ("preventExtensions", preventExtensions),
   ("seal", restrict false), ("setPrototypeOf", setPrototype), ("values", values)]⟩

def methods : Group := ⟨"Object.prototype",
  [("hasOwnProperty", hasOwn), ("isPrototypeOf", isPrototype),
   ("propertyIsEnumerable", isListed), ("toLocaleString", toLocalText), ("toString", toText),
   ("valueOf", valueOf)]⟩

/-- The accessor of the prototype. -/
def protoAccessor : Group := ⟨"Object.prototype.proto",
  [("get", protoGetter), ("set", protoSetter)]⟩

end TemplateBuild.JavaScript.Library.Objects

import TemplateBuild.JavaScript.Action
import TemplateBuild.JavaScript.Numeral

/-!
# Properties of objects

Reading a property follows the chain of prototypes; storing one makes a property of the object
itself unless a property on the chain says otherwise.  Elements of arrays and characters of
texts are properties too.
-/

set_option autoImplicit false

namespace TemplateBuild.JavaScript

/-- How a statement ended, with the value that it leaves for the script as a whole. -/
inductive Completion where
  | normal (value : Option Value)
  | broke (label : Option Name) (value : Option Value)
  | continued (label : Option Name) (value : Option Value)
  | returned (value : Value)

namespace Completion

/-- The later value, if there is one. -/
def laterValue (earlier later : Option Value) : Option Value :=
  match later with
  | some value => some value
  | none => earlier

def withEarlier (earlier : Option Value) : Completion → Completion
  | .normal value => .normal (laterValue earlier value)
  | .broke label value => .broke label (laterValue earlier value)
  | .continued label value => .continued label (laterValue earlier value)
  | .returned value => .returned value

end Completion

/-- Running the parts of a script, for those that are given an interpreter of lesser depth. -/
structure Interpreter where
  evaluate : Context → Expr → Action Value
  execute : Context → Statement → Action Completion
  /-- Calls a function with a value for `this` and with arguments. -/
  call : Value → Value → List Value → Action Value
  /-- Constructs with a function, and arguments, for what `new` names. -/
  construct : Value → List Value → Value → Action Value

namespace Property

def lengthKey : Units := Units.ofString "length"

/-- The elements of an object that has some. -/
def elementsOf? : ObjectKind → Option (Array (Option Value))
  | .array elements => some elements
  | .arguments elements => some elements
  | _ => none

def withElements (kind : ObjectKind) (elements : Array (Option Value)) : ObjectKind :=
  match kind with
  | .arguments _ => .arguments elements
  | _ => .array elements

def isArrayKind : ObjectKind → Bool
  | .array _ => true
  | _ => false

def storedIn (object : Object) (key : Units) : Option Property :=
  (Action.placeOf? object.properties key).bind fun place =>
    (object.properties[place]?).map (·.2)

/-- The text of one unit. -/
def unitText (unit : UInt16) : Value :=
  .text #[unit]

/-- A property of the object itself. -/
def own? (object : Object) (key : Units) : Option Property :=
  match object.kind with
  | .array elements =>
    if key == lengthKey then
      some ⟨.value (.ofNat elements.size) object.extensible, false, false⟩
    else
      match (key.index?).bind fun index => (elements[index]?).join with
      | some value => some ⟨.value value object.extensible, true, object.extensible⟩
      | none => storedIn object key
  | .arguments elements =>
    match (key.index?).bind fun index => (elements[index]?).join with
    | some value => some (.plain value)
    | none => storedIn object key
  | .boxed (.text units) =>
    if key == lengthKey then some (.fixed (.ofNat units.size))
    else
      match (key.index?).bind fun index => units[index]? with
      | some unit => some ⟨.value (unitText unit) false, true, false⟩
      | none => storedIn object key
  | _ => storedIn object key

/-- A property of an object or of those that it inherits from, and whose it is. -/
def find? (objects : Array Object) (key : Units) : Nat → Nat → Option (Nat × Property)
  | 0, _ => none
  | fuel + 1, address =>
    match objects[address]? with
    | none => none
    | some object =>
      match own? object key with
      | some property => some (address, property)
      | none =>
        match object.prototype with
        | some parent => find? objects key fuel parent
        | none => none

def inserted (key : Nat) : List Nat → List Nat
  | [] => [key]
  | first :: rest => if key < first then key :: first :: rest else first :: inserted key rest

/-- The keys that are whole numbers in increasing order, then the others as they were added. -/
def storedKeys (properties : List (Units × Property)) : List (Units × Property) :=
  let numbers := properties.filterMap fun (key, _) => key.index?
  let increasing := numbers.foldl (fun sorted number => inserted number sorted) []
  (increasing.filterMap fun number => properties.find? fun entry => entry.1.index? == some number) ++
    properties.filter fun entry => entry.1.index?.isNone

/-- The keys of an object itself, and whether they are listed. -/
def ownKeys (object : Object) : List (Units × Bool) :=
  let elements := match object.kind with
    | .boxed (.text units) => (List.range units.size).map fun index => (Units.ofNat index, true)
    | kind =>
      match elementsOf? kind with
      | some elements => (elements.toList.zipIdx).filterMap fun (value, index) =>
        value.map fun _ => (Units.ofNat index, true)
      | none => []
  let length := match object.kind with
    | .array _ => [(lengthKey, false)]
    | .boxed (.text _) => [(lengthKey, false)]
    | _ => []
  elements ++
    (storedKeys object.properties.toList).map (fun (key, property) => (key, property.enumerable)) ++
    length

end Property

namespace Access

open Action hiding pure bind

/-- Chains of prototypes are followed so far. -/
def longestChain : Nat := 10000

def nothingFault {α : Type} : Action α :=
  typeFault "cannot convert 'null' or 'undefined' to object"

/-- The object from which a value inherits, the value itself if it is an object. -/
def start (value : Value) : Action Nat := do
  let prototypes := (← machine).prototypes
  match value with
  | .object address => return address
  | .text _ => return prototypes.text
  | .number _ => return prototypes.number
  | .boolean _ => return prototypes.boolean
  | _ => nothingFault

def lookup (value : Value) (key : Units) : Action (Option (Nat × Property)) := do
  let address ← start value
  return Property.find? (← machine).objects key longestChain address

/-- The value at a key of a text itself. -/
def ofText? (units key : Units) : Option Value :=
  if key == Property.lengthKey then some (.ofNat units.size)
  else (key.index?).bind fun index => (units[index]?).map Property.unitText

def get (i : Interpreter) (value : Value) (key : Units) : Action Value := do
  let direct := match value with
    | .text units => ofText? units key
    | _ => none
  match direct with
  | some found => return found
  | none =>
    match ← lookup value key with
    | none => return .undefined
    | some (_, ⟨.value found _, _, _⟩) => return found
    | some (_, ⟨.accessor .undefined _, _, _⟩) => return .undefined
    | some (_, ⟨.accessor getter _, _, _⟩) => i.call getter value []

def getNamed (i : Interpreter) (value : Value) (name : String) : Action Value :=
  get i value (Units.ofString name)

def has (address : Nat) (key : Units) : Action Bool := do
  return (Property.find? (← machine).objects key longestChain address).isSome

def hasOwn (address : Nat) (key : Units) : Action Bool := do
  return (Property.own? (← objectAt address) key).isSome

/-- Arrays do not grow by more than this at once. -/
def largestGap : Nat := 50000000

def padded (elements : Array (Option Value)) (size : Nat) : Array (Option Value) :=
  elements ++ Array.replicate (size - elements.size) none

def resize (elements : Array (Option Value)) (size : Nat) : Array (Option Value) :=
  if size ≤ elements.size then elements.extract 0 size else padded elements size

def storeElement (elements : Array (Option Value)) (index : Nat) (value : Value) :
    Array (Option Value) :=
  if index < elements.size then elements.set! index (some value)
  else (padded elements index).push (some value)

/-- A length for an array is a whole number of 32 bits. -/
def newLength (value : Value) : Action Nat := do
  match value with
  | .number number =>
    match Numeral.wholePart number with
    | some whole =>
      if Float.ofInt whole == number ∧ 0 ≤ whole ∧ whole < UInt32.size then return whole.toNat
      else raiseError .range "invalid array length"
    | none => raiseError .range "invalid array length"
  | _ => raiseError .range "invalid array length"

/-- Stores a value in an object itself. -/
def putOwn (address : Nat) (key : Units) (value : Value) : Action Unit := do
  let object ← objectAt address
  match Property.elementsOf? object.kind with
  | some elements =>
    match key.index? with
    | some index =>
      if index < elements.size + largestGap then
        changeObject address fun object =>
          match object.kind with
          | .array elements => { object with kind := .array (storeElement elements index value) }
          | .arguments elements =>
            { object with kind := .arguments (storeElement elements index value) }
          | _ => object
      else storeProperty address key (.plain value)
    | none =>
      if Property.isArrayKind object.kind && key == Property.lengthKey then
        let size ← newLength value
        if size > elements.size + largestGap then raiseError .range "invalid array length"
        changeObject address fun object => { object with kind := .array (resize elements size) }
      else update object
  | none => update object
where
  update (object : Object) : Action Unit :=
    match Property.storedIn object key with
    | some ⟨.value _ writable, enumerable, configurable⟩ =>
      storeProperty address key ⟨.value value writable, enumerable, configurable⟩
    | _ => storeProperty address key (.plain value)

/-- Stores a value; where that is not possible, strict code throws. -/
def set (i : Interpreter) (strict : Bool) (object : Value) (key : Units) (value : Value) :
    Action Unit := do
  let refuse : Action Unit :=
    if strict then typeFault ("cannot set property '" ++ key.toString ++ "'") else return ()
  match object with
  | .object address =>
    match Property.find? (← machine).objects key longestChain address with
    | some (_, ⟨.accessor _ .undefined, _, _⟩) => refuse
    | some (_, ⟨.accessor _ setter, _, _⟩) =>
      let _ ← i.call setter object [value]
    | some (owner, ⟨.value _ writable, _, _⟩) =>
      if !writable then refuse
      else if owner = address then putOwn address key value
      else if (← objectAt address).extensible then putOwn address key value
      else refuse
    | none => if (← objectAt address).extensible then putOwn address key value else refuse
  | value =>
    match ← lookup value key with
    | some (_, ⟨.accessor _ .undefined, _, _⟩) => refuse
    | some (_, ⟨.accessor _ setter, _, _⟩) =>
      let _ ← i.call setter object [value]
    | _ => refuse

/-- Deletes a property of the object itself; tells whether it is gone. -/
def delete (address : Nat) (key : Units) : Action Bool := do
  let object ← objectAt address
  match Property.own? object key with
  | none => return true
  | some property =>
    if !property.configurable then return false
    changeObject address fun object =>
      match Property.elementsOf? object.kind, key.index? with
      | some elements, some index =>
        if index < elements.size then
          { object with kind := Property.withElements object.kind (elements.set! index none) }
        else { object with properties := object.properties.filter fun entry => entry.1 != key }
      | _, _ => { object with properties := object.properties.filter fun entry => entry.1 != key }
    return true

def isCallable (value : Value) : Action Bool := do
  match value with
  | .object address =>
    match (← objectAt address).kind with
    | .closure _ _ _ _ => return true
    | .builtin _ _ => return true
    | _ => return false
  | _ => return false

/-- Calls the method of a value, which has to be a function. -/
def invoke (i : Interpreter) (value : Value) (name : String) (arguments : List Value) :
    Action Value := do
  i.call (← getNamed i value name) value arguments

/-- The elements of a list-like object, read one by one. -/
def listFrom (i : Interpreter) (object : Value) : Nat → Nat → Action (List Value)
  | 0, _ => return []
  | count + 1, index => do
    let value ← get i object (Units.ofNat index)
    return value :: (← listFrom i object count (index + 1))

end Access

end TemplateBuild.JavaScript

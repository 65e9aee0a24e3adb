import TemplateBuild.JavaScript.Library.Basic

/-!
# Functions on arrays

Functions that read take everything with a length for a list; holes are passed over where a
function is called for every element.  Sorting is stable and puts what is undefined last.
-/

set_option autoImplicit false

namespace TemplateBuild.JavaScript.Library.Lists

open Action hiding pure bind

def lengthOf (i : Interpreter) (value : Value) : Action Nat := do
  return (← Operator.toWhole i (← Access.get i value Property.lengthKey)).toNat

def slotsFrom (i : Interpreter) (value : Value) : Nat → Nat → Action (List (Option Value))
  | 0, _ => return []
  | count + 1, index => do
    let key := Units.ofNat index
    let present ← match value with
      | .object address => Access.has address key
      | _ => pure true
    let slot ← if present then pure (some (← Access.get i value key)) else pure none
    return slot :: (← slotsFrom i value count (index + 1))

/-- The elements, with holes. -/
def slotsOf (i : Interpreter) (value : Value) : Action (List (Option Value)) := do
  match value with
  | .object address =>
    match Property.elementsOf? (← objectAt address).kind with
    | some elements => return elements.toList
    | none => slotsFrom i value (← lengthOf i value) 0
  | value => slotsFrom i value (← lengthOf i value) 0

def itemsOf (i : Interpreter) (value : Value) : Action (List Value) := do
  return (← slotsOf i value).map (·.getD .undefined)

def storeFrom (i : Interpreter) (object : Value) : Nat → List (Option Value) → Action Unit
  | _, [] => return ()
  | index, slot :: rest => do
    match slot with
    | some value => Access.set i true object (Units.ofNat index) value
    | none =>
      match object with
      | .object address =>
        let _ ← Access.delete address (Units.ofNat index)
      | _ => pure ()
    storeFrom i object (index + 1) rest

/-- Puts other elements in place of those that an object has. -/
def replace (i : Interpreter) (object : Value) (slots : List (Option Value)) : Action Unit := do
  match object with
  | .object address =>
    match (← objectAt address).kind with
    | .array _ =>
      if !(← objectAt address).extensible then typeFault "array cannot be changed"
      changeObject address fun object => { object with kind := .array slots.toArray }
    | _ =>
      storeFrom i object 0 slots
      Access.set i true object Property.lengthKey (.ofNat slots.length)
  | _ => typeFault "not an object"

/-! ## Making arrays -/

def construct : Builtin := fun _ call => do
  match call.arguments with
  | [.number size] =>
    let count ← Access.newLength (.number size)
    if count > Access.largestGap then raiseError .range "invalid array length"
    return .object (← newObject (.array (Array.replicate count none))
      (some (← machine).prototypes.array))
  | values => newArray values

def isArray : Builtin := fun _ call => do
  match call.argument 0 with
  | .object address => return .boolean (Property.isArrayKind (← objectAt address).kind)
  | _ => return .boolean false

def of : Builtin := fun _ call => newArray call.arguments

def mapWith (i : Interpreter) (function this : Value) : Nat → List Value → Action (List Value)
  | _, [] => return []
  | index, value :: rest => do
    let result ← i.call function this [value, .ofNat index]
    return result :: (← mapWith i function this (index + 1) rest)

def from_ : Builtin := fun i call => do
  let source := call.argument 0
  let listed ← attempt (Step.valuesOf source)
  let values ← match listed with
    | .ok values => pure values
    | .error error =>
      if source.isNothing then throwValue error
      let address ← Operator.toObject source
      Access.listFrom i (.object address) (← lengthOf i (.object address)) 0
  match call.argument 1 with
  | .undefined => newArray values
  | function => newArray (← mapWith i (← callback function) (call.argument 2) 0 values)

/-! ## Changing arrays -/

def push : Builtin := fun i call => do
  match call.this with
  | .object address =>
    match (← objectAt address).kind with
    | .array elements =>
      if !(← objectAt address).extensible then typeFault "array cannot be changed"
      changeObject address fun object =>
        match object.kind with
        | .array elements =>
          { object with kind := .array (elements ++ (call.arguments.map some).toArray) }
        | _ => object
      return .ofNat (elements.size + call.arguments.length)
    | _ => generic i call
  | _ => generic i call
where
  generic (i : Interpreter) (call : Invocation) : Action Value := do
    let length ← lengthOf i call.this
    storeFrom i call.this length (call.arguments.map some)
    let size := length + call.arguments.length
    Access.set i true call.this Property.lengthKey (.ofNat size)
    return .ofNat size

def pop : Builtin := fun i call => do
  let slots ← slotsOf i call.this
  replace i call.this slots.dropLast
  return (slots.getLast?.join).getD .undefined

def shift : Builtin := fun i call => do
  let slots ← slotsOf i call.this
  replace i call.this (slots.drop 1)
  return (slots.head?.join).getD .undefined

def unshift : Builtin := fun i call => do
  let slots := call.arguments.map some ++ (← slotsOf i call.this)
  replace i call.this slots
  return .ofNat slots.length

def newSlots (slots : List (Option Value)) : Action Value := do
  return .object (← newObject (.array slots.toArray) (some (← machine).prototypes.array))

def splice : Builtin := fun i call => do
  let slots ← slotsOf i call.this
  let start ← placeArgument i call 0 slots.length 0
  let count ← match call.arguments with
    | [] => pure 0
    | [_] => pure (slots.length - start)
    | _ =>
      let wanted ← Operator.toWhole i (call.argument 1)
      pure (min wanted.toNat (slots.length - start))
  replace i call.this
    (slots.take start ++ (call.arguments.drop 2).map some ++ slots.drop (start + count))
  newSlots ((slots.drop start).take count)

def reverse : Builtin := fun i call => do
  replace i call.this (← slotsOf i call.this).reverse
  return call.this

def fill : Builtin := fun i call => do
  let slots ← slotsOf i call.this
  let start ← placeArgument i call 1 slots.length 0
  let last ← placeArgument i call 2 slots.length slots.length
  replace i call.this (slots.zipIdx.map fun (slot, index) =>
    if start ≤ index ∧ index < last then some (call.argument 0) else slot)
  return call.this

/-! ## Sorting -/

/-- Whether the second of two values belongs before the first. -/
def belongsBefore (i : Interpreter) (order left right : Value) : Action Bool := do
  if order.isUndefined then
    let left ← Operator.toText i left
    let right ← Operator.toText i right
    return Units.before right.toList left.toList
  return (← Operator.toNumber i (← i.call order .undefined [left, right])) > 0.0

def merge (i : Interpreter) (order : Value) : Nat → List Value → List Value → Action (List Value)
  | 0, left, right => return left ++ right
  | _, [], right => return right
  | _, left, [] => return left
  | fuel + 1, left :: leftRest, right :: rightRest => do
    if ← belongsBefore i order left right then
      return right :: (← merge i order fuel (left :: leftRest) rightRest)
    else return left :: (← merge i order fuel leftRest (right :: rightRest))

def sorted (i : Interpreter) (order : Value) : Nat → List Value → Action (List Value)
  | 0, values => return values
  | _, [] => return []
  | _, [only] => return [only]
  | fuel + 1, values => do
    let middle := values.length / 2
    let left ← sorted i order fuel (values.take middle)
    let right ← sorted i order fuel (values.drop middle)
    merge i order (values.length + 1) left right

def sort : Builtin := fun i call => do
  let order ← match call.argument 0 with
    | .undefined => pure .undefined
    | function => callback function
  let slots ← slotsOf i call.this
  let present := slots.filterMap id
  let defined := present.filter (!·.isUndefined)
  let result ← sorted i order (defined.length + 1) defined
  let missing := present.length - defined.length
  replace i call.this (result.map some ++ List.replicate missing (some .undefined) ++
    List.replicate (slots.length - present.length) none)
  return call.this

/-! ## Reading arrays -/

def slice : Builtin := fun i call => do
  let slots ← slotsOf i call.this
  let start ← placeArgument i call 0 slots.length 0
  let last ← placeArgument i call 1 slots.length slots.length
  newSlots ((slots.drop start).take (last - start))

def concatenated : List Value → Action (List (Option Value))
  | [] => return []
  | value :: rest => do
    let own ← match value with
      | .object address =>
        match (← objectAt address).kind with
        | .array elements => pure elements.toList
        | _ => pure [some value]
      | value => pure [some value]
    return own ++ (← concatenated rest)

def concat : Builtin := fun _ call => do
  newSlots (← concatenated (call.this :: call.arguments))

/-- Nothing and holes have an empty text. -/
def texts (i : Interpreter) : List Value → Action (List Units)
  | [] => return []
  | value :: rest => do
    let text ← if value.isNothing then pure #[] else Operator.toText i value
    return text :: (← texts i rest)

def joined (separator : Units) : List Units → Units
  | [] => #[]
  | first :: rest => rest.foldl (fun text next => text ++ separator ++ next) first

def join : Builtin := fun i call => do
  let separator ← match call.argument 0 with
    | .undefined => pure (Units.ofString ",")
    | value => Operator.toText i value
  return .text (joined separator (← texts i (← itemsOf i call.this)))

def toText : Builtin := fun i call => do
  return .text (joined (Units.ofString ",") (← texts i (← itemsOf i call.this)))

def indexOf : Builtin := fun i call => do
  let slots ← slotsOf i call.this
  let start ← placeArgument i call 1 slots.length 0
  let found := (slots.zipIdx.drop start).find? fun (slot, _) =>
    slot.any (Operator.identical (call.argument 0))
  return .ofInt (match found with
    | some (_, index) => index
    | none => -1)

def lastIndexOf : Builtin := fun i call => do
  let slots ← slotsOf i call.this
  let found := slots.zipIdx.reverse.find? fun (slot, _) =>
    slot.any (Operator.identical (call.argument 0))
  return .ofInt (match found with
    | some (_, index) => index
    | none => -1)

def includes : Builtin := fun i call => do
  let items ← itemsOf i call.this
  let start ← placeArgument i call 1 items.length 0
  return .boolean ((items.drop start).any (Operator.sameValue (call.argument 0)))

def at_ : Builtin := fun i call => do
  let items ← itemsOf i call.this
  let place ← Operator.toWhole i (call.argument 0)
  let index := if place < 0 then place + items.length else place
  if index < 0 then return .undefined
  return (items[index.toNat]?).getD .undefined

/-! ## Calling back -/

/-- Calls a function for every element that is there, with its place and the list. -/
def visit {σ : Type} (i : Interpreter) (call : Invocation) (holes : Bool)
    (next : σ → Nat → Value → Value → Sum σ Value) (finish : σ → Action Value) :
    Nat → σ → List (Option Value) → Action Value
  | _, state, [] => finish state
  | index, state, slot :: rest => do
    match slot, holes with
    | none, false => visit i call holes next finish (index + 1) state rest
    | slot, _ =>
      let value := slot.getD .undefined
      let result ← i.call (call.argument 0) (call.argument 1) [value, .ofNat index, call.this]
      match next state index value result with
      | .inl state => visit i call holes next finish (index + 1) state rest
      | .inr result => return result

def visitAll {σ : Type} (holes : Bool) (start : σ)
    (next : σ → Nat → Value → Value → Sum σ Value) (finish : σ → Action Value) : Builtin :=
  fun i call => do
    let slots ← slotsOf i call.this
    let _ ← callback (call.argument 0)
    visit i call holes next finish 0 start slots

def forEach : Builtin :=
  visitAll false () (fun _ _ _ _ => .inl ()) fun _ => return .undefined

def filter : Builtin :=
  visitAll false ([] : List Value)
    (fun kept _ value result =>
      .inl (if Operator.toBoolean result then value :: kept else kept))
    fun kept => newArray kept.reverse

def some_ : Builtin :=
  visitAll false () (fun _ _ _ result =>
      if Operator.toBoolean result then .inr (.boolean true) else .inl ())
    fun _ => return .boolean false

def every : Builtin :=
  visitAll false () (fun _ _ _ result =>
      if Operator.toBoolean result then .inl () else .inr (.boolean false))
    fun _ => return .boolean true

def find : Builtin :=
  visitAll true () (fun _ _ value result =>
      if Operator.toBoolean result then .inr value else .inl ())
    fun _ => return .undefined

def findIndex : Builtin :=
  visitAll true () (fun _ index _ result =>
      if Operator.toBoolean result then .inr (.ofNat index) else .inl ())
    fun _ => return .ofInt (-1)

def mapSlots (i : Interpreter) (call : Invocation) :
    Nat → List (Option Value) → Action (List (Option Value))
  | _, [] => return []
  | index, none :: rest => return none :: (← mapSlots i call (index + 1) rest)
  | index, some value :: rest => do
    let result ← i.call (call.argument 0) (call.argument 1) [value, .ofNat index, call.this]
    return some result :: (← mapSlots i call (index + 1) rest)

def map : Builtin := fun i call => do
  let slots ← slotsOf i call.this
  let _ ← callback (call.argument 0)
  newSlots (← mapSlots i call 0 slots)

def fold (i : Interpreter) (call : Invocation) :
    Value → List (Value × Nat) → Action Value
  | result, [] => return result
  | result, (value, index) :: rest => do
    let next ← i.call (call.argument 0) .undefined [result, value, .ofNat index, call.this]
    fold i call next rest

/-- Without a first value the first element is taken. -/
def reduceFrom (backwards : Bool) : Builtin := fun i call => do
  let slots ← slotsOf i call.this
  let _ ← callback (call.argument 0)
  let present := slots.zipIdx.filterMap fun (slot, index) => slot.map fun value => (value, index)
  let ordered := if backwards then present.reverse else present
  match call.arguments, ordered with
  | _ :: start :: _, ordered => fold i call start ordered
  | _, (first, _) :: rest => fold i call first rest
  | _, [] => typeFault "reduce of empty array with no initial value"

/-- The elements with those of arrays among them, so many levels deep. -/
def flatten : Nat → List (Option Value) → Action (List Value)
  | 0, slots => return slots.filterMap id
  | depth + 1, slots =>
    slots.foldlM (fun result slot => do
      match slot with
      | none => return result
      | some (.object address) =>
        match (← objectAt address).kind with
        | .array elements => return result ++ (← flatten depth elements.toList)
        | _ => return result ++ [.object address]
      | some value => return result ++ [value]) []

def flat : Builtin := fun i call => do
  let slots ← slotsOf i call.this
  let depth ← match call.argument 0 with
    | .undefined => pure 1
    | value => pure (min (← Operator.toWhole i value).toNat 1000)
  newArray (← flatten depth slots)

def flatMap : Builtin := fun i call => do
  let slots ← slotsOf i call.this
  let _ ← callback (call.argument 0)
  newArray (← flatten 1 (← mapSlots i call 0 slots))

def keys : Builtin := fun i call => do
  newArray ((List.range (← lengthOf i call.this)).map .ofNat)

def values : Builtin := fun i call => do
  newArray (← itemsOf i call.this)

def pairsFrom : Nat → List Value → Action (List Value)
  | _, [] => return []
  | index, value :: rest => do
    let pair ← newArray [.ofNat index, value]
    return pair :: (← pairsFrom (index + 1) rest)

def entries : Builtin := fun i call => do
  newArray (← pairsFrom 0 (← itemsOf i call.this))

def statics : Group := ⟨"Array", [("from", from_), ("isArray", isArray), ("of", of)]⟩

def methods : Group := ⟨"Array.prototype",
  [("at", at_), ("concat", concat), ("entries", entries), ("every", every), ("fill", fill),
   ("filter", filter), ("find", find), ("findIndex", findIndex), ("flat", flat),
   ("flatMap", flatMap), ("forEach", forEach), ("includes", includes), ("indexOf", indexOf),
   ("join", join), ("keys", keys), ("lastIndexOf", lastIndexOf), ("map", map), ("pop", pop),
   ("push", push), ("reduce", reduceFrom false), ("reduceRight", reduceFrom true),
   ("reverse", reverse), ("shift", shift), ("slice", slice), ("some", some_), ("sort", sort),
   ("splice", splice), ("toString", toText), ("unshift", unshift), ("values", values)]⟩

end TemplateBuild.JavaScript.Library.Lists

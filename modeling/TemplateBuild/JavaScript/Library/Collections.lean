import TemplateBuild.JavaScript.Library.Lists

/-!
# Maps and sets

Entries are kept in the order in which they were added.
-/

set_option autoImplicit false

namespace TemplateBuild.JavaScript.Library.Collections

open Action hiding pure bind

/-- An erased entry leaves a gap. -/
abbrev Entries := Array (Option (Value × Value))

def entriesOf (value : Value) : Action (Nat × Entries) := do
  match value with
  | .object address =>
    match (← objectAt address).kind with
    | .map entries => return (address, entries)
    | .set entries => return (address, entries.map (·.map fun value => (value, value)))
    | _ => typeFault "not a collection"
  | _ => typeFault "not a collection"

def store (address : Nat) (entries : Entries) : Action Unit :=
  changeObject address fun object =>
    match object.kind with
    | .map _ => { object with kind := .map entries }
    | .set _ => { object with kind := .set (entries.map (·.map (·.1))) }
    | _ => object

def placeOf? (entries : Entries) (key : Value) : Option Nat :=
  entries.findIdx? fun entry => entry.any fun (other, _) => Operator.sameValue other key

def put (entries : Entries) (key value : Value) : Entries :=
  match placeOf? entries key with
  | some place => entries.set! place (some (key, value))
  | none => entries.push (some (key, value))

def pairOf (i : Interpreter) (pair : Value) : Action (Value × Value) := do
  match pair with
  | .object _ =>
    return (← Access.get i pair (Units.ofNat 0), ← Access.get i pair (Units.ofNat 1))
  | _ => typeFault "iterator item is not an object"

def constructMap : Builtin := fun i call => do
  match call.newTarget with
  | none => typeFault "constructor needs 'new'"
  | some target =>
    let prototype ← Step.prototypeFor i target (← machine).prototypes.map
    let items ← if (call.argument 0).isNothing then pure [] else Step.valuesOf (call.argument 0)
    let pairs ← items.mapM (pairOf i)
    let entries : Entries := pairs.foldl (fun entries (key, value) => put entries key value) #[]
    return .object (← newObject (.map entries) (some prototype))

def constructSet : Builtin := fun i call => do
  match call.newTarget with
  | none => typeFault "constructor needs 'new'"
  | some target =>
    let prototype ← Step.prototypeFor i target (← machine).prototypes.set
    let items ← if (call.argument 0).isNothing then pure [] else Step.valuesOf (call.argument 0)
    let entries : Entries := items.foldl (fun entries value => put entries value value) #[]
    return .object (← newObject (.set (entries.map (·.map (·.1)))) (some prototype))

def get : Builtin := fun _ call => do
  let (_, entries) ← entriesOf call.this
  match placeOf? entries (call.argument 0) with
  | some place => return ((entries[place]?).join.map (·.2)).getD .undefined
  | none => return .undefined

def set : Builtin := fun _ call => do
  let (address, entries) ← entriesOf call.this
  store address (put entries (call.argument 0) (call.argument 1))
  return call.this

def add : Builtin := fun _ call => do
  let (address, entries) ← entriesOf call.this
  store address (put entries (call.argument 0) (call.argument 0))
  return call.this

def has : Builtin := fun _ call => do
  let (_, entries) ← entriesOf call.this
  return .boolean (placeOf? entries (call.argument 0)).isSome

def delete : Builtin := fun _ call => do
  let (address, entries) ← entriesOf call.this
  match placeOf? entries (call.argument 0) with
  | some place =>
    store address (entries.set! place none)
    return .boolean true
  | none => return .boolean false

def clear : Builtin := fun _ call => do
  let (address, _) ← entriesOf call.this
  store address #[]
  return .undefined

def size : Builtin := fun _ call => do
  let (_, entries) ← entriesOf call.this
  return .ofNat (entries.toList.filterMap id).length

def forEach : Builtin := fun i call => do
  let (_, entries) ← entriesOf call.this
  let function ← callback (call.argument 0)
  (entries.toList.filterMap id).forM fun (key, value) => do
    let _ ← i.call function (call.argument 1) [value, key, call.this]
  return .undefined

def keys : Builtin := fun _ call => do
  let (_, entries) ← entriesOf call.this
  newArray ((entries.toList.filterMap id).map (·.1))

def values : Builtin := fun _ call => do
  let (_, entries) ← entriesOf call.this
  newArray ((entries.toList.filterMap id).map (·.2))

def pairs : Builtin := fun _ call => do
  let (_, entries) ← entriesOf call.this
  newArray (← Step.valuesOf.pairs (entries.toList.filterMap id))

def mapMethods : Group := ⟨"Map.prototype",
  [("clear", clear), ("delete", delete), ("entries", pairs), ("forEach", forEach), ("get", get),
   ("has", has), ("keys", keys), ("set", set), ("values", values)]⟩

def setMethods : Group := ⟨"Set.prototype",
  [("add", add), ("clear", clear), ("delete", delete), ("entries", pairs), ("forEach", forEach),
   ("has", has), ("keys", keys), ("values", values)]⟩

def accessors : Group := ⟨"Collection.get", [("size", size)]⟩

end TemplateBuild.JavaScript.Library.Collections

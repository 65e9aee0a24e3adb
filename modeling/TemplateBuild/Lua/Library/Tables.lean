import TemplateBuild.Lua.Library.Basic

/-!
# Functions on lists

Tables with the keys 1, 2, 3, … as lists.  Reading and storing go through metatables.  Sorting
takes a middle element as pivot; which elements are compared, and in which order, can be seen
by the script.
-/

set_option autoImplicit false

namespace TemplateBuild.Lua.Library.Tables

open Action

def read (i : Interpreter) (address : Nat) (place : Int) : Action Value :=
  Operator.index i (.table address) (.integer (Int64.ofInt place)) none

def store (i : Interpreter) (address : Nat) (place : Int) (value : Value) : Action Unit :=
  Operator.setIndex i (.table address) (.integer (Int64.ofInt place)) value none

def lengthOf (i : Interpreter) (address : Nat) : Action Int := do
  match ← Operator.length i (.table address) none with
  | .integer value => return value.toInt
  | .float value =>
    match wholeOf? value with
    | some whole => return whole.toInt
    | none => callerFault "object length is not an integer"
  | _ => callerFault "object length is not an integer"

/-- Copies so many values one by one, with a step of one or minus one. -/
def copy (i : Interpreter) (source target : Nat) (step : Int) : Nat → Int → Int → Action Unit
  | 0, _, _ => return ()
  | count + 1, first, place => do
    store i target place (← read i source first)
    copy i source target step count (first + step) (place + step)

def insert : Builtin := fun i _ arguments => do
  let address ← Argument.table arguments 1
  let free := (← lengthOf i address) + 1
  match arguments with
  | [_, value] =>
    store i address free value
    return []
  | [_, _, value] =>
    let place ← Argument.integer arguments 2
    if place < 1 ∨ free < place then Argument.refuse 2 "position out of bounds"
    copy i address address (-1) (free - place).toNat (free - 1) free
    store i address place value
    return []
  | _ => callerFault "wrong number of arguments to 'insert'"

def remove : Builtin := fun i _ arguments => do
  let address ← Argument.table arguments 1
  let size ← lengthOf i address
  let place ← Argument.integerOr arguments 2 size
  if place ≠ size ∧ (place < 1 ∨ size + 1 < place) then
    Argument.refuse 2 "position out of bounds"
  let removed ← read i address place
  copy i address address 1 (size - place).toNat (place + 1) place
  store i address (max place size) .nil
  return [removed]

def move : Builtin := fun i _ arguments => do
  let first ← Argument.integer arguments 2
  let last ← Argument.integer arguments 3
  let place ← Argument.integer arguments 4
  let source ← Argument.table arguments 1
  let target ← if Argument.isAbsent arguments 5 then Action.pure source
    else Argument.table arguments 5
  if last ≥ first then
    if first ≤ 0 ∧ last ≥ Int64.maxValue.toInt + first then
      Argument.refuse 3 "too many elements to move"
    if place > Int64.maxValue.toInt - (last - first) then Argument.refuse 4 "destination wrap around"
    let count := (last - first + 1).toNat
    if place > last ∨ place ≤ first ∨ source ≠ target then
      copy i source target 1 count first place
    else copy i source target (-1) count last (place + count - 1)
  return [.table target]

def piece (i : Interpreter) (address : Nat) (place : Int) : Action Bytes := do
  match Operator.textOf? (← read i address place) with
  | some text => return text
  | none =>
    callerFault ("invalid value (at index " ++ toString place ++ ") in table for 'concat'")

def pieces (i : Interpreter) (address : Nat) : Nat → Int → Action (List Bytes)
  | 0, _ => return []
  | count + 1, place => do
    let text ← piece i address place
    return text :: (← pieces i address count (place + 1))

def concat : Builtin := fun i _ arguments => do
  let address ← Argument.table arguments 1
  let size ← lengthOf i address
  let separator ← Argument.textOr arguments 2 []
  let first ← Argument.integerOr arguments 3 1
  let last ← Argument.integerOr arguments 4 size
  let texts ← pieces i address (last - first + 1).toNat first
  return [.text (List.intercalate separator texts)]

def pack : Builtin := fun _ _ arguments => do
  let object ← newTable
    { (Table.withRoom arguments.length 1 : ValueTable) with
      array := (arguments.map stored).toArray }
  match object with
  | .table address =>
    rawSetNamed address "n" (.integer (Int64.ofNat arguments.length))
    return [object]
  | _ => return [object]

/-- No more values than this are handed over at once. -/
def mostValues : Int := 999980

def elements (i : Interpreter) (list : Value) : Nat → Int → Action (List Value)
  | 0, _ => return []
  | count + 1, place => do
    let value ← Operator.index i list (.integer (Int64.ofInt place)) none
    return value :: (← elements i list count (place + 1))

def unpack : Builtin := fun i _ arguments => do
  let list := Argument.value arguments 1
  let first ← Argument.integerOr arguments 2 1
  let last ←
    if Argument.isAbsent arguments 3 then
      match list with
      | .table address => lengthOf i address
      | _ =>
        match ← Operator.length i list none with
        | .integer value => Action.pure value.toInt
        | _ => callerFault "object length is not an integer"
    else Argument.integer arguments 3
  if first > last then return []
  if last - first ≥ mostValues then callerFault "too many results to unpack"
  elements i list (last - first + 1).toNat first

/-! ## Sorting -/

/-- Whether one value comes before another, by the given function or by the order of values. -/
def precedes (i : Interpreter) (order : Value) (left right : Value) : Action Bool := do
  if order.isNil then Operator.ordered i false left right
  else return (← Operator.callOne i order [left, right]).isTrue

/-- The first place from `place + step` on whose element does not lie on its side of the pivot.
-/
def scan (i : Interpreter) (address : Nat) (stays : Value → Action Bool) (step : Int)
    (beyond : Int → Bool) (place : Int) : Action (Int × Value) :=
  iterate (fun (place : Int) => do
    let next := place + step
    let value ← read i address next
    if ← stays value then
      if beyond next then callerFault "invalid order function for sorting"
      return .inl next
    else return .inr (next, value)) endless place

/-- Brings elements below the pivot before those above it; the pivot is the last but one. -/
def partition (i : Interpreter) (order : Value) (address : Nat) (low high : Int)
    (pivot : Value) : Action Int :=
  iterate (fun (state : Int × Int) => do
    let (left, leftValue) ← scan i address (fun value => precedes i order value pivot) 1
      (fun place => place == high - 1) state.1
    let (right, rightValue) ← scan i address (fun value => precedes i order pivot value) (-1)
      (fun place => place < left) state.2
    if right < left then
      let last ← read i address (high - 1)
      store i address (high - 1) leftValue
      store i address left last
      return .inr left
    store i address left rightValue
    store i address right leftValue
    return .inl (left, right)) endless (low, high - 1)

/-- Puts two elements in order. -/
def arrange (i : Interpreter) (order : Value) (address : Nat) (low high : Int) : Action Bool := do
  let lowValue ← read i address low
  let highValue ← read i address high
  if ← precedes i order highValue lowValue then
    store i address low highValue
    store i address high lowValue
    return true
  return false

/-- Sorts the elements between two places. -/
def sortBetween (i : Interpreter) (order : Value) (address : Nat) : Nat → Int → Int → Action Unit
  | 0, _, _ => exhausted
  | fuel + 1, low, high => do
    if low ≥ high then return ()
    let _ ← arrange i order address low high
    if high - low = 1 then return ()
    let middle := (low + high) / 2
    if !(← arrange i order address low middle) then
      let _ ← arrange i order address middle high
    if high - low = 2 then return ()
    let pivot ← read i address middle
    let last ← read i address (high - 1)
    store i address middle last
    store i address (high - 1) pivot
    let place ← partition i order address low high pivot
    if place - low < high - place then
      sortBetween i order address fuel low (place - 1)
      sortBetween i order address fuel (place + 1) high
    else
      sortBetween i order address fuel (place + 1) high
      sortBetween i order address fuel low (place - 1)

def sort : Builtin := fun i _ arguments => do
  let address ← Argument.table arguments 1
  let size ← lengthOf i address
  if size > 1 then
    if size ≥ 1 <<< 31 - 1 then Argument.refuse 1 "array too big"
    let order ← if Argument.isAbsent arguments 2 then Action.pure .nil
      else Argument.function arguments 2
    sortBetween i order address (size.toNat + 1) 1 size
  return []

def functions : Functions :=
  [("concat", concat), ("insert", insert), ("move", move), ("pack", pack), ("remove", remove),
   ("sort", sort), ("unpack", unpack)]

end TemplateBuild.Lua.Library.Tables

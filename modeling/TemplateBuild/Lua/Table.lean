/-!
# Lua tables

A table keeps the values at the keys 1, 2, 3, … in an array part and all other entries in a
node part.  Both parts have a capacity.  An entry that finds the node part full leads to a
rebuild: the array part takes the largest power of two of which more than half would be in
use, and the nodes the least power of two that holds the rest.

Where a table has holes, its length depends on this division: `Table.border` looks for a
key that is present while the next one is absent, first in the array part and then beyond it.
-/

set_option autoImplicit false

namespace TemplateBuild.Lua

/-- Keys are whole numbers, which may lie in the array part, or anything else. -/
inductive Key (κ : Type) where
  | index (number : Int)
  | other (key : κ)
deriving DecidableEq, Repr

/-- `array` holds the keys from 1 to its size; `limit` is where the search for a border starts
and at most that size.  A node whose value is `none` is an erased entry. -/
structure Table (κ ν : Type) where
  array : Array (Option ν)
  limit : Nat
  nodes : Array (Key κ × Option ν)
  capacity : Nat

namespace Table

variable {κ ν : Type} [DecidableEq κ]

def empty : Table κ ν :=
  ⟨#[], 0, #[], 0⟩

/-- The least power of two that is not below a number; no room for no entry. -/
def roomFor (count : Nat) : Nat :=
  if count = 0 then 0
  else if count = 1 then 1
  else 1 <<< (Nat.log2 (count - 1) + 1)

/-- A table with room for so many list items and so many other entries. -/
def withRoom (items entries : Nat) : Table κ ν :=
  ⟨Array.replicate items none, items, #[], roomFor entries⟩

/-- The place of a key in the array part. -/
def slot? (table : Table κ ν) : Key κ → Option Nat
  | .index number =>
    if 1 ≤ number ∧ number ≤ table.array.size then some (number - 1).toNat else none
  | .other _ => none

def nodeAt? (table : Table κ ν) (key : Key κ) : Option Nat :=
  table.nodes.findIdx? fun node => node.1 = key

def get? (table : Table κ ν) (key : Key κ) : Option ν :=
  match table.slot? key with
  | some slot => (table.array[slot]?).join
  | none => (table.nodes.find? fun node => node.1 = key).bind (·.2)

/-- The entries that are present, the array part first. -/
def entries (table : Table κ ν) : List (Key κ × ν) :=
  (table.array.toList.zipIdx.filterMap fun (value, place) =>
      value.map fun value => (.index (place + 1 : Nat), value)) ++
    table.nodes.toList.filterMap fun (key, value) => value.map fun value => (key, value)

/-- The powers of two between which a key that could lie in the array part falls. -/
def bucketOf? : Key κ → Option Nat
  | .index number =>
    if 1 ≤ number ∧ number.toNat ≤ 1 <<< 27 then some (roomFor number.toNat).log2 else none
  | .other _ => none

/-- The size for the array part, from how many keys fall in each bucket: the largest power of
two of which more than half is in use. -/
def arraySize (buckets : List Nat) : Nat :=
  let total := buckets.foldl (· + ·) 0
  let rec scan : List Nat → Nat → Nat → Nat → Nat
    | [], _, _, best => best
    | count :: rest, power, sum, best =>
      if total > power / 2 then
        let next := sum + count
        scan rest (power * 2) next (if next > power / 2 then power else best)
      else best
  scan buckets 1 0 0

def countBuckets (keys : List (Key κ)) : List Nat :=
  let places := keys.filterMap bucketOf?
  (List.range 28).map fun bucket => places.count bucket

/-- Puts an entry where it belongs; its key must not be among the nodes. -/
def place (table : Table κ ν) (entry : Key κ × ν) : Table κ ν :=
  match table.slot? entry.1 with
  | some slot => { table with array := table.array.set! slot (some entry.2) }
  | none => { table with nodes := table.nodes.push (entry.1, some entry.2) }

/-- Divides the entries anew between an array part and a node part of these sizes. -/
def resize (table : Table κ ν) (items entries : Nat) : Table κ ν :=
  table.entries.foldl place (withRoom items entries)

/-- The division that the entries and one more key ask for. -/
def rebuild (table : Table κ ν) (key : Key κ) : Table κ ν :=
  let keys := key :: table.entries.map (·.1)
  let items := arraySize (countBuckets keys)
  let inArray := (keys.filter fun key =>
    match key with
    | .index number => 1 ≤ number ∧ number ≤ items
    | .other _ => false).length
  table.resize items (keys.length - inArray)

/-- Stores a value, or erases the entry. -/
def set (table : Table κ ν) (key : Key κ) (value : Option ν) : Table κ ν :=
  match table.slot? key with
  | some slot => { table with array := table.array.set! slot value }
  | none =>
    match table.nodeAt? key with
    | some node => { table with nodes := table.nodes.set! node (key, value) }
    | none =>
      match value with
      | none => table
      | some value =>
        if table.nodes.size < table.capacity then
          { table with nodes := table.nodes.push (key, some value) }
        else (table.rebuild key).place (key, value)

def ofEntries (entries : List (Key κ × ν)) : Table κ ν :=
  entries.foldl (fun table (key, value) => table.set key (some value)) empty

def ofList (values : List ν) : Table κ ν :=
  ⟨(values.map some).toArray, values.length, #[], 0⟩

def hasIndex (table : Table κ ν) (number : Nat) : Bool :=
  (table.get? (.index number)).isSome

/-- Halves the distance between a key that is present, or zero, and a greater one that is
absent until they are neighbours. -/
def bisect (present : Nat → Bool) : Nat → Nat → Nat → Nat
  | 0, low, _ => low
  | fuel + 1, low, high =>
    if high - low > 1 then
      let middle := (low + high) / 2
      if present middle then bisect present fuel middle high
      else bisect present fuel low middle
    else low

/-- No border lies beyond the greatest whole number. -/
def greatestIndex : Nat := 1 <<< 63 - 1

/-- Doubles a key that is present until it is absent, then bisects. -/
def searchBeyond (present : Nat → Bool) : Nat → Nat → Nat
  | 0, low => low
  | fuel + 1, low =>
    let next := if low ≤ greatestIndex / 2 then low * 2 else greatestIndex
    if present next then
      if next = greatestIndex then next else searchBeyond present fuel next
    else bisect present 64 low next

def isPowerOfTwo (number : Nat) : Bool :=
  number != 0 && 1 <<< Nat.log2 number == number

/-- The border, and where the next search starts. -/
def borderAndLimit (table : Table κ ν) : Nat × Nat :=
  let size := table.array.size
  let present := table.hasIndex
  let keep := fun (border : Nat) =>
    if (table.limit ≠ size ∨ isPowerOfTwo size) ∧ border > size / 2 then border else table.limit
  if 0 < table.limit ∧ !present table.limit then
    let border :=
      if 2 ≤ table.limit ∧ present (table.limit - 1) then table.limit - 1
      else bisect present 64 0 table.limit
    (border, keep border)
  else if table.limit < size ∧ !present (table.limit + 1) then (table.limit, table.limit)
  else if table.limit < size ∧ !present size then
    let border := bisect present 64 table.limit size
    (border, border)
  else if present (size + 1) then
    (searchBeyond present 64 (if size = 0 then 1 else size), table.limit)
  else (size, table.limit)

def border (table : Table κ ν) : Nat :=
  table.borderAndLimit.1

/-- The values at 1, 2, 3, … up to the first key that is absent. -/
def sequenceFrom (table : Table κ ν) : Nat → Nat → List ν
  | 0, _ => []
  | fuel + 1, number =>
    match table.get? (.index number) with
    | some value => value :: sequenceFrom table fuel (number + 1)
    | none => []

def sequence (table : Table κ ν) : List ν :=
  table.sequenceFrom (table.entries.length + 1) 1

end Table

end TemplateBuild.Lua

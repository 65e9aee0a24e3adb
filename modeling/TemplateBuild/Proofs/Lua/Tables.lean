import Mathlib.Data.List.Induction
import Mathlib.Data.List.Nodup
import Mathlib.Tactic.Linarith
import TemplateBuild.Lua.Table

/-!
# What tables hold

A table answers for a key with what was stored under it last, wherever the entry lies and however
often the two parts were divided anew.  It lists every entry that is present, and each key once.
-/

set_option autoImplicit false

namespace TemplateBuild.Lua

namespace Table

variable {κ ν : Type}

/-! ## Places -/

theorem slot?_eq_some_iff {table : Table κ ν} {key : Key κ} {slot : Nat} :
    table.slot? key = some slot ↔ slot < table.array.size ∧ key = .index (slot + 1 : Nat) := by
  cases key with
  | index number =>
      rw [slot?, Key.index.injEq]
      split
      · rw [Option.some.injEq]
        omega
      · constructor
        · intro none
          cases none
        · omega
  | other key => simp [slot?]

theorem slot?_congr {table other : Table κ ν} (same : other.array.size = table.array.size)
    (key : Key κ) : other.slot? key = table.slot? key := by
  cases key with
  | index number => rw [slot?, slot?, same]
  | other key => rfl

/-- The keys of the node part, those of erased entries included. -/
def nodeKeys (table : Table κ ν) : List (Key κ) :=
  table.nodes.toList.map Prod.fst

variable [DecidableEq κ] {table : Table κ ν} {key : Key κ}

/-- What nodes hold for a key. -/
def heldIn (key : Key κ) (nodes : List (Key κ × Option ν)) : Option ν :=
  (nodes.find? fun node => node.1 = key).bind (·.2)

theorem get?_of_slot {slot : Nat} (found : table.slot? key = some slot) :
    table.get? key = (table.array[slot]?).join := by
  rw [get?, found]

theorem get?_of_node (outside : table.slot? key = none) :
    table.get? key = heldIn key table.nodes.toList := by
  rw [get?, outside, heldIn, Array.find?_toList]

theorem heldIn_of_new {nodes : List (Key κ × Option ν)} (new : key ∉ nodes.map Prod.fst) :
    heldIn key nodes = none := by
  have absent : nodes.find? (fun node => node.1 = key) = none := by
    rw [List.find?_eq_none]
    intro node member isKey
    exact new (of_decide_eq_true isKey ▸ List.mem_map_of_mem (f := Prod.fst) member)
  rw [heldIn, absent, Option.bind_none]

theorem heldIn_cons (first : Key κ × Option ν) (rest : List (Key κ × Option ν)) (key : Key κ) :
    heldIn key (first :: rest) = if first.1 = key then first.2 else heldIn key rest := by
  rw [heldIn, List.find?_cons]
  by_cases here : first.1 = key
  · rw [if_pos here, decide_eq_true here]
    rfl
  · rw [if_neg here, decide_eq_false here]
    rfl

theorem heldIn_concat {nodes : List (Key κ × Option ν)} (new : key ∉ nodes.map Prod.fst)
    (value : Option ν) (other : Key κ) :
    heldIn other (nodes ++ [(key, value)]) = if other = key then value else heldIn other nodes := by
  induction nodes with
  | nil =>
      rw [List.nil_append, heldIn_cons]
      simp only [eq_comm]
  | cons first rest ih =>
      rw [List.map_cons, List.mem_cons, not_or] at new
      rw [List.cons_append, heldIn_cons, heldIn_cons, ih new.2]
      by_cases here : first.1 = other
      · rw [if_pos here, if_pos here, if_neg (here ▸ Ne.symm new.1)]
      · rw [if_neg here, if_neg here]

theorem heldIn_set {nodes : List (Key κ × Option ν)} {node : Nat}
    (found : nodes.findIdx? (fun node => node.1 = key) = some node) (value : Option ν)
    (other : Key κ) : heldIn other (nodes.set node (key, value)) =
      if other = key then value else heldIn other nodes := by
  induction nodes generalizing node with
  | nil => cases found
  | cons first rest ih =>
      rw [List.findIdx?_cons] at found
      by_cases here : first.1 = key
      · rw [if_pos (decide_eq_true here), Option.some.injEq] at found
        subst found here
        rw [List.set_cons_zero, heldIn_cons, heldIn_cons]
        by_cases same : other = first.1
        · rw [if_pos same, if_pos same.symm]
        · rw [if_neg same, if_neg (Ne.symm same), if_neg (Ne.symm same)]
      · rw [if_neg (by simpa using here), Option.map_eq_some_iff] at found
        obtain ⟨place, found, rfl⟩ := found
        rw [List.set_cons_succ, heldIn_cons, heldIn_cons, ih found]
        by_cases same : first.1 = other
        · rw [if_pos same, if_neg (same ▸ here), if_pos same]
        · rw [if_neg same, if_neg same]

theorem map_fst_set {nodes : List (Key κ × Option ν)} {node : Nat}
    (found : nodes.findIdx? (fun node => node.1 = key) = some node) (value : Option ν) :
    (nodes.set node (key, value)).map Prod.fst = nodes.map Prod.fst := by
  obtain ⟨inside, isKey, _⟩ := List.findIdx?_eq_some_iff_getElem.mp found
  have same : nodes[node].1 = key := of_decide_eq_true isKey
  rw [List.map_set, ← same, ← List.getElem_map Prod.fst (h := by simpa using inside),
    List.set_getElem_self]

/-- Under one key a node holds what is found. -/
theorem heldIn_of_mem {nodes : List (Key κ × Option ν)} {value : Option ν}
    (distinct : (nodes.map Prod.fst).Nodup) (member : (key, value) ∈ nodes) :
    heldIn key nodes = value := by
  induction nodes with
  | nil => cases member
  | cons first rest ih =>
      rw [List.map_cons, List.nodup_cons] at distinct
      rw [heldIn_cons]
      rcases List.mem_cons.mp member with rfl | later
      · rw [if_pos rfl]
      · have other : first.1 ≠ key := fun same =>
          distinct.1 (same ▸ List.mem_map_of_mem (f := Prod.fst) later)
        rw [if_neg other]
        exact ih distinct.2 later

/-! ## Storing in a part -/

theorem get?_set_item {slot : Nat} (found : table.slot? key = some slot) (value : Option ν)
    (other : Key κ) : get? { table with array := table.array.set! slot value } other =
      if other = key then value else table.get? other := by
  obtain ⟨inside, rfl⟩ := slot?_eq_some_iff.mp found
  have places : slot? { table with array := table.array.set! slot value } other =
      table.slot? other :=
    slot?_congr (by simp) other
  cases place : table.slot? other with
  | some here =>
      obtain ⟨_, rfl⟩ := slot?_eq_some_iff.mp place
      rw [get?_of_slot (places.trans place), get?_of_slot place]
      simp only [Array.set!_eq_setIfInBounds, Array.getElem?_setIfInBounds, Key.index.injEq]
      by_cases same : slot = here
      · subst same
        rw [if_pos rfl, if_pos inside, if_pos rfl]
        rfl
      · rw [if_neg same, if_neg (by omega)]
  | none =>
      have different : other ≠ .index (slot + 1 : Nat) := by
        rintro rfl
        rw [found] at place
        cases place
      rw [if_neg different, get?_of_node (places.trans place), get?_of_node place]

theorem get?_set_nodes {nodes : Array (Key κ × Option ν)} {value : Option ν}
    (outside : table.slot? key = none)
    (holds : ∀ other, heldIn other nodes.toList =
      if other = key then value else heldIn other table.nodes.toList) (other : Key κ) :
    get? { table with nodes := nodes } other = if other = key then value else table.get? other := by
  have places : slot? { table with nodes := nodes } other = table.slot? other :=
    slot?_congr rfl other
  cases place : table.slot? other with
  | some here =>
      have different : other ≠ key := by
        rintro rfl
        rw [outside] at place
        cases place
      rw [if_neg different, get?_of_slot (places.trans place), get?_of_slot place]
  | none => rw [get?_of_node (places.trans place), get?_of_node place, holds]

theorem get?_push (outside : table.slot? key = none) (new : key ∉ table.nodeKeys)
    (value : Option ν) (other : Key κ) :
    get? { table with nodes := table.nodes.push (key, value) } other =
      if other = key then value else table.get? other := by
  apply get?_set_nodes outside
  intro other
  rw [Array.toList_push]
  exact heldIn_concat new value other

theorem get?_place (new : key ∉ table.nodeKeys) (value : ν) (other : Key κ) :
    (table.place (key, value)).get? other =
      if other = key then some value else table.get? other := by
  rw [place]
  cases found : table.slot? key with
  | some slot => exact get?_set_item found (some value) other
  | none => exact get?_push found new (some value) other

/-! ## Well-formed tables -/

/-- The array part is addressed with 32 bits. -/
def mostItems : Nat := UInt32.size

/-- Keys that are whole numbers have 64 bits. -/
def Fits : Key κ → Prop
  | .index number => number ≤ greatestIndex
  | .other _ => True

/-- What holds of every table that is made by storing. -/
structure WellFormed (table : Table κ ν) : Prop where
  limit : table.limit ≤ table.array.size
  size : table.array.size ≤ mostItems
  apart : ∀ key ∈ table.nodeKeys, table.slot? key = none
  distinct : table.nodeKeys.Nodup
  fits : ∀ key, (table.get? key).isSome = true → Fits key

namespace WellFormed

theorem set_item (wellFormed : table.WellFormed) {slot : Nat}
    (found : table.slot? key = some slot) (value : Option ν) (fits : Fits key) :
    WellFormed { table with array := table.array.set! slot value } where
  limit := by simpa using wellFormed.limit
  size := by simpa using wellFormed.size
  apart other member := by
    have same : (table.array.set! slot value).size = table.array.size := by simp
    exact (slot?_congr same other).trans (wellFormed.apart other member)
  distinct := wellFormed.distinct
  fits other present := by
    rw [get?_set_item found] at present
    split at present
    · next same => exact same ▸ fits
    · exact wellFormed.fits other present

theorem set_node (wellFormed : table.WellFormed) {nodes : Array (Key κ × Option ν)}
    {value : Option ν} (outside : table.slot? key = none)
    (holds : ∀ other, heldIn other nodes.toList =
      if other = key then value else heldIn other table.nodes.toList)
    (keys : nodes.toList.map Prod.fst = table.nodeKeys) (fits : Fits key) :
    WellFormed { table with nodes := nodes } where
  limit := wellFormed.limit
  size := wellFormed.size
  apart other member := by
    rw [nodeKeys, keys] at member
    exact wellFormed.apart other member
  distinct := by
    rw [nodeKeys, keys]
    exact wellFormed.distinct
  fits other present := by
    rw [get?_set_nodes outside holds] at present
    split at present
    · next same => exact same ▸ fits
    · exact wellFormed.fits other present

theorem push (wellFormed : table.WellFormed) (outside : table.slot? key = none)
    (new : key ∉ table.nodeKeys) (value : Option ν) (fits : Fits key) :
    WellFormed { table with nodes := table.nodes.push (key, value) } where
  limit := wellFormed.limit
  size := wellFormed.size
  apart other member := by
    rw [nodeKeys, Array.toList_push, List.map_append, List.mem_append] at member
    rcases member with earlier | isNew
    · exact wellFormed.apart other earlier
    · rw [List.mem_singleton.mp isNew]
      exact outside
  distinct := by
    rw [nodeKeys, Array.toList_push, List.map_append, List.nodup_append]
    refine ⟨wellFormed.distinct, List.nodup_singleton _, ?_⟩
    rintro _ isEarlier _ isNew rfl
    obtain rfl := List.mem_singleton.mp isNew
    exact new isEarlier
  fits other present := by
    rw [get?_push outside new] at present
    split at present
    · next same => exact same ▸ fits
    · exact wellFormed.fits other present

theorem place (wellFormed : table.WellFormed) (new : key ∉ table.nodeKeys) (value : ν)
    (fits : Fits key) : (table.place (key, value)).WellFormed := by
  rw [Table.place]
  cases found : table.slot? key with
  | some slot => exact wellFormed.set_item found (some value) fits
  | none => exact wellFormed.push found new (some value) fits

end WellFormed

/-! ## Entries -/

theorem map_filterMap_sublist {α β γ : Type} {choose : α → Option β} {name : β → γ}
    {label : α → γ} (same : ∀ value chosen, choose value = some chosen → name chosen = label value)
    (values : List α) : ((values.filterMap choose).map name).Sublist (values.map label) := by
  induction values with
  | nil => exact .slnil
  | cons value rest ih =>
      rw [List.filterMap_cons, List.map_cons]
      cases chosen : choose value with
      | none => exact ih.cons _
      | some result =>
          rw [List.map_cons, same value result chosen]
          exact ih.cons_cons _

/-- The entries in the array part. -/
def items (table : Table κ ν) : List (Key κ × ν) :=
  table.array.toList.zipIdx.filterMap fun (value, place) =>
    value.map fun value => (.index (place + 1 : Nat), value)

omit [DecidableEq κ] in
theorem mem_items_iff {value : ν} : (key, value) ∈ table.items ↔
    ∃ slot, table.array[slot]? = some (some value) ∧ key = .index (slot + 1 : Nat) := by
  rw [items, List.mem_filterMap]
  constructor
  · rintro ⟨⟨held, slot⟩, member, same⟩
    rw [List.mem_zipIdx_iff_getElem?, Array.getElem?_toList] at member
    obtain ⟨_, rfl, equal⟩ := Option.map_eq_some_iff.mp same
    cases equal
    exact ⟨slot, member, rfl⟩
  · rintro ⟨slot, found, rfl⟩
    refine ⟨(some value, slot), ?_, rfl⟩
    rw [List.mem_zipIdx_iff_getElem?, Array.getElem?_toList]
    exact found

omit [DecidableEq κ] in
theorem items_nodup (table : Table κ ν) : (table.items.map Prod.fst).Nodup := by
  have within : (table.items.map Prod.fst).Sublist (table.array.toList.zipIdx.map
      fun item => Key.index (item.2 + 1 : Nat)) := by
    apply map_filterMap_sublist
    rintro ⟨held, place⟩ chosen same
    obtain ⟨_, _, rfl⟩ := Option.map_eq_some_iff.mp same
    rfl
  apply within.nodup
  have shape : (table.array.toList.zipIdx.map fun item => (Key.index (item.2 + 1 : Nat) : Key κ)) =
      (List.range' 0 table.array.toList.length).map fun place => Key.index (place + 1 : Nat) := by
    rw [← List.zipIdx_map_snd, List.map_map]
    rfl
  rw [shape]
  apply List.Nodup.map _ List.nodup_range'
  intro first second same
  rw [Key.index.injEq] at same
  omega

/-- A table lists what it holds. -/
theorem mem_entries_iff (wellFormed : table.WellFormed) {value : ν} :
    (key, value) ∈ table.entries ↔ table.get? key = some value := by
  have inNodes : (key, value) ∈ (table.nodes.toList.filterMap fun node =>
      node.2.map fun value => (node.1, value)) ↔ (key, some value) ∈ table.nodes.toList := by
    rw [List.mem_filterMap]
    constructor
    · rintro ⟨⟨other, held⟩, member, same⟩
      obtain ⟨_, rfl, equal⟩ := Option.map_eq_some_iff.mp same
      cases equal
      exact member
    · intro member
      exact ⟨_, member, rfl⟩
  rw [entries, List.mem_append, ← items, mem_items_iff]
  refine (or_congr_right inNodes).trans ?_
  constructor
  · rintro (⟨slot, found, rfl⟩ | member)
    · have inside : slot < table.array.size := (Array.getElem?_eq_some_iff.mp found).1
      rw [get?_of_slot (slot?_eq_some_iff.mpr ⟨inside, rfl⟩), found]
      rfl
    · rw [get?_of_node (wellFormed.apart _ (List.mem_map_of_mem (f := Prod.fst) member))]
      exact heldIn_of_mem wellFormed.distinct member
  · intro holds
    cases found : table.slot? key with
    | some slot =>
        rw [get?_of_slot found, Option.join_eq_some_iff] at holds
        exact Or.inl ⟨slot, holds, (slot?_eq_some_iff.mp found).2⟩
    | none =>
        rw [get?_of_node found, heldIn, Option.bind_eq_some_iff] at holds
        obtain ⟨⟨other, held⟩, isFound, rfl⟩ := holds
        have same := List.find?_some isFound
        rw [decide_eq_true_iff] at same
        subst same
        exact Or.inr (List.mem_of_find?_eq_some isFound)

/-- No key is listed twice. -/
theorem entries_nodup (wellFormed : table.WellFormed) : (table.entries.map Prod.fst).Nodup := by
  have nodes : ((table.nodes.toList.filterMap fun node =>
      node.2.map fun value => (node.1, value)).map Prod.fst).Sublist table.nodeKeys := by
    apply map_filterMap_sublist
    rintro ⟨key, held⟩ chosen same
    obtain ⟨_, _, rfl⟩ := Option.map_eq_some_iff.mp same
    rfl
  rw [entries, ← items, List.map_append, List.nodup_append]
  refine ⟨items_nodup table, nodes.nodup wellFormed.distinct, ?_⟩
  rintro _ isItem _ isNode rfl
  obtain ⟨⟨key, value⟩, member, rfl⟩ := List.mem_map.mp isItem
  obtain ⟨slot, found, rfl⟩ := mem_items_iff.mp member
  have inside : slot < table.array.size := (Array.getElem?_eq_some_iff.mp found).1
  have outside := wellFormed.apart _ (nodes.subset isNode)
  rw [slot?_eq_some_iff.mpr ⟨inside, rfl⟩] at outside
  cases outside

theorem find?_entries (wellFormed : table.WellFormed) (key : Key κ) :
    (table.entries.find? fun entry => entry.1 = key).map (·.2) = table.get? key := by
  cases found : table.entries.find? (fun entry => entry.1 = key) with
  | some entry =>
      obtain ⟨other, value⟩ := entry
      have same := List.find?_some found
      rw [decide_eq_true_iff] at same
      subst same
      exact ((mem_entries_iff wellFormed).mp (List.mem_of_find?_eq_some found)).symm
  | none =>
      rw [List.find?_eq_none] at found
      cases holds : table.get? key with
      | none => rfl
      | some value =>
          exact absurd (decide_eq_true rfl) (found _ ((mem_entries_iff wellFormed).mpr holds))

/-! ## Dividing anew -/

theorem get?_withRoom (items entries : Nat) (key : Key κ) :
    (withRoom items entries : Table κ ν).get? key = none := by
  cases found : (withRoom items entries : Table κ ν).slot? key with
  | some slot =>
      rw [get?_of_slot found, withRoom, Array.getElem?_replicate]
      split <;> rfl
  | none =>
      rw [get?_of_node found]
      rfl

theorem wellFormed_withRoom {items : Nat} (few : items ≤ mostItems) (entries : Nat) :
    (withRoom items entries : Table κ ν).WellFormed where
  limit := by simp [withRoom]
  size := by simpa [withRoom] using few
  apart := by simp [withRoom, nodeKeys]
  distinct := by simp [withRoom, nodeKeys]
  fits key present := by
    rw [get?_withRoom] at present
    cases present

omit [DecidableEq κ] in
theorem nodeKeys_place (entry : Key κ × ν) {key : Key κ}
    (member : key ∈ (table.place entry).nodeKeys) : key ∈ table.nodeKeys ∨ key = entry.1 := by
  rw [place] at member
  split at member
  · exact Or.inl member
  · rw [nodeKeys, Array.toList_push, List.map_append, List.mem_append, List.map_singleton,
      List.mem_singleton] at member
    exact member

/-- Entries that are placed one after the other are all held, and nothing else has come. -/
theorem foldl_place (entries : List (Key κ × ν)) (table : Table κ ν) :
    (entries.map Prod.fst).Nodup → table.WellFormed →
      (∀ entry ∈ entries, Fits entry.1 ∧ entry.1 ∉ table.nodeKeys) →
      (entries.foldl place table).WellFormed ∧
        (∀ key ∈ (entries.foldl place table).nodeKeys,
          key ∈ table.nodeKeys ∨ key ∈ entries.map Prod.fst) ∧
        ∀ key, (entries.foldl place table).get? key =
          ((entries.find? fun entry => entry.1 = key).map (·.2)).or (table.get? key) := by
  induction entries generalizing table with
  | nil => exact fun _ wellFormed _ => ⟨wellFormed, fun _ member => Or.inl member, fun _ => rfl⟩
  | cons entry rest ih =>
      obtain ⟨key, value⟩ := entry
      intro distinct wellFormed new
      rw [List.map_cons, List.nodup_cons] at distinct
      obtain ⟨⟨fits, newHere⟩, others⟩ := List.forall_mem_cons.mp new
      obtain ⟨still, keys, holds⟩ := ih (table.place (key, value)) distinct.2
        (wellFormed.place newHere value fits) (by
          intro other member
          refine ⟨(others other member).1, fun isThere => ?_⟩
          rcases nodeKeys_place _ isThere with earlier | isKey
          · exact (others other member).2 earlier
          · exact distinct.1 (isKey ▸ List.mem_map_of_mem (f := Prod.fst) member))
      refine ⟨still, ?_, ?_⟩
      · intro other member
        rw [List.map_cons, List.mem_cons]
        rcases keys other member with isThere | later
        · exact (nodeKeys_place _ isThere).imp id Or.inl
        · exact Or.inr (Or.inr later)
      · intro other
        rw [List.foldl_cons, holds, get?_place newHere, List.find?_cons]
        by_cases same : other = key
        · subst same
          have absent : rest.find? (fun entry => entry.1 = other) = none := by
            rw [List.find?_eq_none]
            intro entry member isKey
            have isOther : entry.1 = other := of_decide_eq_true isKey
            exact distinct.1 (List.mem_map.mpr ⟨entry, member, isOther⟩)
          rw [absent, if_pos rfl, decide_eq_true rfl]
          rfl
        · rw [if_neg same, decide_eq_false (Ne.symm same)]

theorem scan_le {limit : Nat} (total : Nat) (buckets : List Nat) (power sum best : Nat) :
    best ≤ limit → power * 2 ^ buckets.length ≤ 2 * limit →
      arraySize.scan total buckets power sum best ≤ limit := by
  induction buckets generalizing power sum best with
  | nil => exact fun small _ => small
  | cons count rest ih =>
      intro small room
      rw [List.length_cons, Nat.pow_succ] at room
      have positive := Nat.two_pow_pos rest.length
      have fits : power ≤ limit := by nlinarith
      rw [arraySize.scan]
      split
      · apply ih
        · split
          · exact fits
          · exact small
        · linarith
      · exact small

omit [DecidableEq κ] in
theorem arraySize_le (keys : List (Key κ)) : arraySize (countBuckets keys) ≤ mostItems := by
  have few : arraySize (countBuckets keys) ≤ 2 ^ 27 := by
    apply scan_le _ _ _ _ _ (Nat.zero_le _)
    simp [countBuckets]
  exact Nat.le_trans few (by decide)

theorem rebuild_holds (wellFormed : table.WellFormed) (key : Key κ) :
    (table.rebuild key).WellFormed ∧
      (∀ other ∈ (table.rebuild key).nodeKeys, (table.get? other).isSome = true) ∧
      ∀ other, (table.rebuild key).get? other = table.get? other := by
  have present : ∀ other ∈ table.entries.map Prod.fst, (table.get? other).isSome = true := by
    intro other member
    obtain ⟨⟨_, value⟩, isEntry, rfl⟩ := List.mem_map.mp member
    rw [(mem_entries_iff wellFormed).mp isEntry]
    rfl
  obtain ⟨still, keys, holds⟩ := foldl_place table.entries (withRoom _ _)
    (entries_nodup wellFormed)
    (wellFormed_withRoom (arraySize_le (key :: table.entries.map (·.1))) _)
    (fun entry member => ⟨
      wellFormed.fits _ (present _ (List.mem_map_of_mem (f := Prod.fst) member)),
      by simp [withRoom, nodeKeys]⟩)
  refine ⟨still, ?_, ?_⟩
  · intro other member
    exact present other ((keys other member).resolve_left (by simp [withRoom, nodeKeys]))
  · intro other
    rw [rebuild, resize, holds, get?_withRoom, Option.or_none, find?_entries wellFormed]

/-! ## Storing -/

theorem nodeAt?_eq (table : Table κ ν) (key : Key κ) :
    table.nodeAt? key = table.nodes.toList.findIdx? fun node => node.1 = key := by
  rw [nodeAt?, ← List.findIdx?_toArray]

theorem new_of_nodeAt? (absent : table.nodeAt? key = none) : key ∉ table.nodeKeys := by
  rw [nodeAt?_eq, List.findIdx?_eq_none_iff] at absent
  intro member
  obtain ⟨node, isNode, same⟩ := List.mem_map.mp member
  exact of_decide_eq_false (absent node isNode) same

/-- A table answers with what was stored last. -/
theorem set_holds (wellFormed : table.WellFormed) (fits : Fits key) (value : Option ν) :
    (table.set key value).WellFormed ∧ ∀ other,
      (table.set key value).get? other = if other = key then value else table.get? other := by
  rw [set.eq_def]
  cases found : table.slot? key with
  | some slot => exact ⟨wellFormed.set_item found value fits, get?_set_item found value⟩
  | none =>
      simp only
      cases node : table.nodeAt? key with
      | some place =>
          rw [nodeAt?_eq] at node
          have held := heldIn_set node value
          have keys := map_fst_set node value
          simp only [Array.set!_eq_setIfInBounds]
          rw [← Array.toList_setIfInBounds] at held keys
          exact ⟨wellFormed.set_node found held keys fits, get?_set_nodes found held⟩
      | none =>
          have new := new_of_nodeAt? node
          have absent : table.get? key = none := by
            rw [get?_of_node found]
            exact heldIn_of_new new
          cases value with
          | none =>
              refine ⟨wellFormed, fun other => ?_⟩
              by_cases same : other = key
              · rw [if_pos same, same]
                exact absent
              · rw [if_neg same]
          | some value =>
              simp only
              split
              · exact ⟨wellFormed.push found new (some value) fits,
                  get?_push found new (some value)⟩
              · obtain ⟨still, keys, holds⟩ := rebuild_holds wellFormed key
                have newAgain : key ∉ (table.rebuild key).nodeKeys := by
                  intro member
                  have present := keys key member
                  rw [absent] at present
                  cases present
                refine ⟨still.place newAgain value fits, fun other => ?_⟩
                rw [get?_place newAgain, holds]

/-! ## Listing what was stored -/

omit [DecidableEq κ] in
theorem mem_entries_of_item {slot : Nat} {value : ν}
    (held : table.array[slot]? = some (some value)) :
    (.index (slot + 1 : Nat), value) ∈ table.entries :=
  List.mem_append_left _ (mem_items_iff.mpr ⟨slot, held, rfl⟩)

omit [DecidableEq κ] in
theorem mem_entries_of_node {value : ν} (member : (key, some value) ∈ table.nodes.toList) :
    (key, value) ∈ table.entries :=
  List.mem_append_right _ (List.mem_filterMap.mpr ⟨_, member, rfl⟩)

omit [DecidableEq κ] in
theorem mem_entries_set_item {slot : Nat} (found : table.slot? key = some slot) (value : ν) :
    (key, value) ∈ entries { table with array := table.array.set! slot (some value) } := by
  obtain ⟨inside, rfl⟩ := slot?_eq_some_iff.mp found
  apply mem_entries_of_item
  simp [inside]

omit [DecidableEq κ] in
theorem mem_entries_push (table : Table κ ν) (key : Key κ) (value : ν) :
    (key, value) ∈ entries { table with nodes := table.nodes.push (key, some value) } := by
  apply mem_entries_of_node
  simp

omit [DecidableEq κ] in
theorem mem_entries_place (table : Table κ ν) (key : Key κ) (value : ν) :
    (key, value) ∈ (table.place (key, value)).entries := by
  rw [place]
  cases found : table.slot? key with
  | some slot => exact mem_entries_set_item found value
  | none => exact mem_entries_push table key value

/-- Any table lists the entry that was stored last. -/
theorem mem_entries_set (table : Table κ ν) (key : Key κ) (value : ν) :
    (key, value) ∈ (table.set key (some value)).entries := by
  rw [set.eq_def]
  cases found : table.slot? key with
  | some slot => exact mem_entries_set_item found value
  | none =>
      simp only
      cases node : table.nodeAt? key with
      | some place =>
          rw [nodeAt?_eq] at node
          obtain ⟨inside, _, _⟩ := List.findIdx?_eq_some_iff_getElem.mp node
          apply mem_entries_of_node
          simp only [Array.set!_eq_setIfInBounds, Array.toList_setIfInBounds]
          exact List.mem_set inside _
      | none =>
          simp only
          split
          · exact mem_entries_push table key value
          · exact mem_entries_place _ key value

/-! ## Tables from entries -/

theorem get?_empty (key : Key κ) : (empty : Table κ ν).get? key = none := by
  have outside : (empty : Table κ ν).slot? key = none := by
    cases key with
    | index number =>
        rw [slot?, if_neg]
        simp only [empty, List.size_toArray, List.length_nil]
        omega
    | other key => rfl
  rw [get?_of_node outside]
  rfl

theorem wellFormed_empty : (empty : Table κ ν).WellFormed where
  limit := Nat.le_refl 0
  size := Nat.zero_le _
  apart := by simp [empty, nodeKeys]
  distinct := List.nodup_nil
  fits key present := by
    rw [get?_empty] at present
    cases present

/-- A table made of entries holds them and nothing else. -/
theorem ofEntries_holds (entries : List (Key κ × ν)) :
    (entries.map Prod.fst).Nodup → (∀ entry ∈ entries, Fits entry.1) →
      (ofEntries entries).WellFormed ∧
        ∀ key value, (ofEntries entries).get? key = some value ↔ (key, value) ∈ entries := by
  induction entries using List.reverseRecOn with
  | nil =>
      refine fun _ _ => ⟨wellFormed_empty, fun key value => ?_⟩
      rw [ofEntries, List.foldl_nil, get?_empty]
      simp
  | append_singleton earlier last ih =>
      intro distinct fits
      obtain ⟨lastKey, lastValue⟩ := last
      rw [List.map_append, List.nodup_append] at distinct
      obtain ⟨distinct, _, apart⟩ := distinct
      obtain ⟨wellFormed, holds⟩ := ih distinct fun entry member =>
        fits entry (List.mem_append_left _ member)
      have fitsLast : Fits lastKey := fits (lastKey, lastValue) (by simp)
      obtain ⟨still, after⟩ := set_holds wellFormed fitsLast (some lastValue)
      have step : ofEntries (earlier ++ [(lastKey, lastValue)]) =
          (ofEntries earlier).set lastKey (some lastValue) := by
        rw [ofEntries, List.foldl_append]
        rfl
      rw [step]
      refine ⟨still, fun key value => ?_⟩
      rw [after, List.mem_append, List.mem_singleton, Prod.mk.injEq]
      by_cases same : key = lastKey
      · subst same
        have new : (key, value) ∉ earlier := fun member =>
          apart key (List.mem_map_of_mem (f := Prod.fst) member) key (by simp) rfl
        rw [if_pos rfl, Option.some.injEq]
        simp [new, eq_comm]
      · rw [if_neg same, holds]
        simp [same]

end Table

end TemplateBuild.Lua

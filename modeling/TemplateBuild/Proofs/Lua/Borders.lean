import Mathlib.Data.List.Perm.Subperm
import TemplateBuild.Proofs.Lua.Tables

/-!
# Borders of tables

The length of a table is a border: a key that is present, or zero, while the next one is absent.
A table without holes has one border only, and then the length is the number of its items.  A table
with holes has several, and its length may be a border beyond a hole; reading its items in order
stops at the first hole all the same.
-/

set_option autoImplicit false

namespace TemplateBuild.Lua.Table

/-- A key that is present, or zero, while the next one is absent. -/
def IsBorder (present : Nat → Bool) (border : Nat) : Prop :=
  (border = 0 ∨ present border = true) ∧ present (border + 1) = false

/-! ## Searching for a border -/

section Search

variable {present : Nat → Bool}

theorem bisect_isBorder (fuel : Nat) {low high : Nat} (apart : low < high)
    (room : high - low ≤ 2 ^ fuel) (start : low = 0 ∨ present low = true)
    (stop : present high = false) : IsBorder present (bisect present fuel low high) := by
  induction fuel generalizing low high with
  | zero =>
      have neighbours : high = low + 1 := by
        rw [Nat.pow_zero] at room
        omega
      exact ⟨start, neighbours ▸ stop⟩
  | succ fuel ih =>
      rw [Nat.pow_succ] at room
      rw [bisect]
      split
      · simp only
        split
        · next middle => exact ih (by omega) (by omega) (Or.inr middle) stop
        · next middle =>
            exact ih (by omega) (by omega) start (eq_false_of_ne_true middle)
      · have neighbours : high = low + 1 := by omega
        exact ⟨start, neighbours ▸ stop⟩

theorem searchBeyond_isBorder (bounded : present (greatestIndex + 1) = false) (fuel : Nat)
    {low : Nat} (positive : 0 < low) (small : low ≤ greatestIndex)
    (enough : greatestIndex < low * 2 ^ fuel) (start : present low = true) :
    IsBorder present (searchBeyond present fuel low) := by
  have greatest : greatestIndex < 2 ^ 63 := by decide
  induction fuel generalizing low with
  | zero => omega
  | succ fuel ih =>
      rw [searchBeyond]
      by_cases half : low ≤ greatestIndex / 2
      · rw [if_pos half]
        split
        · next further =>
            split
            · next last => exact ⟨Or.inr further, last ▸ bounded⟩
            · apply ih (by omega) (by omega) _ further
              rwa [Nat.mul_assoc, ← Nat.pow_succ']
        · next further =>
            exact bisect_isBorder 64 (by omega) (by omega) (Or.inr start)
              (eq_false_of_ne_true further)
      · rw [if_neg half]
        split
        · next further =>
            rw [if_pos rfl]
            exact ⟨Or.inr further, bounded⟩
        · next further =>
            have different : low ≠ greatestIndex := fun same => further (same ▸ start)
            exact bisect_isBorder 64 (by omega) (by omega) (Or.inr start)
              (eq_false_of_ne_true further)

end Search

variable {κ ν : Type} [DecidableEq κ] {table : Table κ ν}

theorem hasIndex_le (wellFormed : table.WellFormed) {number : Nat}
    (present : table.hasIndex number = true) : number ≤ greatestIndex := by
  have fits := wellFormed.fits _ present
  rw [Fits] at fits
  omega

theorem border_isBorder (wellFormed : table.WellFormed) :
    IsBorder table.hasIndex table.border := by
  have limit := wellFormed.limit
  have size : table.array.size ≤ 2 ^ 32 := wellFormed.size
  rw [border, borderAndLimit]
  simp only [Bool.not_eq_true']
  split
  · next absent =>
      split
      · next below =>
          refine ⟨Or.inr below.2, ?_⟩
          rw [Nat.sub_add_cancel absent.1]
          exact absent.2
      · exact bisect_isBorder 64 absent.1 (by omega) (Or.inl rfl) absent.2
  · next atLimit =>
      have start : table.limit = 0 ∨ table.hasIndex table.limit = true := by
        rcases Nat.eq_zero_or_pos table.limit with none | some
        · exact Or.inl none
        · exact Or.inr (eq_true_of_ne_false fun absent => atLimit ⟨some, absent⟩)
      split
      · next next => exact ⟨start, next.2⟩
      · split
        · next last => exact bisect_isBorder 64 last.1 (by omega) start last.2
        · next last =>
            have startBeyond :
                table.array.size = 0 ∨ table.hasIndex table.array.size = true := by
              rcases Nat.lt_or_ge table.limit table.array.size with inside | full
              · exact Or.inr (eq_true_of_ne_false fun absent => last ⟨inside, absent⟩)
              · rw [← Nat.le_antisymm limit full]
                exact start
            split
            · next beyond =>
                apply searchBeyond_isBorder (eq_false_of_ne_true fun present =>
                  absurd (hasIndex_le wellFormed present) (by omega))
                · split <;> omega
                · have greatest : 2 ^ 32 ≤ greatestIndex := by decide
                  split <;> omega
                · have greatest : greatestIndex < 2 ^ 64 := by decide
                  split <;> omega
                · split
                  · next none => rwa [none] at beyond
                  · next some => exact startBeyond.resolve_left some
            · next beyond => exact ⟨startBeyond, eq_false_of_ne_true beyond⟩

/-! ## Items in order -/

/-- The table has these values at 1, 2, 3, … and nothing after the last one. -/
def Begins (table : Table κ ν) (values : List ν) : Prop :=
  ∀ place ≤ values.length, table.get? (.index (place + 1 : Nat)) = values[place]?

/-- The table has these values at 1, 2, 3, … and no other entries. -/
def Lists (table : Table κ ν) (values : List ν) : Prop :=
  ∀ key value, table.get? key = some value ↔
    ∃ place, key = .index (place + 1 : Nat) ∧ values[place]? = some value

/-- The keys 1, 2, 3, … of a list of so many values. -/
def places (count : Nat) : List (Key κ) :=
  (List.range count).map fun place => .index (place + 1 : Nat)

omit [DecidableEq κ] in
theorem mem_places_iff {key : Key κ} {count : Nat} :
    key ∈ places count ↔ ∃ place < count, key = .index (place + 1 : Nat) := by
  simp only [places, List.mem_map, List.mem_range, eq_comm]

omit [DecidableEq κ] in
theorem places_nodup (count : Nat) : (places count : List (Key κ)).Nodup := by
  apply List.Nodup.map _ List.nodup_range
  intro first second same
  rw [Key.index.injEq] at same
  omega

omit [DecidableEq κ] in
theorem length_places (count : Nat) : (places count : List (Key κ)).length = count := by
  rw [places, List.length_map, List.length_range]

theorem mem_keys_iff (wellFormed : table.WellFormed) {key : Key κ} :
    key ∈ table.entries.map Prod.fst ↔ (table.get? key).isSome = true := by
  rw [List.mem_map, Option.isSome_iff_exists]
  constructor
  · rintro ⟨⟨_, value⟩, member, rfl⟩
    exact ⟨value, (mem_entries_iff wellFormed).mp member⟩
  · rintro ⟨value, holds⟩
    exact ⟨(key, value), (mem_entries_iff wellFormed).mpr holds, rfl⟩

theorem length_le_of_present (wellFormed : table.WellFormed) {count : Nat}
    (present : ∀ place < count, table.hasIndex (place + 1) = true) :
    count ≤ table.entries.length := by
  have inside : places count ⊆ table.entries.map Prod.fst := by
    intro key member
    obtain ⟨place, below, rfl⟩ := mem_places_iff.mp member
    exact (mem_keys_iff wellFormed).mpr (present place below)
  have shorter := (List.subperm_of_subset (places_nodup count) inside).length_le
  rwa [length_places, List.length_map] at shorter

namespace Begins

theorem present {values : List ν} (begins : table.Begins values) {place : Nat}
    (inside : place < values.length) : table.hasIndex (place + 1) = true := by
  rw [hasIndex, begins place (Nat.le_of_lt inside), List.getElem?_eq_getElem inside]
  rfl

theorem absent {values : List ν} (begins : table.Begins values) :
    table.hasIndex (values.length + 1) = false := by
  rw [hasIndex, begins values.length (Nat.le_refl _), List.getElem?_eq_none (Nat.le_refl _)]
  rfl

theorem length_le {values others : List ν} (begins : table.Begins values)
    (also : table.Begins others) : others.length ≤ values.length := by
  refine Nat.le_of_not_lt fun shorter => ?_
  have missing := begins.absent
  rw [also.present shorter] at missing
  cases missing

/-- A table begins with one list of values. -/
theorem unique {values others : List ν} (begins : table.Begins values)
    (also : table.Begins others) : values = others := by
  have same : values.length = others.length :=
    Nat.le_antisymm (also.length_le begins) (begins.length_le also)
  apply List.ext_getElem?
  intro place
  rcases Nat.lt_or_ge values.length place with beyond | within
  · rw [List.getElem?_eq_none (Nat.le_of_lt beyond),
      List.getElem?_eq_none (Nat.le_of_lt (same ▸ beyond))]
  · rw [← begins place within, ← also place (same ▸ within)]

end Begins

theorem sequenceFrom_begins (fuel number : Nat) :
    (∀ place < (table.sequenceFrom fuel number).length,
      table.get? (.index (number + place : Nat)) = (table.sequenceFrom fuel number)[place]?) ∧
    ((table.sequenceFrom fuel number).length < fuel →
      table.get? (.index (number + (table.sequenceFrom fuel number).length : Nat)) = none) := by
  induction fuel generalizing number with
  | zero => exact ⟨fun _ below => absurd below (Nat.not_lt_zero _), (absurd · (Nat.not_lt_zero _))⟩
  | succ fuel ih =>
      rw [sequenceFrom]
      cases held : table.get? (.index number) with
      | none => exact ⟨fun _ below => absurd below (Nat.not_lt_zero _), fun _ => held⟩
      | some value =>
          obtain ⟨values, stop⟩ := ih (number + 1)
          constructor
          · rintro (_ | place) below
            · exact held
            · rw [List.getElem?_cons_succ, ← values place (Nat.lt_of_succ_lt_succ below),
                Nat.add_right_comm]
              rfl
          · intro below
            have earlier := stop (Nat.lt_of_succ_lt_succ below)
            rwa [List.length_cons, ← Nat.add_assoc, Nat.add_right_comm]

theorem sequence_begins (wellFormed : table.WellFormed) : table.Begins table.sequence := by
  obtain ⟨values, stop⟩ := table.sequenceFrom_begins (table.entries.length + 1) 1
  rw [← sequence] at values stop
  have present : ∀ place < table.sequence.length, table.hasIndex (place + 1) = true := by
    intro place inside
    rw [hasIndex, Nat.add_comm, values place inside, List.getElem?_eq_getElem inside]
    rfl
  intro place within
  rw [Nat.add_comm]
  rcases Nat.lt_or_eq_of_le within with inside | rfl
  · exact values place inside
  · rw [List.getElem?_eq_none (Nat.le_refl _)]
    exact stop (Nat.lt_succ_of_le (length_le_of_present wellFormed present))

/-- A table lists values if it begins with them and has as many entries. -/
theorem lists_iff (wellFormed : table.WellFormed) {values : List ν} :
    table.Lists values ↔ table.Begins values ∧ table.entries.length = values.length := by
  have keys : ∀ key, key ∈ table.entries.map Prod.fst ↔ (table.get? key).isSome = true :=
    fun key => mem_keys_iff wellFormed
  constructor
  · intro lists
    have begins : table.Begins values := by
      intro place _
      ext value
      rw [lists]
      constructor
      · rintro ⟨other, same, held⟩
        rw [Key.index.injEq] at same
        have samePlace : other = place := by omega
        exact samePlace ▸ held
      · exact fun held => ⟨place, rfl, held⟩
    have perm : (table.entries.map Prod.fst).Perm (places values.length) := by
      rw [List.perm_ext_iff_of_nodup (entries_nodup wellFormed) (places_nodup _)]
      intro key
      rw [keys, mem_places_iff]
      constructor
      · intro present
        obtain ⟨value, held⟩ := Option.isSome_iff_exists.mp present
        obtain ⟨place, same, found⟩ := (lists key value).mp held
        exact ⟨place, (List.getElem?_eq_some_iff.mp found).1, same⟩
      · rintro ⟨place, inside, rfl⟩
        exact begins.present inside
    have lengths := perm.length_eq
    rw [List.length_map, length_places] at lengths
    exact ⟨begins, lengths⟩
  · rintro ⟨begins, full⟩ key value
    have inside : places values.length ⊆ table.entries.map Prod.fst := by
      intro key member
      obtain ⟨place, below, rfl⟩ := mem_places_iff.mp member
      exact (keys _).mpr (begins.present below)
    have perm := (List.subperm_of_subset (places_nodup _) inside).perm_of_length_le
      (by rw [List.length_map, length_places, full])
    constructor
    · intro held
      have member : key ∈ places values.length := by
        rw [perm.mem_iff, keys, held]
        rfl
      obtain ⟨place, below, rfl⟩ := mem_places_iff.mp member
      rw [begins place (Nat.le_of_lt below)] at held
      exact ⟨place, rfl, held⟩
    · rintro ⟨place, rfl, held⟩
      rw [begins place (Nat.le_of_lt (List.getElem?_eq_some_iff.mp held).1)]
      exact held

/-- Values under the keys 1, 2, 3, …. -/
def numbered (values : List ν) : List (Key κ × ν) :=
  values.zipIdx.map fun (value, place) => (.index (place + 1 : Nat), value)

omit [DecidableEq κ] in
theorem mem_numbered_iff {values : List ν} {key : Key κ} {value : ν} :
    (key, value) ∈ numbered values ↔
      ∃ place, key = .index (place + 1 : Nat) ∧ values[place]? = some value := by
  rw [numbered, List.mem_map]
  constructor
  · rintro ⟨⟨held, place⟩, member, same⟩
    cases same
    exact ⟨place, rfl, List.mem_zipIdx_iff_getElem?.mp member⟩
  · rintro ⟨place, rfl, held⟩
    exact ⟨(value, place), List.mem_zipIdx_iff_getElem?.mpr held, rfl⟩

omit [DecidableEq κ] in
theorem map_fst_numbered (values : List ν) :
    (numbered values).map Prod.fst = (places values.length : List (Key κ)) := by
  rw [numbered, places, List.map_map, List.range_eq_range', ← List.zipIdx_map_snd, List.map_map]
  rfl

/-- Values that are stored under 1, 2, 3, …, in any order, are listed. -/
theorem lists_of_perm {values : List ν} {order : List (Key κ × ν)}
    (permuted : order.Perm (numbered values)) (few : values.length ≤ greatestIndex) :
    (ofEntries order).WellFormed ∧ (ofEntries order).Lists values := by
  have distinct : (order.map Prod.fst).Nodup := by
    rw [(permuted.map Prod.fst).nodup_iff, map_fst_numbered]
    exact places_nodup _
  have fits : ∀ entry ∈ order, Fits entry.1 := by
    rintro ⟨key, value⟩ member
    obtain ⟨place, rfl, held⟩ := mem_numbered_iff.mp (permuted.mem_iff.mp member)
    have inside := (List.getElem?_eq_some_iff.mp held).1
    rw [Fits]
    omega
  obtain ⟨wellFormed, holds⟩ := ofEntries_holds order distinct fits
  exact ⟨wellFormed, fun key value => by rw [holds, permuted.mem_iff, mem_numbered_iff]⟩

/-! ## Holes -/

/-- An item is missing before another one. -/
def HasHole (table : Table κ ν) : Prop :=
  ∃ missing item : Nat, 0 < missing ∧ missing < item ∧ table.hasIndex missing = false ∧
    table.hasIndex item = true

namespace Begins

/-- A table that has as many entries as it is long, but does not list the values it begins with,
ends beyond a hole. -/
theorem hole_of_full {values : List ν} (begins : table.Begins values)
    (wellFormed : table.WellFormed) (full : table.entries.length = table.border)
    (more : ¬ table.Lists values) :
    values.length + 1 < table.border ∧ table.hasIndex (values.length + 1) = false ∧
      table.hasIndex table.border = true := by
  have within := length_le_of_present wellFormed fun _ => begins.present
  have different : table.entries.length ≠ values.length :=
    fun same => more ((lists_iff wellFormed).mpr ⟨begins, same⟩)
  have present : table.hasIndex table.border = true :=
    (border_isBorder wellFormed).1.resolve_left (by omega)
  have apart : values.length + 1 ≠ table.border := by
    intro same
    have missing := begins.absent
    rw [same, present] at missing
    cases missing
  exact ⟨by omega, begins.absent, present⟩

/-- Without holes there is one border. -/
theorem border_eq {values : List ν} (begins : table.Begins values)
    (wellFormed : table.WellFormed) (whole : ¬ table.HasHole) :
    table.border = values.length := by
  obtain ⟨start, stop⟩ := border_isBorder wellFormed
  apply Nat.le_antisymm
  · refine Nat.le_of_not_lt fun longer => ?_
    have present : table.hasIndex table.border = true := start.resolve_left (by omega)
    rcases Nat.lt_or_eq_of_le (Nat.succ_le_of_lt longer) with hole | next
    · exact whole ⟨values.length + 1, table.border, Nat.succ_pos _, hole, begins.absent, present⟩
    · have missing := begins.absent
      rw [Nat.succ_eq_add_one] at next
      rw [next, present] at missing
      cases missing
  · refine Nat.le_of_not_lt fun shorter => ?_
    rw [begins.present shorter] at stop
    cases stop

end Begins

theorem Lists.not_hasHole {values : List ν} (lists : table.Lists values) : ¬ table.HasHole := by
  rintro ⟨missing, item, positive, earlier, absent, present⟩
  obtain ⟨value, held⟩ := Option.isSome_iff_exists.mp present
  obtain ⟨place, same, found⟩ := (lists _ _).mp held
  rw [Key.index.injEq] at same
  have inside := (List.getElem?_eq_some_iff.mp found).1
  have inner : missing - 1 < values.length := by omega
  have earlierHeld : table.get? (.index missing) = some values[missing - 1] := by
    rw [lists]
    refine ⟨missing - 1, ?_, List.getElem?_eq_getElem inner⟩
    rw [Nat.sub_add_cancel positive]
  rw [hasIndex, earlierHeld] at absent
  cases absent

end TemplateBuild.Lua.Table

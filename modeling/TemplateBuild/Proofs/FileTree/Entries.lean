import TemplateBuild.FileTree.Change
import TemplateBuild.Proofs.Path.Joining
import Mathlib.Data.List.Nodup

/-!
# What lies at a place

`FileTree.WellFormed` says what holds of the trees of a system: every place is listed once, its
names are names of files, and above it is a directory.  Storing and erasing are described by
what lies at each place afterwards, and keep well-formed trees well-formed.
-/

set_option autoImplicit false

namespace TemplateBuild.FileTree

/-- Every place is listed once and named as the system names files, and what is above it is a
directory. -/
structure WellFormed (tree : FileTree) : Prop where
  distinct : (tree.entries.map Prod.fst).Nodup
  named : ∀ place ∈ tree.entries.map Prod.fst, place ≠ [] ∧ ∀ name ∈ place, Name.Plain name
  rooted : ∀ place ∈ tree.entries.map Prod.fst, tree.entry? place.dropLast = some .directory
  working : tree.entry? tree.working = some .directory

instance (tree : FileTree) : Decidable tree.WellFormed :=
  decidable_of_iff
    ((tree.entries.map Prod.fst).Nodup ∧
      (∀ place ∈ tree.entries.map Prod.fst, place ≠ [] ∧ ∀ name ∈ place, Name.Plain name) ∧
      (∀ place ∈ tree.entries.map Prod.fst, tree.entry? place.dropLast = some .directory) ∧
      tree.entry? tree.working = some .directory)
    ⟨fun ⟨first, second, third, fourth⟩ => ⟨first, second, third, fourth⟩,
      fun whole => ⟨whole.1, whole.2, whole.3, whole.4⟩⟩

/-- No symbolic link is in the tree. -/
def LinkFree (tree : FileTree) : Prop :=
  ∀ place target, tree.entry? place ≠ some (.link target)

@[simp]
theorem entry?_nil (tree : FileTree) : tree.entry? [] = some .directory := rfl

theorem entry?_of_ne_nil (tree : FileTree) {place : Place} (inner : place ≠ []) :
    tree.entry? place = tree.entries.lookup place := by
  simp [ entry?, inner]

theorem lookup_isSome_iff (place : Place) : ∀ entries : List (Place × Entry),
    (entries.lookup place).isSome ↔ place ∈ entries.map Prod.fst := by
  intro entries
  induction entries with
  | nil => simp
  | cons first rest ih =>
      obtain ⟨other, entry⟩ := first
      by_cases same : place = other
      · simp [same]
      · have test : (place == other) = false := beq_eq_false_iff_ne.mpr same
        rw [List.lookup_cons, test, List.map_cons, List.mem_cons, ih]
        simp [same]

theorem entry?_isSome_iff (tree : FileTree) {place : Place} (inner : place ≠ []) :
    (tree.entry? place).isSome ↔ place ∈ tree.entries.map Prod.fst := by
  rw [entry?_of_ne_nil tree inner, lookup_isSome_iff]

theorem mem_places_of_found {tree : FileTree} {place : Place} {entry : Entry}
    (inner : place ≠ []) (found : tree.entry? place = some entry) :
    place ∈ tree.entries.map Prod.fst := by
  rw [← entry?_isSome_iff tree inner, found]
  rfl

theorem mem_entries_of_found {tree : FileTree} {place : Place} {entry : Entry}
    (inner : place ≠ []) (found : tree.entry? place = some entry) :
    (place, entry) ∈ tree.entries := by
  rw [entry?_of_ne_nil tree inner, List.lookup_eq_some_iff] at found
  obtain ⟨before, after, shape, _⟩ := found
  simp [shape]

theorem linkFree_of_entries {tree : FileTree}
    (free : ∀ each ∈ tree.entries, ∀ target, each.2 ≠ .link target) : tree.LinkFree := by
  intro place target found
  by_cases inner : place = []
  · rw [inner] at found
    cases found
  · exact free _ (mem_entries_of_found inner found) target rfl

namespace WellFormed

variable {tree : FileTree}

/-- What has a name lies in a directory. -/
theorem parent (wellFormed : tree.WellFormed) {place : Place} {name : Name} {entry : Entry}
    (found : tree.entry? (place ++ [name]) = some entry) :
    tree.entry? place = some .directory := by
  have listed := mem_places_of_found (by simp) found
  have above := wellFormed.rooted _ listed
  rwa [List.dropLast_concat] at above

theorem plain (wellFormed : tree.WellFormed) {place : Place} {entry : Entry}
    (found : tree.entry? place = some entry) : ∀ name ∈ place, Name.Plain name := by
  by_cases inner : place = []
  · intro name member
    rw [inner] at member
    cases member
  · exact (wellFormed.named place (mem_places_of_found inner found)).2

/-- Everything on the way to a place is a directory. -/
theorem above (wellFormed : tree.WellFormed) (place : Place) : ∀ (more : Place) (entry : Entry),
    more ≠ [] → tree.entry? (place ++ more) = some entry →
      tree.entry? place = some .directory := by
  intro more
  induction more using List.reverseRecOn with
  | nil => intro _ inner; exact absurd rfl inner
  | append_singleton names name ih =>
      intro entry _ found
      rw [← List.append_assoc] at found
      have parent := wellFormed.parent found
      by_cases empty : names = []
      · rwa [empty, List.append_nil] at parent
      · exact ih .directory empty parent

/-- Nothing lies below what is not a directory. -/
theorem entry?_below (wellFormed : tree.WellFormed) {place : Place}
    (leaf : tree.entry? place ≠ some .directory) {more : Place} (inner : more ≠ []) :
    tree.entry? (place ++ more) = none := by
  cases found : tree.entry? (place ++ more) with
  | none => rfl
  | some entry => exact absurd (wellFormed.above place more entry inner found) leaf

theorem dropLast_directory (wellFormed : tree.WellFormed) {place : Place}
    (found : tree.entry? place = some .directory) :
    tree.entry? place.dropLast = some .directory := by
  by_cases inner : place = []
  · rw [inner]
    rfl
  · exact wellFormed.rooted place (mem_places_of_found inner found)

end WellFormed

/-! ## Storing -/

theorem lookup_storeIn (place : Place) (entry : Entry) (other : Place) :
    ∀ entries : List (Place × Entry),
      (storeIn place entry entries).lookup other =
        if other = place then some entry else entries.lookup other := by
  intro entries
  induction entries with
  | nil =>
      by_cases same : other = place
      · simp [storeIn, same]
      · have test : (other == place) = false := beq_eq_false_iff_ne.mpr same
        simp [storeIn, List.lookup_cons, test, same]
  | cons first rest ih =>
      obtain ⟨key, value⟩ := first
      by_cases replaced : key = place
      · subst replaced
        by_cases same : other = key
        · simp [storeIn, same]
        · have test : (other == key) = false := beq_eq_false_iff_ne.mpr same
          simp [storeIn, List.lookup_cons, test, same]
      · by_cases same : other = key
        · have different : other ≠ place := fun equal => replaced (same.symm.trans equal)
          simp [storeIn, replaced, same]
        · have test : (other == key) = false := beq_eq_false_iff_ne.mpr same
          simp only [storeIn, replaced, if_false, List.lookup_cons, test]
          exact ih

theorem entry?_store (tree : FileTree) {place : Place} (inner : place ≠ []) (entry : Entry)
    (other : Place) : entry? (tree.store place entry) other =
      if other = place then some entry else tree.entry? other := by
  by_cases root : other = []
  · subst root
    simp [Ne.symm inner]
  · rw [entry?_of_ne_nil _ root, entry?_of_ne_nil _ root]
    exact lookup_storeIn place entry other tree.entries

theorem places_storeIn (place : Place) (entry : Entry) : ∀ entries : List (Place × Entry),
    (storeIn place entry entries).map Prod.fst =
      if place ∈ entries.map Prod.fst then entries.map Prod.fst
      else entries.map Prod.fst ++ [place] := by
  intro entries
  induction entries with
  | nil => simp [storeIn]
  | cons first rest ih =>
      obtain ⟨key, value⟩ := first
      by_cases replaced : key = place
      · simp [storeIn, replaced]
      · have different : place ≠ key := Ne.symm replaced
        simp only [storeIn, replaced, if_false, List.map_cons, ih, List.mem_cons, different,
          false_or]
        split <;> rfl

theorem mem_places_store (tree : FileTree) (place : Place) (entry : Entry) (other : Place) :
    other ∈ (tree.store place entry).entries.map Prod.fst ↔
      other = place ∨ other ∈ tree.entries.map Prod.fst := by
  rw [store, places_storeIn]
  split
  · constructor
    · exact Or.inr
    · rintro (rfl | member)
      · assumption
      · exact member
  · rw [List.mem_append, List.mem_singleton, or_comm]

/-- Storing keeps a tree well-formed if it is done in a directory and no directory is turned
into something else. -/
theorem WellFormed.store {tree : FileTree} (wellFormed : tree.WellFormed) {directory : Place}
    {name : Name} {entry : Entry} (above : tree.entry? directory = some .directory)
    (plain : Name.Plain name)
    (kept : tree.entry? (directory ++ [name]) = some .directory → entry = .directory) :
    (tree.store (directory ++ [name]) entry).WellFormed := by
  have inner : directory ++ [name] ≠ [] := by simp
  have kept' : ∀ place, tree.entry? place = some .directory →
      entry? (tree.store (directory ++ [name]) entry) place = some .directory := by
    intro place found
    rw [entry?_store tree inner]
    split
    · next same =>
      rw [kept (same ▸ found)]
    · exact found
  refine ⟨?_, ?_, ?_, kept' _ wellFormed.working⟩
  · rw [FileTree.store, places_storeIn]
    split
    · exact wellFormed.distinct
    · next fresh =>
      rw [List.nodup_append]
      refine ⟨wellFormed.distinct, by simp, ?_⟩
      intro place member other single
      rw [List.mem_singleton] at single
      intro same
      exact fresh (by rw [← single, ← same]; exact member)
  · intro place member
    rcases (mem_places_store tree _ entry place).mp member with rfl | member
    · refine ⟨inner, ?_⟩
      intro other isIn
      rcases List.mem_append.mp isIn with isIn | isIn
      · exact wellFormed.plain above other isIn
      · rw [List.mem_singleton.mp isIn]
        exact plain
    · exact wellFormed.named place member
  · intro place member
    rcases (mem_places_store tree _ entry place).mp member with rfl | member
    · rw [List.dropLast_concat]
      exact kept' _ above
    · exact kept' _ (wellFormed.rooted place member)

/-- A file may be replaced by another. -/
theorem WellFormed.store_file {tree : FileTree} (wellFormed : tree.WellFormed) {place : Place}
    {old new : Bytes} (found : tree.entry? place = some (.file old)) :
    (tree.store place (.file new)).WellFormed := by
  have inner : place ≠ [] := by
    rintro rfl
    cases found
  obtain ⟨directory, name, rfl⟩ := (List.eq_nil_or_concat' place).resolve_left inner
  apply wellFormed.store (wellFormed.parent found) (wellFormed.plain found name (by simp))
  rw [found]
  exact nofun

/-! ## Erasing -/

theorem lookup_filter_keys {κ ν : Type} [BEq κ] [LawfulBEq κ] (keep : κ → Bool) (key : κ) :
    ∀ entries : List (κ × ν), (entries.filter fun entry => keep entry.1).lookup key =
      if keep key then entries.lookup key else none := by
  intro entries
  induction entries with
  | nil => simp
  | cons first rest ih =>
      obtain ⟨other, value⟩ := first
      by_cases same : key = other
      · subst same
        cases kept : keep key with
        | true => simp [kept]
        | false => simp only [List.filter_cons, kept, Bool.false_eq_true, if_false, ih]
      · have test : (key == other) = false := beq_eq_false_iff_ne.mpr same
        cases kept : keep other with
        | true => simp only [List.filter_cons, kept, if_true, List.lookup_cons, test, ih]
        | false =>
            simp only [List.filter_cons, kept, Bool.false_eq_true, if_false, List.lookup_cons,
              test, ih]

theorem entry?_erase (tree : FileTree) (place : Place) {other : Place} (inner : other ≠ []) :
    entry? (tree.erase place) other =
      if place <+: other then none else tree.entry? other := by
  rw [entry?_of_ne_nil _ inner, entry?_of_ne_nil _ inner, erase,
    lookup_filter_keys (fun key => !place.isPrefixOf key)]
  by_cases before : place <+: other
  · rw [if_pos before, List.isPrefixOf_iff_prefix.mpr before]
    rfl
  · have test : place.isPrefixOf other = false := by
      rw [← Bool.not_eq_true, List.isPrefixOf_iff_prefix]
      exact before
    rw [if_neg before, test]
    rfl

theorem WellFormed.erase {tree : FileTree} (wellFormed : tree.WellFormed) {place : Place}
    (leaf : tree.entry? place ≠ some .directory) :
    (tree.erase place).WellFormed := by
  have kept : ∀ other, tree.entry? other = some .directory →
      entry? (tree.erase place) other = some .directory := by
    intro other found
    by_cases root : other = []
    · rw [root]
      rfl
    · rw [entry?_erase tree place root, if_neg]
      · exact found
      · rintro ⟨more, rfl⟩
        by_cases empty : more = []
        · rw [empty, List.append_nil] at found
          exact leaf found
        · exact leaf (wellFormed.above place more _ empty found)
  have sublist : ((tree.erase place).entries.map Prod.fst).Sublist (tree.entries.map Prod.fst) :=
    List.filter_sublist.map Prod.fst
  refine ⟨wellFormed.distinct.sublist sublist, ?_, ?_, kept _ wellFormed.working⟩
  · intro other member
    exact wellFormed.named other (sublist.subset member)
  · intro other member
    exact kept _ (wellFormed.rooted other (sublist.subset member))

/-- Removing what is no directory changes nothing but its own place. -/
theorem WellFormed.entry?_erase {tree : FileTree} (wellFormed : tree.WellFormed) {place : Place}
    (leaf : tree.entry? place ≠ some .directory) (other : Place) :
    entry? (tree.erase place) other = if other = place then none else tree.entry? other := by
  by_cases root : other = []
  · subst root
    rw [entry?_nil, entry?_nil, if_neg]
    rintro rfl
    exact leaf rfl
  · rw [FileTree.entry?_erase tree place root]
    by_cases same : other = place
    · rw [if_pos same, if_pos (same ▸ List.prefix_refl _)]
    · rw [if_neg same]
      split
      · next before =>
        obtain ⟨more, rfl⟩ := before
        rw [wellFormed.entry?_below leaf]
        rintro rfl
        exact same (List.append_nil _)
      · rfl

/-! ## Listing -/

theorem nameBelow?_eq_some_iff (name : Name) : ∀ place other : Place,
    nameBelow? place other = some name ↔ other = place ++ [name] := by
  intro place
  induction place with
  | nil =>
      intro other
      match other with
      | [] => simp [nameBelow?]
      | [only] => simp [nameBelow?]
      | first :: second :: rest => simp [nameBelow?]
  | cons first rest ih =>
      intro other
      cases other with
      | nil => simp [nameBelow?]
      | cons head others =>
          by_cases same : first = head
          · subst same
            simp only [nameBelow?, if_true, List.cons_append, List.cons.injEq, true_and]
            exact ih others
          · simp [nameBelow?, same, Ne.symm same]

theorem mem_namesIn_iff (tree : FileTree) (place : Place) (name : Name) :
    name ∈ tree.namesIn place ↔ (tree.entry? (place ++ [name])).isSome := by
  rw [entry?_isSome_iff tree (by simp), namesIn, List.mem_filterMap, List.mem_map]
  constructor
  · rintro ⟨entry, member, below⟩
    exact ⟨entry, member, (nameBelow?_eq_some_iff name place entry.1).mp below⟩
  · rintro ⟨entry, member, same⟩
    exact ⟨entry, member, (nameBelow?_eq_some_iff name place entry.1).mpr same⟩

theorem WellFormed.plain_of_mem_namesIn {tree : FileTree} (wellFormed : tree.WellFormed)
    {place : Place} {name : Name} (member : name ∈ tree.namesIn place) : Name.Plain name := by
  rw [mem_namesIn_iff] at member
  obtain ⟨entry, found⟩ := Option.isSome_iff_exists.mp member
  exact wellFormed.plain found name (by simp)

theorem WellFormed.nodup_namesIn {tree : FileTree} (wellFormed : tree.WellFormed)
    (place : Place) : (tree.namesIn place).Nodup := by
  have same : tree.namesIn place = (tree.entries.map Prod.fst).filterMap (nameBelow? place) := by
    rw [List.filterMap_map]
    rfl
  rw [same]
  apply wellFormed.distinct.filterMap
  intro first second name isFirst isSecond
  rw [Option.mem_def, nameBelow?_eq_some_iff] at isFirst isSecond
  rw [isFirst, isSecond]

/-! ## How trees differ -/

/-- The same lies at every place. -/
structure Agrees (before after : FileTree) : Prop where
  working : after.working = before.working
  entries : ∀ place, after.entry? place = before.entry? place

/-- Nothing is different but for directories where nothing was. -/
structure AddsDirectories (before after : FileTree) : Prop where
  working : after.working = before.working
  entries : ∀ place, after.entry? place = before.entry? place ∨
    before.entry? place = none ∧ after.entry? place = some .directory

/-- A file of this content lies at the place afterwards, and nothing else is different. -/
structure PutsFile (before : FileTree) (place : Place) (content : Bytes) (after : FileTree) :
    Prop where
  working : after.working = before.working
  entries : ∀ other, after.entry? other =
    if other = place then some (.file content) else before.entry? other

theorem Agrees.refl (tree : FileTree) : tree.Agrees tree :=
  ⟨rfl, fun _ => rfl⟩

theorem Agrees.trans {before middle after : FileTree} (first : before.Agrees middle)
    (second : middle.Agrees after) : before.Agrees after :=
  ⟨second.working.trans first.working,
    fun place => (second.entries place).trans (first.entries place)⟩

theorem Agrees.addsDirectories {before after : FileTree} (agrees : before.Agrees after) :
    before.AddsDirectories after :=
  ⟨agrees.working, fun place => Or.inl (agrees.entries place)⟩

namespace AddsDirectories

variable {before middle after : FileTree}

theorem refl (tree : FileTree) : tree.AddsDirectories tree :=
  (Agrees.refl tree).addsDirectories

theorem trans (first : before.AddsDirectories middle) (second : middle.AddsDirectories after) :
    before.AddsDirectories after := by
  refine ⟨second.working.trans first.working, ?_⟩
  intro place
  rcases second.entries place with later | ⟨absent, later⟩
  · rw [later]
    exact first.entries place
  · rcases first.entries place with earlier | ⟨_, earlier⟩
    · exact Or.inr ⟨earlier ▸ absent, later⟩
    · rw [earlier] at absent
      cases absent

/-- What was there is still there. -/
theorem keeps (adds : before.AddsDirectories after) {place : Place} {entry : Entry}
    (found : before.entry? place = some entry) : after.entry? place = some entry := by
  rcases adds.entries place with same | ⟨absent, _⟩
  · rw [same, found]
  · rw [found] at absent
    cases absent

theorem linkFree (adds : before.AddsDirectories after) (free : before.LinkFree) :
    after.LinkFree := by
  intro place target found
  rcases adds.entries place with same | ⟨_, made⟩
  · exact free place target (same ▸ found)
  · rw [made] at found
    cases found

end AddsDirectories

theorem PutsFile.linkFree {before after : FileTree} {place : Place} {content : Bytes}
    (puts : before.PutsFile place content after) (free : before.LinkFree) : after.LinkFree := by
  intro other target found
  rw [puts.entries] at found
  split at found
  · cases found
  · exact free other target found

/-- A file that takes no directory's place leaves all directories. -/
theorem PutsFile.directory_kept {before after : FileTree} {place other : Place} {content : Bytes}
    (puts : before.PutsFile place content after) (leaf : before.entry? place ≠ some .directory)
    (found : before.entry? other = some .directory) : after.entry? other = some .directory := by
  rw [puts.entries, if_neg]
  · exact found
  · rintro rfl
    exact leaf found

theorem addsDirectories_store {tree : FileTree} {place : Place}
    (absent : tree.entry? place = none) : tree.AddsDirectories (tree.store place .directory) := by
  have inner : place ≠ [] := by
    rintro rfl
    cases absent
  refine ⟨rfl, ?_⟩
  intro other
  rw [entry?_store tree inner]
  by_cases same : other = place
  · subst same
    exact Or.inr ⟨absent, if_pos rfl⟩
  · exact Or.inl (if_neg same)

end TemplateBuild.FileTree

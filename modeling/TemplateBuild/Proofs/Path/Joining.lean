import TemplateBuild.FileTree.Route
import Mathlib.Data.List.Basic
import Mathlib.Data.List.Induction

/-!
# Joined paths

The segments of a joined path are those of its left side, but for an empty one at the end, and
then those of its right side.  Everything that is read off the segments follows: by which moves
the joined path is followed, what its components are, and what its file name is.
-/

set_option autoImplicit false

namespace TemplateBuild

/-- A name that a directory can hold. -/
structure Name.Plain (name : Name) : Prop where
  nonempty : name ≠ []
  notCurrent : name ≠ Path.currentSegment
  notParent : name ≠ Path.parentSegment
  slashless : Path.slash ∉ name
  zeroless : (0 : UInt8) ∉ name

instance (name : Name) : Decidable (Name.Plain name) :=
  decidable_of_iff
    (name ≠ [] ∧ name ≠ Path.currentSegment ∧ name ≠ Path.parentSegment ∧ Path.slash ∉ name ∧
      (0 : UInt8) ∉ name)
    ⟨fun ⟨first, second, third, fourth, fifth⟩ => ⟨first, second, third, fourth, fifth⟩,
      fun plain => ⟨plain.1, plain.2, plain.3, plain.4, plain.5⟩⟩

namespace Path

/-! ## Segments -/

theorem segmentsOf_ne_nil : ∀ bytes : Bytes, segmentsOf bytes ≠ [] := by
  intro bytes
  cases bytes with
  | nil => simp [segmentsOf]
  | cons byte rest =>
      simp only [segmentsOf]
      split
      · simp
      · split <;> simp

theorem segmentsOf_cons_of_ne {byte : UInt8} (rest : Bytes) (other : byte ≠ slash) :
    ∃ first others, segmentsOf rest = first :: others ∧
      segmentsOf (byte :: rest) = (byte :: first) :: others := by
  cases found : segmentsOf rest with
  | nil => exact absurd found (segmentsOf_ne_nil rest)
  | cons first others =>
      refine ⟨first, others, rfl, ?_⟩
      simp [segmentsOf, other, found]

theorem segmentsOf_append_slash (back : Bytes) : ∀ front : Bytes,
    segmentsOf (front ++ slash :: back) = segmentsOf front ++ segmentsOf back := by
  intro front
  induction front with
  | nil => simp [segmentsOf]
  | cons byte rest ih =>
      by_cases isSlash : byte = slash
      · simp [segmentsOf, isSlash, ih]
      · obtain ⟨first, others, found, whole⟩ := segmentsOf_cons_of_ne rest isSlash
        rw [whole, List.cons_append, segmentsOf, if_neg isSlash, ih, found]
        rfl

theorem segmentsOf_of_slashless : ∀ bytes : Bytes, slash ∉ bytes → segmentsOf bytes = [bytes] := by
  intro bytes
  induction bytes with
  | nil => intro _; rfl
  | cons byte rest ih =>
      intro slashless
      rw [List.mem_cons, not_or] at slashless
      obtain ⟨other, slashless⟩ := slashless
      simp [segmentsOf, Ne.symm other, ih slashless]

theorem slash_notMem_of_mem_segmentsOf : ∀ bytes segment : Bytes,
    segment ∈ segmentsOf bytes → slash ∉ segment ∧ ∀ byte ∈ segment, byte ∈ bytes := by
  intro bytes
  induction bytes with
  | nil => intro segment member; simp [segmentsOf] at member; simp [member]
  | cons byte rest ih =>
      intro segment member
      by_cases isSlash : byte = slash
      · rw [segmentsOf, if_pos isSlash, List.mem_cons] at member
        rcases member with rfl | member
        · simp
        · obtain ⟨slashless, inside⟩ := ih segment member
          exact ⟨slashless, fun other isIn => List.mem_cons_of_mem _ (inside other isIn)⟩
      · obtain ⟨first, others, found, whole⟩ := segmentsOf_cons_of_ne rest isSlash
        rw [whole, List.mem_cons] at member
        rcases member with rfl | member
        · obtain ⟨slashless, inside⟩ := ih first (by rw [found]; exact List.mem_cons_self ..)
          refine ⟨?_, ?_⟩
          · rw [List.mem_cons, not_or]
            exact ⟨Ne.symm isSlash, slashless⟩
          · intro other isIn
            rcases List.mem_cons.mp isIn with rfl | isIn
            · exact List.mem_cons_self ..
            · exact List.mem_cons_of_mem _ (inside other isIn)
        · obtain ⟨slashless, inside⟩ :=
            ih segment (by rw [found]; exact List.mem_cons_of_mem _ member)
          exact ⟨slashless, fun other isIn => List.mem_cons_of_mem _ (inside other isIn)⟩

theorem segmentsOf_joinSegments : ∀ names : List Name, names ≠ [] →
    (∀ name ∈ names, slash ∉ name) → segmentsOf (joinSegments names) = names := by
  intro names
  induction names with
  | nil => intro nonempty; exact absurd rfl nonempty
  | cons first rest ih =>
      intro _ slashless
      have firstSlashless : slash ∉ first := slashless first (List.mem_cons_self ..)
      cases rest with
      | nil => exact segmentsOf_of_slashless first firstSlashless
      | cons second others =>
          have later := ih (by simp) fun name member =>
            slashless name (List.mem_cons_of_mem _ member)
          rw [joinSegments, segmentsOf_append_slash, later,
            segmentsOf_of_slashless first firstSlashless]
          · rfl
          · simp

theorem segments_of_slashless {name : Name} (slashless : slash ∉ name) :
    (⟨name⟩ : Path).segments = [name] :=
  segmentsOf_of_slashless name slashless

/-- What joining does to segments: an empty one at the end of the left side goes. -/
theorem segments_join {base tail : Path} (nonempty : base.bytes ≠ [])
    (relative : tail.isAbsolute = false) :
    ∃ first others, (base.segments = first :: others ∨ base.segments = first :: others ++ [[]]) ∧
      (base.join tail).segments = first :: others ++ tail.segments := by
  have notEmpty : base.isEmpty = false := by
    simpa [isEmpty, List.isEmpty_eq_false_iff] using nonempty
  by_cases ending : base.bytes.getLast? = some slash
  · obtain ⟨front, frontEq⟩ := List.getLast?_eq_some_iff.mp ending
    have baseSegments : base.segments = segmentsOf front ++ [[]] := by
      rw [segments, frontEq, segmentsOf_append_slash]
      rfl
    have joined : (base.join tail).segments = segmentsOf front ++ tail.segments := by
      simp only [join, relative, notEmpty, ending]
      simp only [segments, frontEq, List.append_assoc, List.singleton_append, if_true,
        Bool.false_eq_true, or_self, if_false]
      exact segmentsOf_append_slash tail.bytes front
    cases found : segmentsOf front with
    | nil => exact absurd found (segmentsOf_ne_nil front)
    | cons first others =>
        rw [found] at baseSegments joined
        exact ⟨first, others, Or.inr baseSegments, joined⟩
  · have joined : (base.join tail).segments = base.segments ++ tail.segments := by
      simp only [join, relative, notEmpty, ending]
      simp only [segments, Bool.false_eq_true, or_self, if_false]
      exact segmentsOf_append_slash tail.bytes base.bytes
    cases found : base.segments with
    | nil => exact absurd found (segmentsOf_ne_nil base.bytes)
    | cons first others =>
        rw [found] at joined
        exact ⟨first, others, Or.inl rfl, joined⟩

theorem join_of_isEmpty {base : Path} (tail : Path) (empty : base.bytes = []) :
    base.join tail = tail := by
  simp [join, isEmpty, empty]

theorem isAbsolute_join {base tail : Path} (relative : tail.isAbsolute = false) :
    (base.join tail).isAbsolute = base.isAbsolute := by
  by_cases empty : base.bytes = []
  · rw [join_of_isEmpty tail empty, relative]
    simp [isAbsolute, empty]
  · have notEmpty : base.isEmpty = false := by
      simpa [isEmpty, List.isEmpty_eq_false_iff] using empty
    obtain ⟨byte, rest, shape⟩ := List.exists_cons_of_ne_nil empty
    simp only [join, relative, notEmpty, Bool.false_eq_true, or_self, if_false]
    split <;> simp [isAbsolute, shape]

/-! ## Moves -/

/-- The moves of a path without the last one that only makes sure of a directory. -/
def way (path : Path) : List Move :=
  (path.segments.filter fun segment => segment ≠ []).map moveOf

theorem moves_eq (path : Path) :
    path.moves = path.way ++ if path.segments.tail.getLast? = some [] then [.stay] else [] := by
  cases found : path.segments with
  | nil => exact absurd found (segmentsOf_ne_nil path.bytes)
  | cons first rest =>
      by_cases trailing : rest.getLast? = some []
      · by_cases empty : first = [] <;> simp [moves, way, found, empty, trailing]
      · by_cases empty : first = [] <;> simp [moves, way, found, empty, trailing]

theorem way_join {base tail : Path} (relative : tail.isAbsolute = false) :
    (base.join tail).way = base.way ++ tail.way := by
  by_cases empty : base.bytes = []
  · rw [join_of_isEmpty tail empty]
    simp [way, segments, segmentsOf, empty]
  · obtain ⟨first, others, before, after⟩ := segments_join empty relative
    rw [way, way, way, after, List.filter_append, List.map_append]
    rcases before with before | before
    · rw [before]
    · rw [before, List.filter_append]
      simp

theorem isAbsolute_of_slashless {name : Name} (slashless : slash ∉ name) :
    (⟨name⟩ : Path).isAbsolute = false := by
  cases name with
  | nil => rfl
  | cons byte rest =>
      rw [List.mem_cons, not_or] at slashless
      simp [isAbsolute, Ne.symm slashless.1]

theorem moveOf_plain {name : Name} (plain : Name.Plain name) : moveOf name = .enter name := by
  simp [moveOf, plain.nonempty, plain.notCurrent, plain.notParent]

theorem way_name {name : Name} (plain : Name.Plain name) : (⟨name⟩ : Path).way = [.enter name] := by
  simp [way, segments_of_slashless plain.slashless, plain.nonempty, moveOf_plain plain]

theorem way_joinName (base : Path) {name : Name} (plain : Name.Plain name) :
    (base.joinName name).way = base.way ++ [.enter name] := by
  rw [joinName, way_join (isAbsolute_of_slashless plain.slashless), way_name plain]

/-- A path that ends in a name is followed by its way alone. -/
theorem moves_join_slashless (base : Path) {name : Name} (slashless : slash ∉ name)
    (nonempty : name ≠ []) : (base.join ⟨name⟩).moves = (base.join ⟨name⟩).way := by
  have relative := isAbsolute_of_slashless slashless
  rw [moves_eq]
  by_cases empty : base.bytes = []
  · simp [join_of_isEmpty _ empty, segments_of_slashless slashless]
  · obtain ⟨first, others, _, after⟩ := segments_join empty relative
    rw [after, segments_of_slashless slashless]
    simp [nonempty]

/-! ## Slashes at the end -/

theorem way_append_slash (front : Bytes) :
    (⟨front ++ [slash]⟩ : Path).way = (⟨front⟩ : Path).way := by
  have split : segmentsOf (front ++ [slash]) = segmentsOf front ++ [[]] :=
    segmentsOf_append_slash [] front
  simp [way, segments, split]

theorem way_trimmed (bytes : Bytes) :
    (⟨(bytes.reverse.dropWhile (· = slash)).reverse⟩ : Path).way = (⟨bytes⟩ : Path).way := by
  induction bytes using List.reverseRecOn with
  | nil => rfl
  | append_singleton front last ih =>
      rw [List.reverse_append, List.reverse_singleton, List.singleton_append]
      by_cases isSlash : last = slash
      · rw [List.dropWhile_cons_of_pos (by simpa using isSlash), ih, isSlash, way_append_slash]
      · rw [List.dropWhile_cons_of_neg (by simpa using isSlash)]
        simp

/-- Slashes at the end are no part of the way. -/
theorem way_dropSlashes (path : Path) : path.dropSlashes.way = path.way := by
  have trimmed := way_trimmed path.bytes
  rw [dropSlashes]
  split
  · next empty =>
    rw [Bool.and_eq_true, List.isEmpty_iff] at empty
    rw [empty.1] at trimmed
    exact trimmed
  · exact trimmed

theorem isAbsolute_dropSlashes (path : Path) :
    path.dropSlashes.isAbsolute = path.isAbsolute := by
  rw [dropSlashes]
  obtain ⟨more, whole⟩ : ∃ more, path.bytes =
      (path.bytes.reverse.dropWhile (· = slash)).reverse ++ more := by
    refine ⟨(path.bytes.reverse.takeWhile (· = slash)).reverse, ?_⟩
    rw [← List.reverse_append, List.takeWhile_append_dropWhile, List.reverse_reverse]
  split
  · next empty =>
    rw [Bool.and_eq_true] at empty
    rw [empty.2]
    rfl
  · next filled =>
    rw [Bool.and_eq_true, List.isEmpty_iff] at filled
    cases kept : (path.bytes.reverse.dropWhile fun byte => byte = slash).reverse with
    | nil =>
        have relative : path.isAbsolute = false :=
          Bool.eq_false_iff.mpr fun absolute => filled ⟨kept, absolute⟩
        rw [relative]
        rfl
    | cons first rest =>
        rw [kept] at whole
        rw [isAbsolute, isAbsolute, whole]
        rfl

theorem dropSlashes_eq {path : Path} (bare : path.hasSlashAtEnd = false) :
    path.dropSlashes = path := by
  obtain ⟨bytes⟩ := path
  rw [hasSlashAtEnd, decide_eq_false_iff_not] at bare
  have kept : (bytes.reverse.dropWhile fun byte => byte = slash).reverse = bytes := by
    cases shape : bytes.reverse with
    | nil => rw [List.reverse_eq_nil_iff.mp shape]; rfl
    | cons last rest =>
        have whole : bytes = rest.reverse ++ [last] := by
          rw [← List.reverse_reverse bytes, shape, List.reverse_cons]
        have other : last ≠ slash := by
          rw [whole, List.getLast?_concat] at bare
          exact fun same => bare (congrArg some same)
        rw [List.dropWhile_cons_of_neg (by simpa using other), whole]
        simp
  rw [dropSlashes, kept]
  split
  · next empty =>
    rw [Bool.and_eq_true, List.isEmpty_iff] at empty
    obtain ⟨rfl, absolute⟩ := empty
    cases absolute
  · rfl

theorem bare_joinName (base : Path) {name : Name} (plain : Name.Plain name) :
    (base.joinName name).hasSlashAtEnd = false := by
  obtain ⟨before, last, rfl⟩ := (List.eq_nil_or_concat' name).resolve_left plain.nonempty
  have other : last ≠ slash := fun same => plain.slashless (by simp [same])
  have relative := isAbsolute_of_slashless plain.slashless
  have ended : ∀ front : Bytes, (⟨front ++ (before ++ [last])⟩ : Path).hasSlashAtEnd = false := by
    intro front
    rw [hasSlashAtEnd, ← List.append_assoc, List.getLast?_concat]
    simpa using other
  simp only [joinName, join, relative, Bool.false_eq_true, false_or]
  split
  · exact ended []
  · split
    · exact ended base.bytes
    · have shape : base.bytes ++ slash :: (before ++ [last]) =
          (base.bytes ++ [slash]) ++ (before ++ [last]) := by simp
      rw [shape]
      exact ended _

/-! ## Components -/

theorem components_of_nonempty {path : Path} {first : Bytes} {rest : List Bytes}
    (nonempty : path.bytes ≠ []) (shape : path.segments = first :: rest) :
    path.components = leadingComponent first :: rest.filterMap componentOf := by
  simp [components, isEmpty, nonempty, shape]

theorem components_join {base tail : Path} (nonempty : base.bytes ≠ [])
    (relative : tail.isAbsolute = false) :
    (base.join tail).components = base.components ++ tail.segments.filterMap componentOf := by
  obtain ⟨first, others, before, after⟩ := segments_join nonempty relative
  have joinedNonempty : (base.join tail).bytes ≠ [] := by
    have notEmpty : base.isEmpty = false := by
      simpa [isEmpty, List.isEmpty_eq_false_iff] using nonempty
    simp only [join, relative, notEmpty, Bool.false_eq_true, or_self, if_false]
    split <;> simp [nonempty]
  rw [components_of_nonempty joinedNonempty (by rw [after, List.cons_append])]
  rcases before with before | before
  · rw [components_of_nonempty nonempty before, List.filterMap_append, List.cons_append]
  · rw [components_of_nonempty nonempty (by rw [before, List.cons_append])]
    simp [componentOf]

theorem componentOf_plain {name : Name} (plain : Name.Plain name) :
    componentOf name = some (.normal name) := by
  simp [componentOf, plain.nonempty, plain.notCurrent, plain.notParent]

theorem leadingComponent_plain {name : Name} (plain : Name.Plain name) :
    leadingComponent name = .normal name := by
  simp [leadingComponent, plain.nonempty, plain.notCurrent, plain.notParent]

theorem components_name {name : Name} (plain : Name.Plain name) :
    (⟨name⟩ : Path).components = [.normal name] := by
  rw [components_of_nonempty plain.nonempty (segments_of_slashless plain.slashless)]
  simp [leadingComponent_plain plain]

theorem components_joinName {base : Path} {name : Name} (plain : Name.Plain name) :
    (base.joinName name).components = base.components ++ [.normal name] := by
  have relative := isAbsolute_of_slashless plain.slashless
  by_cases empty : base.bytes = []
  · rw [joinName, join_of_isEmpty _ empty, components_name plain]
    simp [components, isEmpty, empty]
  · rw [joinName, components_join empty relative, segments_of_slashless plain.slashless]
    simp [componentOf_plain plain]

theorem fileName_joinName (base : Path) {name : Name} (plain : Name.Plain name) :
    (base.joinName name).fileName = some name := by
  simp [fileName, components_joinName plain]

/-! ## Names below a path -/

/-- What lies below a path by names. -/
def descend (base : Path) (names : List Name) : Path :=
  names.foldl joinName base

@[simp]
theorem descend_nil (base : Path) : base.descend [] = base := rfl

theorem descend_concat (base : Path) (names : List Name) (name : Name) :
    base.descend (names ++ [name]) = (base.descend names).joinName name := by
  simp [descend]

theorem components_descend (base : Path) : ∀ names : List Name,
    (∀ name ∈ names, Name.Plain name) →
      (base.descend names).components = base.components ++ names.map .normal := by
  intro names
  induction names using List.reverseRecOn with
  | nil => simp
  | append_singleton names name ih =>
      intro plain
      have earlier := ih fun other member => plain other (List.mem_append_left _ member)
      rw [descend_concat, components_joinName (plain name (by simp)), earlier]
      simp

theorem way_descend (base : Path) : ∀ names : List Name, (∀ name ∈ names, Name.Plain name) →
    (base.descend names).way = base.way ++ names.map .enter := by
  intro names
  induction names using List.reverseRecOn with
  | nil => simp
  | append_singleton names name ih =>
      intro plain
      have earlier := ih fun other member => plain other (List.mem_append_left _ member)
      rw [descend_concat, way_joinName _ (plain name (by simp)), earlier]
      simp

theorem isAbsolute_descend (base : Path) : ∀ names : List Name,
    (∀ name ∈ names, Name.Plain name) → (base.descend names).isAbsolute = base.isAbsolute := by
  intro names
  induction names using List.reverseRecOn with
  | nil => simp
  | append_singleton names name ih =>
      intro plain
      have earlier := ih fun other member => plain other (List.mem_append_left _ member)
      have last : Name.Plain name := plain name (by simp)
      rw [descend_concat, joinName, isAbsolute_join (isAbsolute_of_slashless last.slashless),
        earlier]

theorem length_lt_joinName (base : Path) {name : Name} (nonempty : name ≠ [])
    (slashless : slash ∉ name) : base.bytes.length < (base.joinName name).bytes.length := by
  have positive : 0 < name.length := List.length_pos_iff.mpr nonempty
  have relative := isAbsolute_of_slashless slashless
  by_cases empty : base.bytes = []
  · rw [joinName, join_of_isEmpty _ empty]
    simpa [empty] using positive
  · have notEmpty : base.isEmpty = false := by
      simpa [isEmpty, List.isEmpty_eq_false_iff] using empty
    simp only [joinName, join, relative, notEmpty, Bool.false_eq_true, or_self, if_false]
    split
    · simpa using positive
    · simp

/-! ## Names with slashes between them -/

theorem segments_joinSegments {names : List Name} (nonempty : names ≠ [])
    (plain : ∀ name ∈ names, Name.Plain name) :
    (⟨joinSegments names⟩ : Path).segments = names :=
  segmentsOf_joinSegments names nonempty fun name member => (plain name member).slashless

theorem isAbsolute_joinSegments : ∀ names : List Name, (∀ name ∈ names, Name.Plain name) →
    (⟨joinSegments names⟩ : Path).isAbsolute = false := by
  intro names plain
  cases names with
  | nil => rfl
  | cons first rest =>
      have firstPlain := plain first (List.mem_cons_self ..)
      obtain ⟨byte, others, shape⟩ := List.exists_cons_of_ne_nil firstPlain.nonempty
      have other : byte ≠ slash := by
        intro same
        apply firstPlain.slashless
        rw [shape, same]
        exact List.mem_cons_self ..
      cases rest <;> simp [joinSegments, isAbsolute, shape, other]

theorem way_joinSegments : ∀ names : List Name, (∀ name ∈ names, Name.Plain name) →
    (⟨joinSegments names⟩ : Path).way = names.map .enter := by
  intro names plain
  by_cases empty : names = []
  · subst empty
    simp [way, segments, segmentsOf, joinSegments]
  · have kept : names.filter (fun segment => segment ≠ []) = names := by
      rw [List.filter_eq_self]
      intro name member
      simpa using (plain name member).nonempty
    rw [way, segments_joinSegments empty plain, kept, List.map_inj_left]
    intro name member
    exact moveOf_plain (plain name member)

theorem filterMap_componentOf_joinSegments (names : List Name)
    (plain : ∀ name ∈ names, Name.Plain name) :
    (⟨joinSegments names⟩ : Path).segments.filterMap componentOf = names.map .normal := by
  by_cases empty : names = []
  · subst empty
    simp [segments, segmentsOf, joinSegments, componentOf]
  · rw [segments_joinSegments empty plain]
    clear empty
    induction names with
    | nil => rfl
    | cons first rest ih =>
        have firstPlain := plain first (List.mem_cons_self ..)
        rw [List.filterMap_cons, componentOf_plain firstPlain, List.map_cons]
        simp only
        rw [ih fun name member => plain name (List.mem_cons_of_mem _ member)]

theorem components_joinSegments (names : List Name) (plain : ∀ name ∈ names, Name.Plain name) :
    (⟨joinSegments names⟩ : Path).components = names.map .normal := by
  cases names with
  | nil => rfl
  | cons first rest =>
      have firstPlain := plain first (List.mem_cons_self ..)
      have nonempty : joinSegments (first :: rest) ≠ [] := by
        cases rest <;> simp [joinSegments, firstPlain.nonempty]
      have parts := filterMap_componentOf_joinSegments (first :: rest) plain
      rw [segments_joinSegments (by simp) plain, List.filterMap_cons,
        componentOf_plain firstPlain, List.map_cons] at parts
      simp only [List.cons.injEq, true_and] at parts
      rw [components_of_nonempty nonempty (segments_joinSegments (by simp) plain),
        leadingComponent_plain firstPlain, parts, List.map_cons]

theorem normalNames_joinSegments (names : List Name) (plain : ∀ name ∈ names, Name.Plain name) :
    (⟨joinSegments names⟩ : Path).normalNames = names := by
  rw [normalNames, components_joinSegments names plain, List.filterMap_map]
  clear plain
  induction names with
  | nil => rfl
  | cons first rest ih =>
      rw [List.filterMap_cons]
      simp only [Function.comp_apply]
      exact congrArg (first :: ·) ih

/-- Appending names in one go leads to the same path as descending by them. -/
theorem components_join_joinSegments {base : Path} (nonempty : base.bytes ≠ [])
    (names : List Name) (plain : ∀ name ∈ names, Name.Plain name) :
    (base.join ⟨joinSegments names⟩).components = (base.descend names).components := by
  rw [components_join nonempty (isAbsolute_joinSegments names plain),
    filterMap_componentOf_joinSegments names plain, components_descend base names plain]

end Path

end TemplateBuild

import TemplateBuild.Proofs.Path.Joining
import Mathlib.Data.List.TakeWhile

/-!
# How paths end

A path begins with its parent, and the rest makes at least one move.  Slashes at the end make
none, and a path that enters a name last has this name as its file name and enters it from its
parent.

What is joined to a path that ends in a name comes after a slash, so the path is the parent of the
whole.  Names with slashes between them can be joined at once or one after the other.
-/

set_option autoImplicit false

namespace TemplateBuild.Path

/-! ## Segments put together again -/

theorem joinSegments_cons (first : Bytes) {rest : List Bytes} (more : rest ≠ []) :
    joinSegments (first :: rest) = first ++ slash :: joinSegments rest := by
  obtain ⟨next, others, rfl⟩ := List.exists_cons_of_ne_nil more
  rfl

theorem joinSegments_segmentsOf (bytes : Bytes) : joinSegments (segmentsOf bytes) = bytes := by
  induction bytes with
  | nil => rfl
  | cons byte rest ih =>
      by_cases isSlash : byte = slash
      · rw [segmentsOf, if_pos isSlash, joinSegments_cons [] (segmentsOf_ne_nil rest), ih, isSlash]
        rfl
      · obtain ⟨first, others, found, whole⟩ := segmentsOf_cons_of_ne rest isSlash
        rw [found] at ih
        rw [whole, ← ih]
        cases others <;> rfl

theorem joinSegments_append {front back : List Bytes} (filled : front ≠ []) (more : back ≠ []) :
    joinSegments (front ++ back) = joinSegments front ++ slash :: joinSegments back := by
  induction front with
  | nil => exact absurd rfl filled
  | cons first rest ih =>
      by_cases last : rest = []
      · rw [last, List.singleton_append, joinSegments_cons first more]
        rfl
      · rw [List.cons_append, joinSegments_cons first (by simp [more]), ih last,
          joinSegments_cons first last, List.append_assoc, List.cons_append]

theorem joinSegments_ne_nil {segments : List Bytes} {segment : Bytes} (member : segment ∈ segments)
    (filled : segment ≠ []) : joinSegments segments ≠ [] := by
  induction segments with
  | nil => cases member
  | cons first rest ih =>
      by_cases last : rest = []
      · subst last
        rw [List.mem_singleton.mp member] at filled
        exact filled
      · rw [joinSegments_cons first last]
        simp

/-- The moves that segments make. -/
def movesOf (segments : List Bytes) : List Move :=
  (segments.filter fun segment => segment ≠ []).map moveOf

theorem movesOf_append (front back : List Bytes) :
    movesOf (front ++ back) = movesOf front ++ movesOf back := by
  rw [movesOf, List.filter_append, List.map_append]
  rfl

theorem movesOf_ne_nil {segments : List Bytes} {segment : Bytes} (member : segment ∈ segments)
    (filled : segment ≠ []) : movesOf segments ≠ [] := by
  intro none
  rw [movesOf, List.map_eq_nil_iff, List.filter_eq_nil_iff] at none
  exact none segment member (by simpa using filled)

/-- Segments that stand for nothing make no move to another place. -/
theorem movesOf_eq_replicate {segments : List Bytes}
    (nothing : ∀ segment ∈ segments, componentOf segment = none) :
    ∃ count, movesOf segments = List.replicate count .stay := by
  refine ⟨_, List.eq_replicate_of_mem fun move member => ?_⟩
  obtain ⟨segment, isIn, rfl⟩ := List.mem_map.mp member
  have none := nothing segment (List.mem_filter.mp isIn).1
  rw [componentOf] at none
  rw [moveOf]
  split at none
  · next still => rw [if_pos still]
  · split at none <;> cases none

/-! ## Parents -/

/-- What is dropped stands for nothing, and then comes something that does, or the first segment. -/
theorem dropTrailing_spec {segments : List Bytes} (filled : segments ≠ []) :
    ∃ dropped last rest, segments = dropped ++ last :: rest ∧ dropTrailing segments = last :: rest ∧
      (∀ segment ∈ dropped, componentOf segment = none) ∧
      (rest = [] ∨ componentOf last ≠ none) := by
  induction segments with
  | nil => exact absurd rfl filled
  | cons segment rest ih =>
      cases rest with
      | nil => exact ⟨[], segment, [], rfl, rfl, fun _ member => (by cases member), Or.inl rfl⟩
      | cons next others =>
          by_cases nothing : componentOf segment = none
          · obtain ⟨dropped, last, left, whole, kept, none, stops⟩ := ih (by simp)
            refine ⟨segment :: dropped, last, left, ?_, ?_,
              List.forall_mem_cons.mpr ⟨nothing, none⟩, stops⟩
            · rw [List.cons_append, whole]
            · rw [dropTrailing, if_pos (by rw [nothing]; rfl), kept]
              simp
          · refine ⟨[], segment, next :: others, rfl, ?_, fun _ member => (by cases member),
              Or.inr nothing⟩
            rw [dropTrailing, if_neg]
            · rwa [Option.isNone_iff_eq_none]
            · simp

/-- The path of the segments before the last one, which come in reverse. -/
def above (before : List Bytes) : Path :=
  match dropTrailing before with
  | [] => ⟨[]⟩
  | [[]] => ⟨[slash]⟩
  | kept => ⟨joinSegments kept.reverse⟩

theorem parent_eq_some {path parent : Path} (isParent : path.parent = some parent) :
    ∃ last before dropped, last ≠ [] ∧ path.segments = before.reverse ++ last :: dropped ∧
      (∀ segment ∈ dropped, componentOf segment = none) ∧ parent = above before := by
  have filled : path.segments.reverse ≠ [] := by
    rw [ne_eq, List.reverse_eq_nil_iff]
    exact segmentsOf_ne_nil path.bytes
  obtain ⟨dropped, last, before, whole, kept, none, stops⟩ := dropTrailing_spec filled
  have segments : path.segments = before.reverse ++ last :: dropped.reverse := by
    rw [← List.reverse_reverse path.segments, whole]
    simp
  rw [Path.parent, kept] at isParent
  refine ⟨last, before, dropped.reverse, ?_, segments,
    fun segment member => none segment (List.mem_reverse.mp member), ?_⟩
  · -- A first segment that is empty is the root, which has no parent.
    rintro rfl
    have alone := stops.resolve_right fun stands => stands rfl
    rw [alone, List.reverse_nil, List.nil_append] at segments
    have nothing : dropped.reverse.filterMap componentOf = [] :=
      List.filterMap_eq_nil_iff.mpr fun segment member => none segment (List.mem_reverse.mp member)
    have root : path.components = [] ∨ path.components = [.root] := by
      rw [components, segments]
      simp only [nothing]
      split
      · exact Or.inl rfl
      · exact Or.inr rfl
    rcases root with root | root
    · rw [root] at isParent
      cases isParent
    · rw [root] at isParent
      cases isParent
  · have same : some (above before) = some parent := by
      split at isParent
      · cases isParent
      · cases isParent
      · rw [← isParent, above]
        simp only
        rcases dropTrailing before with _ | ⟨_ | _, _ | _⟩ <;> rfl
    exact (Option.some.inj same).symm

/-- What a parent leaves out of the segments before the last one makes no move. -/
theorem movesOf_above {path : Path} {before rest : List Bytes}
    (shape : path.segments = before.reverse ++ rest) :
    ∃ count, movesOf before.reverse = (above before).way ++ List.replicate count .stay := by
  by_cases alone : before = []
  · subst alone
    exact ⟨0, rfl⟩
  · obtain ⟨between, head, kept, rfl, trimmed, nothing, _⟩ := dropTrailing_spec alone
    obtain ⟨count, stays⟩ := movesOf_eq_replicate fun segment member =>
      nothing segment (List.mem_reverse.mp member)
    refine ⟨count, ?_⟩
    rw [List.reverse_append, movesOf_append, stays, List.append_cancel_right_eq, above, trimmed]
    split
    · next none => cases none
    · next root => cases root; rfl
    · rw [way, segments, segmentsOf_joinSegments _ (by simp)]
      · rfl
      · intro segment member
        refine (slash_notMem_of_mem_segmentsOf path.bytes segment ?_).1
        rw [← Path.segments, shape, List.reverse_append]
        exact List.mem_append_left _ (List.mem_append_left _ member)

/-- A path goes on where its parent ends, and makes a move. -/
theorem parent_prefix {path parent : Path} (isParent : path.parent = some parent) :
    ∃ rest more, path.bytes = parent.bytes ++ rest ∧ rest ≠ [] ∧ path.way = parent.way ++ more ∧
      more ≠ [] := by
  obtain ⟨last, before, dropped, filled, segments, _, rfl⟩ := parent_eq_some isParent
  have bytes : path.bytes = joinSegments (before.reverse ++ last :: dropped) := by
    rw [← segments, Path.segments, joinSegments_segmentsOf]
  have isLast : last ∈ last :: dropped := List.mem_cons_self
  obtain ⟨count, inner⟩ := movesOf_above segments
  have whole : ∃ rest, path.bytes = (above before).bytes ++ rest ∧ rest ≠ [] := by
    by_cases alone : before = []
    · subst alone
      exact ⟨_, bytes, joinSegments_ne_nil isLast filled⟩
    · obtain ⟨between, head, kept, rfl, trimmed, _⟩ := dropTrailing_spec alone
      rw [List.reverse_append, List.append_assoc, joinSegments_append (by simp) (by simp)] at bytes
      rw [above, trimmed]
      split
      · next none => cases none
      · next root =>
        cases root
        exact ⟨_, bytes, joinSegments_ne_nil (List.mem_append_right _ isLast) filled⟩
      · exact ⟨_, bytes, by simp⟩
  obtain ⟨rest, prefixed, nonempty⟩ := whole
  refine ⟨rest, List.replicate count .stay ++ movesOf (last :: dropped), prefixed, nonempty, ?_, ?_⟩
  · rw [← List.append_assoc, ← inner, ← movesOf_append, ← segments]
    rfl
  · exact List.append_ne_nil_of_right_ne_nil _ (movesOf_ne_nil isLast filled)

theorem above_ne_nil {before : List Bytes} (filled : before ≠ []) : (above before).bytes ≠ [] := by
  obtain ⟨between, head, kept, _, trimmed, _⟩ := dropTrailing_spec filled
  rw [above, trimmed]
  split
  · next none => cases none
  · simp
  · next root =>
    cases kept with
    | nil =>
        have inner : head ≠ [] := fun same => root (by rw [same])
        simpa [joinSegments] using inner
    | cons next others =>
        rw [List.reverse_cons, joinSegments_append (by simp) (by simp)]
        simp

/-- A path is absolute if its parent is. -/
theorem isAbsolute_parent {path parent : Path} (isParent : path.parent = some parent) :
    path.isAbsolute = parent.isAbsolute := by
  obtain ⟨rest, _, prefixed, _⟩ := parent_prefix isParent
  cases shape : parent.bytes with
  | cons first others =>
      rw [isAbsolute, isAbsolute, prefixed, shape]
      rfl
  | nil =>
      obtain ⟨last, before, dropped, filled, segments, _, rfl⟩ := parent_eq_some isParent
      obtain rfl : before = [] := Classical.byContradiction fun more => above_ne_nil more shape
      -- The first segment of an absolute path is empty, and that of this one is its last name.
      have relative : path.isAbsolute = false := by
        rw [Bool.eq_false_iff, ne_eq, isAbsolute, decide_eq_true_iff, List.head?_eq_some_iff]
        rintro ⟨others, absolute⟩
        rw [Path.segments, absolute, segmentsOf, if_pos rfl] at segments
        exact filled (List.cons.inj segments).1.symm
      rw [relative]
      rfl

/-! ## Slashes at the end -/

/-- An empty segment at the end comes from a slash at the end. -/
theorem getLast?_of_trailing {bytes : Bytes}
    (trailing : (segmentsOf bytes).tail.getLast? = some []) : bytes.getLast? = some slash := by
  obtain ⟨first, rest, shape⟩ := List.exists_cons_of_ne_nil (segmentsOf_ne_nil bytes)
  rw [shape, List.tail_cons] at trailing
  obtain ⟨others, rfl⟩ := List.getLast?_eq_some_iff.mp trailing
  rw [← joinSegments_segmentsOf bytes, shape, ← List.cons_append,
    joinSegments_append (by simp) (by simp)]
  exact List.getLast?_concat

theorem dropSlashes_bytes (path : Path) :
    path.dropSlashes = ⟨[slash]⟩ ∨ path.dropSlashes.bytes.getLast? ≠ some slash := by
  rw [dropSlashes]
  split
  · exact Or.inl rfl
  · right
    rw [List.getLast?_reverse]
    intro isSlash
    have kept := List.head?_dropWhile_not (fun byte => decide (byte = slash)) path.bytes.reverse
    rw [isSlash] at kept
    simp at kept

/-- A path without its slashes makes the moves of its way, unless it is a root. -/
theorem moves_dropSlashes (path : Path) : path.dropSlashes.moves = path.way ∨
    path.way = [] ∧ path.dropSlashes.moves = [.stay] := by
  have way := path.way_dropSlashes
  rcases path.dropSlashes_bytes with root | bare
  · rw [root] at way ⊢
    exact Or.inr ⟨way.symm, rfl⟩
  · rw [moves_eq, way, if_neg]
    · exact Or.inl (List.append_nil _)
    · exact fun trailing => bare (getLast?_of_trailing trailing)

/-- A path begins with what is left of it without slashes at the end, and something is left. -/
theorem dropSlashes_prefix {path : Path} (filled : path.bytes ≠ []) :
    path.dropSlashes.bytes ≠ [] ∧ ∃ more, path.bytes = path.dropSlashes.bytes ++ more := by
  obtain ⟨more, whole⟩ : ∃ more, path.bytes =
      (path.bytes.reverse.dropWhile (· = slash)).reverse ++ more := by
    refine ⟨(path.bytes.reverse.takeWhile (· = slash)).reverse, ?_⟩
    rw [← List.reverse_append, List.takeWhile_append_dropWhile, List.reverse_reverse]
  rw [dropSlashes]
  split
  · next empty =>
    rw [Bool.and_eq_true, isAbsolute, decide_eq_true_iff, List.head?_eq_some_iff] at empty
    obtain ⟨_, rest, absolute⟩ := empty
    exact ⟨by simp, rest, absolute⟩
  · next kept =>
    refine ⟨?_, more, whole⟩
    intro empty
    apply kept
    have none : (path.bytes.reverse.dropWhile fun byte => byte = slash).reverse = [] := empty
    rw [none, List.isEmpty_nil, Bool.true_and, isAbsolute, decide_eq_true_iff]
    obtain ⟨first, rest, shape⟩ := List.exists_cons_of_ne_nil filled
    rw [List.reverse_eq_nil_iff, List.dropWhile_eq_nil_iff] at none
    have isSlash := none first (by simp [shape])
    rw [shape, List.head?_cons, of_decide_eq_true isSlash]

/-! ## File names -/

theorem moveOf_eq_enter {segment : Bytes} {name : Name} (moves : moveOf segment = .enter name) :
    segment = name ∧ leadingComponent segment = .normal name ∧
      componentOf segment = some (.normal name) := by
  rw [moveOf] at moves
  split at moves
  · cases moves
  · next moving =>
    split at moves
    · cases moves
    · next entering =>
      cases moves
      rw [not_or] at moving
      exact ⟨rfl, by simp [leadingComponent, moving, entering],
        by simp [componentOf, moving, entering]⟩

/-- A path that enters a name last ends in this name. -/
theorem fileName_of_enter {path : Path} {name : Name}
    (last : path.moves.getLast? = some (.enter name)) : path.fileName = some name := by
  obtain ⟨first, rest, shape⟩ := List.exists_cons_of_ne_nil (segmentsOf_ne_nil path.bytes)
  have filled : path.bytes ≠ [] := by
    intro empty
    rw [moves_eq, way, segments, empty] at last
    cases last
  have components := components_of_nonempty filled shape
  rw [moves_eq, way, show path.segments = first :: rest from shape, List.tail_cons] at last
  rcases List.eq_nil_or_concat' rest with rfl | ⟨others, final, rfl⟩
  · by_cases empty : first = []
    · subst empty
      cases last
    · have entered : moveOf first = .enter name := by simpa [empty] using last
      rw [fileName, components, (moveOf_eq_enter entered).2.1]
      rfl
  · by_cases empty : final = []
    · subst empty
      rw [List.getLast?_concat, if_pos rfl, List.getLast?_concat] at last
      cases last
    · have entered : moveOf final = .enter name := by
        rw [List.getLast?_concat, if_neg (by simpa using empty), List.append_nil,
          ← List.cons_append, List.filter_append, List.filter_singleton] at last
        simpa [empty] using last
      rw [fileName, components, List.filterMap_append, List.filterMap_cons_some
        (moveOf_eq_enter entered).2.2, List.filterMap_nil, ← List.cons_append, List.getLast?_concat]

/-- A name that is too long to stand for a directory ends the path to which it is joined. -/
theorem fileName_joinName_of_long (base : Path) {name : Name} (slashless : slash ∉ name)
    (long : 2 < name.length) : (base.joinName name).fileName = some name := by
  have nonempty : name ≠ [] := by
    rintro rfl
    cases long
  have notHere : name ≠ currentSegment := by
    rintro rfl
    exact absurd long (by decide)
  have notAbove : name ≠ parentSegment := by
    rintro rfl
    exact absurd long (by decide)
  have entered : moveOf name = .enter name := by simp [moveOf, nonempty, notHere, notAbove]
  apply fileName_of_enter
  rw [joinName, moves_join_slashless base slashless nonempty,
    way_join (isAbsolute_of_slashless slashless), way, way, segments_of_slashless slashless]
  simp [nonempty, entered]

theorem exists_parent {path : Path} {name : Name} (named : path.fileName = some name) :
    ∃ parent, path.parent = some parent := by
  rw [fileName] at named
  split at named
  · next last isLast =>
    have filled : path.segments.reverse ≠ [] := by
      rw [ne_eq, List.reverse_eq_nil_iff]
      exact segmentsOf_ne_nil path.bytes
    obtain ⟨_, head, before, _, kept, _⟩ := dropTrailing_spec filled
    rw [Path.parent, isLast, kept]
    simp only
    split <;> exact ⟨_, rfl⟩
  · cases named

/-- A path that enters a name last enters it from its parent. -/
theorem moves_of_enter {path : Path} {name : Name}
    (last : path.moves.getLast? = some (.enter name)) : ∃ parent count,
      path.parent = some parent ∧
        path.moves = parent.way ++ (List.replicate count .stay ++ [.enter name]) := by
  obtain ⟨parent, isParent⟩ := exists_parent (fileName_of_enter last)
  obtain ⟨final, before, dropped, filled, segments, nothing, rfl⟩ := parent_eq_some isParent
  have bare : path.moves = path.way := by
    rw [moves_eq] at last ⊢
    split
    · next trailing =>
      rw [if_pos trailing, List.getLast?_concat] at last
      cases last
    · rw [List.append_nil]
  obtain ⟨count, inner⟩ := movesOf_above segments
  obtain ⟨behind, stays⟩ := movesOf_eq_replicate nothing
  have way : path.way = (above before).way ++
      (List.replicate count .stay ++ moveOf final :: List.replicate behind .stay) := by
    rw [← List.append_assoc, ← inner, ← stays, show path.way = movesOf path.segments from rfl,
      segments, movesOf_append]
    simp [movesOf, filled]
  rw [bare] at last ⊢
  refine ⟨above before, count, isParent, ?_⟩
  rw [way] at last ⊢
  -- The last move enters a name, so that nothing is behind the last segment.
  cases behind with
  | zero =>
      rw [List.replicate_zero, ← List.append_assoc, List.getLast?_concat, Option.some.injEq] at last
      rw [last]
      rfl
  | succ behind =>
      rw [List.replicate_succ', ← List.cons_append, ← List.append_assoc, ← List.append_assoc,
        List.getLast?_concat] at last
      cases last

/-- The path goes on from a base, and at its end enters a name. -/
structure Enters (path base : Path) (name : Name) : Prop where
  bare : path.hasSlashAtEnd = false
  absolute : path.isAbsolute = base.isAbsolute
  moves : ∃ count, path.moves = base.way ++ (List.replicate count .stay ++ [.enter name])

theorem enters_joinName (base : Path) {name : Name} (plain : Name.Plain name) :
    (base.joinName name).Enters base name := by
  have relative := isAbsolute_of_slashless plain.slashless
  refine ⟨bare_joinName base plain, isAbsolute_join relative, 0, ?_⟩
  rw [joinName, moves_join_slashless base plain.slashless plain.nonempty, way_join relative,
    way_name plain]
  rfl

theorem exists_enters {path : Path} {name : Name} (bare : path.hasSlashAtEnd = false)
    (last : path.moves.getLast? = some (.enter name)) :
    ∃ parent, path.parent = some parent ∧ path.Enters parent name := by
  obtain ⟨parent, count, isParent, moves⟩ := moves_of_enter last
  exact ⟨parent, isParent, bare, isAbsolute_parent isParent, count, moves⟩

/-! ## Names joined to paths -/

section Joined

variable {base : Path} {last name : Name} {names : List Name}

theorem isEmpty_joinName (base : Path) (plain : Name.Plain name) :
    (base.joinName name).isEmpty = false := by
  have longer := length_lt_joinName base plain.nonempty plain.slashless
  rw [isEmpty, List.isEmpty_eq_false_iff]
  exact List.ne_nil_of_length_pos (Nat.zero_lt_of_lt longer)

/-- What ends in a name goes on with a slash. -/
theorem joinName_joinName (base : Path) (plainLast : Name.Plain last) (plain : Name.Plain name) :
    (base.joinName last).joinName name = ⟨(base.joinName last).bytes ++ slash :: name⟩ := by
  have relative := isAbsolute_of_slashless plain.slashless
  have filled := isEmpty_joinName base plainLast
  have bare := bare_joinName base plainLast
  rw [hasSlashAtEnd, decide_eq_false_iff_not] at bare
  rw [joinName, join, if_neg (by simp [relative, filled]), if_neg bare]

theorem segments_joinName (base : Path) (plain : Name.Plain name) :
    ∃ front, (base.joinName name).segments = front ++ [name] := by
  by_cases empty : base.bytes = []
  · rw [joinName, join_of_isEmpty _ empty, segments_of_slashless plain.slashless]
    exact ⟨[], rfl⟩
  · obtain ⟨first, others, _, joined⟩ :=
      segments_join empty (isAbsolute_of_slashless plain.slashless)
    rw [segments_of_slashless plain.slashless] at joined
    exact ⟨_, joined⟩

/-! ## The parents of joined names -/

theorem dropTrailing_plain (plain : Name.Plain name) (front : List Bytes) :
    dropTrailing (name :: front) = name :: front := by
  cases front with
  | nil => rfl
  | cons next others =>
      rw [dropTrailing, componentOf_plain plain]
      · rfl
      · exact List.cons_ne_nil _ _

theorem parent_joinName (base : Path) (plainLast : Name.Plain last) (plain : Name.Plain name) :
    ((base.joinName last).joinName name).parent = some (base.joinName last) := by
  obtain ⟨front, segments⟩ := segments_joinName base plainLast
  have whole : ((base.joinName last).joinName name).segments.reverse =
      name :: last :: front.reverse := by
    rw [Path.segments, joinName_joinName base plainLast plain, segmentsOf_append_slash,
      segmentsOf_of_slashless name plain.slashless, ← Path.segments, segments]
    simp
  have ends : ((base.joinName last).joinName name).components.getLast? = some (.normal name) := by
    rw [components_joinName plain, List.getLast?_concat]
  rw [parent, ends]
  simp only
  rw [whole, dropTrailing_plain plain]
  simp only
  rw [dropTrailing_plain plainLast]
  split
  · next none => cases none
  · next root => exact absurd (List.cons.inj root).1 plainLast.nonempty
  · rw [List.reverse_cons, List.reverse_reverse, ← segments, Path.segments,
      joinSegments_segmentsOf]

theorem parent_descend (base : Path) (filled : names ≠ [])
    (plain : ∀ each ∈ names, Name.Plain each) (plainLast : Name.Plain name) :
    (base.descend (names ++ [name])).parent = some (base.descend names) ∧
      (base.descend names).isEmpty = false := by
  obtain ⟨front, last, rfl⟩ := (List.eq_nil_or_concat' names).resolve_left filled
  rw [descend_concat, descend_concat]
  exact ⟨parent_joinName _ (plain last (by simp)) plainLast,
    isEmpty_joinName _ (plain last (by simp))⟩

/-! ## Names at once -/

theorem join_append_slash (base : Path) {front : Bytes} (back : Bytes) (filled : front ≠ []) :
    base.join ⟨front ++ slash :: back⟩ = ⟨(base.join ⟨front⟩).bytes ++ slash :: back⟩ := by
  obtain ⟨byte, rest, rfl⟩ := List.exists_cons_of_ne_nil filled
  have absolute : (⟨byte :: rest ++ slash :: back⟩ : Path).isAbsolute =
      (⟨byte :: rest⟩ : Path).isAbsolute := rfl
  rw [join, join, absolute]
  split
  · rfl
  · split <;> simp

theorem join_joinSegments (base : Path) (filled : names ≠ [])
    (plain : ∀ each ∈ names, Name.Plain each) :
    base.join ⟨joinSegments names⟩ = base.descend names := by
  induction names using List.reverseRecOn with
  | nil => exact absurd rfl filled
  | append_singleton front last ih =>
      rcases List.eq_nil_or_concat' front with rfl | ⟨before, inner, rfl⟩
      · rfl
      · have further : before ++ [inner] ≠ [] := by simp
        have plainFront : ∀ each ∈ before ++ [inner], Name.Plain each :=
          fun each member => plain each (List.mem_append_left _ member)
        have nonempty : joinSegments (before ++ [inner]) ≠ [] :=
          joinSegments_ne_nil (List.mem_append_right _ (List.mem_singleton.mpr rfl))
            (plainFront inner (by simp)).nonempty
        rw [joinSegments_append further (by simp), joinSegments, join_append_slash base _ nonempty,
          ih further plainFront, descend_concat _ (before ++ [inner]), descend_concat,
          joinName_joinName _ (plainFront inner (by simp)) (plain last (by simp))]

/-- Names joined at once, and one more name. -/
theorem joinName_join_joinSegments (base : Path) (plain : ∀ each ∈ names, Name.Plain each)
    (plainLast : Name.Plain name) :
    (base.join ⟨joinSegments names⟩).joinName name = base.descend (names ++ [name]) := by
  rw [descend_concat]
  by_cases none : names = []
  · subst none
    have relative := isAbsolute_of_slashless plainLast.slashless
    have nothing : (⟨joinSegments []⟩ : Path).isAbsolute = false := rfl
    rw [descend_nil, joinName, joinName, join, join, join, nothing, relative]
    by_cases empty : base.bytes = []
    · simp [isEmpty, empty, joinSegments]
    · by_cases slashed : base.bytes.getLast? = some slash <;>
        simp [isEmpty, empty, slashed, joinSegments]
  · rw [join_joinSegments base none plain]

end Joined

end TemplateBuild.Path

import TemplateBuild.Proofs.Walk.Agenda

/-!
# The order of a walk

Directories are visited in the order of the names on the way to them, compared name by name, a
directory before those below it.  That holds while the files change as well: what is ahead is
always apart from what has been, so nothing is visited twice.
-/

set_option autoImplicit false

namespace TemplateBuild.Walk

open FileTree (Precedes Increasing)

/-! ## Apart -/

/-- The first way turns off to an earlier name somewhere, so that all below it comes before
all below the second. -/
inductive Apart : List Name → List Name → Prop
  | here {first second : Name} {rest others : List Name} : Precedes first second →
      Apart (first :: rest) (second :: others)
  | later {name : Name} {rest others : List Name} : Apart rest others →
      Apart (name :: rest) (name :: others)

namespace Apart

variable {first second : List Name}

theorem append (apart : Apart first second) (more others : List Name) :
    Apart (first ++ more) (second ++ others) := by
  induction apart with
  | here before => exact .here before
  | later _ ih => exact .later ih

theorem lex (apart : Apart first second) : List.Lex Precedes first second := by
  induction apart with
  | here before => exact .rel before
  | later _ ih => exact .cons ih

theorem siblings {name other : Name} (before : Precedes name other) : ∀ base : List Name,
    Apart (base ++ [name]) (base ++ [other]) := by
  intro base
  induction base with
  | nil => exact .here before
  | cons first rest ih => exact .later ih

end Apart

theorem lex_below (base : List Name) {more : List Name} (inner : more ≠ []) :
    List.Lex Precedes base (base ++ more) := by
  induction base with
  | nil =>
      cases more with
      | nil => exact absurd rfl inner
      | cons name rest => exact .nil
  | cons first rest ih => exact .cons ih

/-! ## What is ahead -/

namespace Errand

/-- The names on the way to the directory that an errand enters. -/
def relative? : Errand → Option (List Name)
  | .enter _ _ relative => some relative
  | .report _ _ => none

/-- The directory of an errand lies below the root by its names. -/
def Sound (root : Path) : Errand → Prop
  | .enter _ directory relative =>
    directory = root.descend relative ∧ ∀ name ∈ relative, Name.Plain name
  | .report _ _ => True

theorem sound_below {root : Path} {files : FileTree} (wellFormed : files.WellFormed)
    {errand : Errand} (sound : errand.Sound root) :
    ∀ other ∈ errand.below files, other.Sound root := by
  intro other member
  cases errand with
  | report directory failure => simp [below] at member
  | enter own directory relative =>
      obtain ⟨shape, plain⟩ := sound
      rw [below] at member
      cases listed : directoriesIn files directory with
      | error failure =>
          rw [listed, ofListing, List.mem_singleton] at member
          rw [member]
          trivial
      | ok names =>
          rw [listed, ofListing, List.mem_map] at member
          obtain ⟨name, isIn, rfl⟩ := member
          have last := (directoriesIn_eq_ok wellFormed listed).2.2 name isIn
          refine ⟨by rw [Path.descend_concat, shape], ?_⟩
          intro each isEach
          rcases List.mem_append.mp isEach with isEach | isEach
          · exact plain each isEach
          · rw [List.mem_singleton.mp isEach]
            exact last

/-- The errands below a directory lead below it, in increasing order. -/
theorem relatives_below {files : FileTree} (wellFormed : files.WellFormed) (own : Bool)
    (directory : Path) (relative : List Name) :
    ∃ names, Increasing names ∧ ((enter own directory relative).below files).filterMap relative? =
      names.map fun name => relative ++ [name] := by
  rw [below]
  cases listed : directoriesIn files directory with
  | error failure => exact ⟨[], List.Pairwise.nil, rfl⟩
  | ok names =>
      refine ⟨names, (directoriesIn_eq_ok wellFormed listed).2.1, ?_⟩
      rw [ofListing, List.filterMap_map]
      exact congrFun List.filterMap_eq_map names

end Errand

/-! ## Sweeps -/

/-- How a walk goes through its errands: which were done, each with the files as they were then,
and which are left. -/
inductive Sweep : List Errand → List (Errand × FileTree) → List Errand → Prop
  | rest (agenda : List Errand) : Sweep agenda [] agenda
  | next {errand : Errand} {agenda left : List Errand} {done : List (Errand × FileTree)}
      (files : FileTree) : Sweep (errand.below files ++ agenda) done left →
      Sweep (errand :: agenda) ((errand, files) :: done) left

/-- The names on the way to each directory that was entered. -/
def entered (done : List (Errand × FileTree)) : List (List Name) :=
  done.filterMap fun step => step.1.relative?

namespace Sweep

variable {agenda left : List Errand} {done : List (Errand × FileTree)}

theorem sound {root : Path} (sweep : Sweep agenda done left) :
    (∀ step ∈ done, step.2.WellFormed) → (∀ errand ∈ agenda, errand.Sound root) →
      ∀ step ∈ done, step.1.Sound root := by
  induction sweep with
  | rest agenda =>
      intro _ _ step member
      cases member
  | next files _ ih =>
      intro wellFormed sound step member
      rw [List.forall_mem_cons] at wellFormed sound
      rcases List.mem_cons.mp member with rfl | member
      · exact sound.1
      · apply ih wellFormed.2 _ step member
        intro other isIn
        rcases List.mem_append.mp isIn with isIn | isIn
        · exact Errand.sound_below wellFormed.1 sound.1 other isIn
        · exact sound.2 other isIn

/-- A walk that is through has done all its errands, and all that came up. -/
theorem closed (sweep : Sweep agenda done left) : left = [] →
    (∀ errand ∈ agenda, ∃ files, (errand, files) ∈ done) ∧
      ∀ step ∈ done, ∀ errand ∈ step.1.below step.2, ∃ files, (errand, files) ∈ done := by
  induction sweep with
  | rest agenda =>
      rintro rfl
      exact ⟨fun _ member => (by cases member), fun _ member => (by cases member)⟩
  | next files _ ih =>
      intro through
      obtain ⟨started, closed⟩ := ih through
      constructor
      · intro errand member
        rcases List.mem_cons.mp member with rfl | member
        · exact ⟨files, List.mem_cons_self ..⟩
        · obtain ⟨later, isDone⟩ := started errand (List.mem_append_right _ member)
          exact ⟨later, List.mem_cons_of_mem _ isDone⟩
      · intro step member errand isBelow
        rcases List.mem_cons.mp member with rfl | member
        · obtain ⟨later, isDone⟩ := started errand (List.mem_append_left _ isBelow)
          exact ⟨later, List.mem_cons_of_mem _ isDone⟩
        · obtain ⟨later, isDone⟩ := closed step member errand isBelow
          exact ⟨later, List.mem_cons_of_mem _ isDone⟩

/-- What is entered lies where the errands were, and in their order. -/
theorem ordered (sweep : Sweep agenda done left) :
    (∀ step ∈ done, step.2.WellFormed) → (agenda.filterMap Errand.relative?).Pairwise Apart →
      (entered done).Pairwise (List.Lex Precedes) ∧
        ∀ way ∈ entered done, ∃ start ∈ agenda.filterMap Errand.relative?, start <+: way := by
  induction sweep with
  | rest agenda =>
      intro _ _
      exact ⟨List.Pairwise.nil, fun _ member => by cases member⟩
  | @next errand agenda left done files _ ih =>
      intro wellFormed apart
      rw [List.forall_mem_cons] at wellFormed
      cases errand with
      | report directory failure => exact ih wellFormed.2 apart
      | enter own directory relative =>
          obtain ⟨names, increasing, shape⟩ :=
            Errand.relatives_below wellFormed.1 own directory relative
          have heads : (Errand.enter own directory relative :: agenda).filterMap Errand.relative? =
              relative :: agenda.filterMap Errand.relative? := rfl
          have whole : entered ((Errand.enter own directory relative, files) :: done) =
              relative :: entered done := rfl
          rw [heads, List.pairwise_cons] at apart
          obtain ⟨before, others⟩ := apart
          -- The subdirectories take the place of the directory that they lie in, and are apart from
          -- all that it was apart from.
          rw [List.filterMap_append, shape] at ih
          obtain ⟨later, starts⟩ := ih wellFormed.2 (by
            rw [List.pairwise_append]
            refine ⟨?_, others, ?_⟩
            · rw [List.pairwise_map]
              exact increasing.imp fun first => Apart.siblings first relative
            · intro way member other isOther
              obtain ⟨name, _, rfl⟩ := List.mem_map.mp member
              have further := (before other isOther).append [name] []
              rwa [List.append_nil] at further)
          rw [whole, heads]
          refine ⟨List.pairwise_cons.mpr ⟨?_, later⟩, ?_⟩
          · intro way member
            obtain ⟨start, isStart, more, rfl⟩ := starts way member
            rcases List.mem_append.mp isStart with isStart | isStart
            · obtain ⟨name, _, rfl⟩ := List.mem_map.mp isStart
              rw [List.append_assoc]
              exact lex_below relative (by simp)
            · have further := ((before start isStart).append [] more).lex
              rwa [List.append_nil] at further
          · intro way member
            rcases List.mem_cons.mp member with rfl | member
            · exact ⟨way, List.mem_cons_self .., List.prefix_refl way⟩
            · obtain ⟨start, isStart, starting⟩ := starts way member
              rcases List.mem_append.mp isStart with isStart | isStart
              · obtain ⟨name, _, rfl⟩ := List.mem_map.mp isStart
                exact ⟨relative, List.mem_cons_self ..,
                  (List.prefix_append relative [name]).trans starting⟩
              · exact ⟨start, List.mem_cons_of_mem _ isStart, starting⟩

end Sweep

theorem begin_sound (walk : Walk) (files : FileTree) :
    (∀ errand ∈ walk.begin files, errand.Sound walk.root) ∧
      ((walk.begin files).filterMap Errand.relative?).Pairwise Apart := by
  have one : ∀ own, (∀ errand ∈ [Errand.enter own walk.root []], errand.Sound walk.root) ∧
      ([Errand.enter own walk.root []].filterMap Errand.relative?).Pairwise Apart := by
    intro own
    refine ⟨?_, List.pairwise_singleton _ _⟩
    intro errand member
    rw [List.mem_singleton.mp member]
    exact ⟨rfl, fun _ isIn => by cases isIn⟩
  have failed : ∀ failure, (∀ errand ∈ [Errand.report walk.root failure], errand.Sound walk.root) ∧
      ([Errand.report walk.root failure].filterMap Errand.relative?).Pairwise Apart := by
    intro failure
    refine ⟨?_, List.Pairwise.nil⟩
    intro errand member
    rw [List.mem_singleton.mp member]
    trivial
  have nothing : (∀ errand ∈ ([] : List Errand), errand.Sound walk.root) ∧
      (([] : List Errand).filterMap Errand.relative?).Pairwise Apart :=
    ⟨fun _ member => (by cases member), List.Pairwise.nil⟩
  unfold begin
  split
  · exact failed _
  · exact nothing
  · exact one _
  · split
    · exact failed _
    · exact one _
    · exact nothing

end TemplateBuild.Walk

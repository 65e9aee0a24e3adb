import TemplateBuild.FileTree.Reading
import Mathlib.Data.List.Sort

/-!
# Sorted names

`precedes` is a strict order in which any two names can be compared.  Sorting names that are
all different yields the only list that is strictly increasing and has the same members.
-/

set_option autoImplicit false

namespace TemplateBuild.FileTree

/-- One name comes before another. -/
def Precedes (first second : Bytes) : Prop :=
  precedes first second = true

instance (first second : Bytes) : Decidable (Precedes first second) :=
  inferInstanceAs (Decidable (_ = _))

theorem precedes_cons_iff (first second : UInt8) (rest others : Bytes) :
    Precedes (first :: rest) (second :: others) ↔
      first < second ∨ first = second ∧ Precedes rest others := by
  by_cases same : first = second
  · simp [Precedes, precedes, same]
  · simp [Precedes, precedes, same]

theorem not_precedes_nil (bytes : Bytes) : ¬ Precedes bytes [] := by
  cases bytes <;> simp [Precedes, precedes]

theorem precedes_irrefl : ∀ bytes : Bytes, ¬ Precedes bytes bytes := by
  intro bytes
  induction bytes with
  | nil => exact not_precedes_nil []
  | cons byte rest ih =>
      rw [precedes_cons_iff]
      rintro (less | ⟨_, later⟩)
      · exact absurd less (UInt8.lt_irrefl byte)
      · exact ih later

theorem precedes_trans : ∀ {first second third : Bytes}, Precedes first second →
    Precedes second third → Precedes first third := by
  intro first
  induction first with
  | nil =>
      intro second third _ before
      cases third with
      | nil => exact absurd before (not_precedes_nil second)
      | cons byte rest => rfl
  | cons byte rest ih =>
      intro second third before after
      cases second with
      | nil => exact absurd before (not_precedes_nil _)
      | cons middle others =>
          cases third with
          | nil => exact absurd after (not_precedes_nil _)
          | cons last more =>
              rw [precedes_cons_iff] at before after ⊢
              rcases before with less | ⟨rfl, before⟩
              · rcases after with further | ⟨rfl, _⟩
                · exact Or.inl (UInt8.lt_trans less further)
                · exact Or.inl less
              · rcases after with further | ⟨rfl, after⟩
                · exact Or.inl further
                · exact Or.inr ⟨rfl, ih before after⟩

theorem precedes_of_not_precedes : ∀ {first second : Bytes}, ¬ Precedes first second →
    first ≠ second → Precedes second first := by
  intro first
  induction first with
  | nil =>
      intro second notBefore different
      cases second with
      | nil => exact absurd rfl different
      | cons byte rest => exact absurd rfl notBefore
  | cons byte rest ih =>
      intro second notBefore different
      cases second with
      | nil => rfl
      | cons other others =>
          rw [precedes_cons_iff] at notBefore ⊢
          rw [not_or, not_and] at notBefore
          by_cases same : byte = other
          · subst same
            refine Or.inr ⟨rfl, ih (notBefore.2 rfl) ?_⟩
            rintro rfl
            exact different rfl
          · exact Or.inl (UInt8.lt_of_le_of_ne (UInt8.not_lt.mp notBefore.1) (Ne.symm same))

instance : Std.Irrefl Precedes :=
  ⟨precedes_irrefl⟩

theorem precedes_asymm {first second : Bytes} (before : Precedes first second) :
    ¬ Precedes second first :=
  fun after => precedes_irrefl first (precedes_trans before after)

instance : Std.Asymm Precedes :=
  ⟨fun _ _ => precedes_asymm⟩

instance : Std.Antisymm Precedes :=
  ⟨fun _ _ before after => absurd after (precedes_asymm before)⟩

/-- Every name comes before all later ones. -/
def Increasing (names : List Name) : Prop :=
  names.Pairwise Precedes

/-- The members of an increasing list determine it. -/
theorem Increasing.eq_of_mem_iff {names others : List Name} (increasing : Increasing names)
    (alsoIncreasing : Increasing others) (same : ∀ name, name ∈ names ↔ name ∈ others) :
    names = others :=
  List.Pairwise.eq_of_mem_iff increasing alsoIncreasing same

theorem Increasing.filter {names : List Name} (increasing : Increasing names)
    (keep : Name → Bool) : Increasing (names.filter keep) :=
  List.Pairwise.filter keep increasing

/-! ## Sorting -/

theorem insertBy_perm (name : Name) : ∀ names : List Name,
    (insertBy id name names).Perm (name :: names) := by
  intro names
  induction names with
  | nil => exact List.Perm.refl _
  | cons first rest ih =>
      rw [insertBy]
      split
      · exact (ih.cons first).trans (List.Perm.swap name first rest)
      · exact List.Perm.refl _

theorem sortBy_perm : ∀ names : List Name, (sortBy id names).Perm names := by
  intro names
  induction names with
  | nil => exact List.Perm.refl _
  | cons first rest ih => exact (insertBy_perm first _).trans (ih.cons first)

theorem mem_sortBy_iff (name : Name) (names : List Name) : name ∈ sortBy id names ↔ name ∈ names :=
  (sortBy_perm names).mem_iff

theorem insertBy_increasing (name : Name) : ∀ names : List Name, Increasing names →
    name ∉ names → Increasing (insertBy id name names) := by
  intro names
  induction names with
  | nil =>
      intro _ _
      exact List.pairwise_singleton _ _
  | cons first rest ih =>
      intro increasing new
      obtain ⟨before, rest'⟩ := List.pairwise_cons.mp increasing
      rw [List.mem_cons, not_or] at new
      rw [insertBy]
      split
      · next later =>
        refine List.pairwise_cons.mpr ⟨?_, ih rest' new.2⟩
        intro other member
        rcases List.mem_cons.mp ((insertBy_perm name rest).mem_iff.mp member) with rfl | member
        · exact later
        · exact before other member
      · next notLater =>
        have first' : Precedes name first := precedes_of_not_precedes notLater (Ne.symm new.1)
        refine List.pairwise_cons.mpr ⟨?_, increasing⟩
        intro other member
        rcases List.mem_cons.mp member with rfl | member
        · exact first'
        · exact precedes_trans first' (before other member)

theorem sortBy_increasing : ∀ names : List Name, names.Nodup → Increasing (sortBy id names) := by
  intro names
  induction names with
  | nil =>
      intro _
      exact List.Pairwise.nil
  | cons first rest ih =>
      intro distinct
      rw [List.nodup_cons] at distinct
      apply insertBy_increasing first _ (ih distinct.2)
      rw [mem_sortBy_iff]
      exact distinct.1

/-- The order in which names are given does not count. -/
theorem sortBy_eq_of_mem_iff {names others : List Name} (distinct : names.Nodup)
    (alsoDistinct : others.Nodup) (same : ∀ name, name ∈ names ↔ name ∈ others) :
    sortBy id names = sortBy id others := by
  apply (sortBy_increasing names distinct).eq_of_mem_iff (sortBy_increasing others alsoDistinct)
  intro name
  rw [mem_sortBy_iff, mem_sortBy_iff, same]

end TemplateBuild.FileTree

/-!
# The last object of a machine

The machines of both runtimes keep what scripts make in arrays.  What was made last lies at the
number of things that were there before it, and changing it leaves these as they are.
-/

set_option autoImplicit false

namespace TemplateBuild.Sandbox

variable {α : Type} (items : Array α) (last : α)

theorem modify_last (update : α → α) :
    (items.push last).modify items.size update = items.push (update last) := by
  apply Array.ext_getElem?
  intro index
  rw [Array.getElem?_modify, Array.getElem?_push, Array.getElem?_push]
  by_cases same : index = items.size
  · rw [if_pos same.symm, if_pos same, if_pos same]
    rfl
  · rw [if_neg (Ne.symm same), if_neg same, if_neg same]

theorem getElem_before_last (next : α) :
    ((items.push last).push next)[items.size]? = some last := by
  rw [Array.getElem?_push, if_neg, Array.getElem?_push_size]
  rw [Array.size_push]
  exact Nat.ne_of_lt (Nat.lt_succ_self _)

theorem getElem_last (next : α) :
    ((items.push last).push next)[items.size + 1]? = some next := by
  rw [← Array.size_push last, Array.getElem?_push_size]

end TemplateBuild.Sandbox

import TemplateBuild.Encoding.Encode
import TemplateBuild.Encoding.FourByte
import TemplateBuild.Encoding.CodePage
import TemplateBuild.Encoding.Signs
import TemplateBuild.Proofs.Text.Utf8

/-!
# Characters written one by one

The runs of an index follow one another by their pointers, so a pointer lies in one run at most.
The pointer that is written for a code point is therefore read as this code point.

Where an encoding keeps no state, the bytes of a character are read as one character before whatever
follows them.  Mostly it is the character that was written; some are written as others on purpose.
-/

set_option autoImplicit false

namespace TemplateBuild.Encoding.Index

/-- The pointers of the runs begin at the least one, increase, and stay below the bound. -/
def fits (bound : Nat) : Nat → Index → Bool
  | _, [] => true
  | least, run :: rest =>
    decide (least ≤ run.pointer) && decide (run.pointer + run.length ≤ bound) &&
      fits bound (run.pointer + run.length) rest

end TemplateBuild.Encoding.Index

namespace TemplateBuild.Encoding

/-! ## Texts -/

/-- What is written of a character is read first, as the character that is seen in it. -/
def ReadsAs (seen : Char → Char) (read : Bytes → Option (List Char))
    (write : Char → Option Bytes) : Prop :=
  ∀ character bytes, write character = some bytes →
    ∀ rest, read (bytes ++ rest) = (read rest).map (seen character :: ·)

/-- By induction on the text. -/
theorem ReadsAs.text {seen : Char → Char} {read : Bytes → Option (List Char)}
    {write : Char → Option Bytes} (readsAs : ReadsAs seen read write)
    (empty : read [] = some []) : ∀ (text : List Char) (pieces : List Bytes),
      text.mapM write = some pieces → read pieces.flatten = some (text.map seen) := by
  intro text
  induction text with
  | nil =>
      intro pieces written
      cases written
      exact empty
  | cons character text ih =>
      intro pieces written
      rw [List.mapM_cons, Option.bind_eq_bind, Option.bind_eq_some_iff] at written
      obtain ⟨bytes, first, written⟩ := written
      rw [Option.bind_eq_bind, Option.bind_eq_some_iff] at written
      obtain ⟨others, later, same⟩ := written
      cases same
      rw [List.flatten_cons, readsAs character bytes first, ih others later]
      rfl

/-! ## Bytes -/

end TemplateBuild.Encoding

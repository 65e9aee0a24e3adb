import Mathlib.Algebra.Group.Nat.Defs
import TemplateBuild.Proofs.FileTree.Sorting
import TemplateBuild.Proofs.Text.Bytes

/-!
# The order of texts and of their bytes

A greater character is written with greater bytes, whatever follows the two.  So texts come in
the order of their characters exactly when their bytes come in the order of bytes.
-/

set_option autoImplicit false

namespace TemplateBuild

open FileTree (Precedes precedes_cons_iff not_precedes_nil precedes_irrefl precedes_trans)

namespace Utf8

/-- The bytes after the first: six bits each, the highest bits first. -/
def tails (value : Nat) : Nat → Bytes
  | 0 => []
  | count + 1 => UInt8.ofNat (value / 64 ^ count % 64 + 128) :: tails value count

theorem precedes_ofNat_iff {first second : Nat} (firstFits : first < 256)
    (secondFits : second < 256) (rest others : Bytes) :
    Precedes (UInt8.ofNat first :: rest) (UInt8.ofNat second :: others) ↔
      first < second ∨ first = second ∧ Precedes rest others := by
  rw [precedes_cons_iff, UInt8.lt_iff_toNat_lt, ← UInt8.toNat_inj, toNat_of_lt firstFits,
    toNat_of_lt secondFits]

theorem tails_precedes {first second : Nat} (less : first < second) (rest others : Bytes) :
    ∀ count, first / 64 ^ count = second / 64 ^ count →
      Precedes (tails first count ++ rest) (tails second count ++ others) := by
  intro count
  induction count with
  | zero =>
      intro same
      omega
  | succ count ih =>
      intro same
      have ordered : first / 64 ^ count ≤ second / 64 ^ count := Nat.div_le_div_right less.le
      rw [Nat.pow_succ, ← Nat.div_div_eq_div_mul, ← Nat.div_div_eq_div_mul] at same
      rw [tails, tails, List.cons_append, List.cons_append,
        precedes_ofNat_iff (by omega) (by omega)]
      by_cases equal : first / 64 ^ count = second / 64 ^ count
      · exact Or.inr ⟨by rw [equal], ih equal⟩
      · exact Or.inl (by omega)

/-- Of two forms with the same number of bytes, the one of the greater value is greater. -/
theorem form_precedes {first second base : Nat} (less : first < second) {count : Nat}
    (fits : base + second / 64 ^ count < 256) (rest others : Bytes) :
    Precedes (UInt8.ofNat (base + first / 64 ^ count) :: tails first count ++ rest)
      (UInt8.ofNat (base + second / 64 ^ count) :: tails second count ++ others) := by
  have ordered : first / 64 ^ count ≤ second / 64 ^ count := Nat.div_le_div_right less.le
  rw [List.cons_append, List.cons_append, precedes_ofNat_iff (by omega) fits]
  by_cases equal : first / 64 ^ count = second / 64 ^ count
  · exact Or.inr ⟨by rw [equal], tails_precedes less rest others count equal⟩
  · exact Or.inl (by omega)

/-- How many bytes follow the first one. -/
def following (value : Nat) : Nat :=
  if value ≤ 0x7F then 0 else if value ≤ 0x7FF then 1 else if value ≤ 0xFFFF then 2 else 3

/-- What a first byte tells of the length of its form. -/
def mark : Nat → Nat
  | 0 => 0
  | 1 => 192
  | 2 => 224
  | _ => 240

theorem encodeChar_eq (character : Char) : encodeChar character =
    UInt8.ofNat (mark (following character.toNat) +
        character.toNat / 64 ^ following character.toNat) ::
      tails character.toNat (following character.toNat) := by
  have small : character.toNat < 1114112 := by
    rcases character.valid with small | ⟨_, small⟩
    · exact Nat.lt_trans small (by decide)
    · exact small
  have value : character.val.toNat = character.toNat := rfl
  rw [encodeChar, String.utf8EncodeChar, value, following]
  split_ifs with one two three
  · simp [mark, tails]
  · simp only [mark, tails, Nat.pow_zero, Nat.pow_one, Nat.div_one]
    rw [Nat.add_comm 192, Nat.mod_eq_of_lt (by omega : character.toNat / 64 < 32)]
  · simp only [mark, tails, Nat.pow_zero, Nat.pow_one, Nat.div_one, Nat.reducePow]
    rw [Nat.add_comm 224, Nat.mod_eq_of_lt (by omega : character.toNat / 4096 < 16)]
  · simp only [mark, tails, Nat.pow_zero, Nat.pow_one, Nat.div_one, Nat.reducePow]
    rw [Nat.add_comm 240, Nat.mod_eq_of_lt (by omega : character.toNat / 262144 < 8)]

/-- The first bytes in which two characters differ decide, whatever comes after them. -/
theorem encodeChar_precedes {first second : Char} (less : first < second) (rest others : Bytes) :
    Precedes (encodeChar first ++ rest) (encodeChar second ++ others) := by
  have values : first.toNat < second.toNat := less
  have small : second.toNat < 1114112 := by
    rcases second.valid with small | ⟨_, small⟩
    · exact Nat.lt_trans small (by decide)
    · exact small
  have fits : ∀ value ≤ second.toNat, mark (following value) + value / 64 ^ following value < 256 := by
    intro value bound
    rw [following]
    split_ifs <;> simp only [mark, Nat.reducePow] <;> omega
  rw [encodeChar_eq, encodeChar_eq]
  by_cases same : following first.toNat = following second.toNat
  · rw [same]
    exact form_precedes values (fits _ le_rfl) rest others
  · rw [List.cons_append, List.cons_append, precedes_ofNat_iff (fits _ values.le) (fits _ le_rfl)]
    refine Or.inl ?_
    rw [following, following] at same ⊢
    split_ifs at same ⊢ <;> simp only [mark, Nat.reducePow] <;> omega

theorem precedes_append_iff (shared rest others : Bytes) :
    Precedes (shared ++ rest) (shared ++ others) ↔ Precedes rest others := by
  induction shared with
  | nil => rfl
  | cons byte shared ih => simp [precedes_cons_iff, ih]

theorem encode_precedes : ∀ {first second : List Char}, first < second →
    Precedes (encode first) (encode second) := by
  intro first
  induction first with
  | nil =>
      intro second less
      cases second with
      | nil => exact absurd less (List.lt_irrefl _)
      | cons character rest =>
          obtain ⟨byte, more, shape⟩ :=
            List.exists_cons_of_ne_nil (encodeChar_ne_nil character)
          rw [encode, encode, List.flatMap_cons, shape]
          rfl
  | cons character rest ih =>
      intro second less
      cases second with
      | nil => exact absurd less (List.not_lt_nil _)
      | cons other others =>
          rw [encode, encode, List.flatMap_cons, List.flatMap_cons]
          rcases List.cons_lt_cons_iff.mp less with before | ⟨rfl, after⟩
          · exact encodeChar_precedes before _ _
          · rw [precedes_append_iff]
            exact ih after

end Utf8

/-- The order of texts is the order of their bytes. -/
theorem Bytes.ofString_precedes_iff (first second : String) :
    Precedes (Bytes.ofString first) (Bytes.ofString second) ↔ first < second := by
  have forward : ∀ {first second : String}, first < second →
      Precedes (Bytes.ofString first) (Bytes.ofString second) :=
    fun less => Utf8.encode_precedes less
  refine ⟨fun before => Classical.byContradiction fun notLess => ?_, forward⟩
  by_cases greater : second < first
  · exact precedes_irrefl _ (precedes_trans before (forward greater))
  · obtain rfl : first = second := String.le_antisymm greater notLess
    exact precedes_irrefl _ before

end TemplateBuild

import TemplateBuild.Encoding.Encode
import TemplateBuild.Proofs.Text.Canonical

/-!
# Bytes of texts

Bytes below 128 stand for themselves.  A text without a certain such character has bytes
without it, and bytes without it are never read as a text with it.
-/

set_option autoImplicit false

namespace TemplateBuild

namespace Utf8

/-! ## Writing -/

/-- Longer forms are made of bytes from 128 on. -/
theorem mem_encodeChar_iff {byte : UInt8} (low : byte.toNat < 128) (character : Char) :
    byte ∈ encodeChar character ↔ character.toNat = byte.toNat := by
  have value : character.toNat = character.val.toNat := rfl
  have small : character.val.toNat < 1114112 := by
    rcases character.valid with small | ⟨_, small⟩
    · exact Nat.lt_trans small (by decide)
    · exact small
  rw [encodeChar, String.utf8EncodeChar, value]
  split
  · rw [List.mem_singleton, ← UInt8.toNat_inj, UInt8.toNat_ofNat']
    omega
  · split
    · simp only [List.mem_cons, List.not_mem_nil, or_false, ← UInt8.toNat_inj,
        UInt8.toNat_ofNat']
      omega
    · split
      · simp only [List.mem_cons, List.not_mem_nil, or_false, ← UInt8.toNat_inj,
          UInt8.toNat_ofNat']
        omega
      · simp only [List.mem_cons, List.not_mem_nil, or_false, ← UInt8.toNat_inj,
          UInt8.toNat_ofNat']
        omega

theorem encodeChar_ne_nil (character : Char) : encodeChar character ≠ [] := by
  rw [encodeChar, String.utf8EncodeChar]
  split
  · simp
  · split
    · simp
    · split <;> simp

/-! ## Reading -/

theorem encodeChar_of_start {byte : UInt8} {character : Char}
    (started : start byte = .character character) : encodeChar character = [byte] := by
  obtain ⟨one, rfl⟩ := start_character_code started
  rw [encodeChar_one one, UInt8.ofNat_toNat]

/-- A character that is read is written with bytes that were there. -/
theorem encodeChar_of_mem_piecesFrom {seen : Bytes} {pending : Option Pending} {bytes : Bytes}
    {character : Char} : (∀ opened, pending = some opened → Begun seen opened) →
      Piece.character character ∈ piecesFrom seen pending bytes →
      encodeChar character ⊆ seen ++ bytes := by
  have closed : ∀ opened, (none : Option Pending) = some opened → Begun [] opened :=
    fun _ same => by cases same
  have passed : ∀ {front : Bytes} (byte : UInt8) {rest : Bytes},
      encodeChar character ⊆ [] ++ rest → encodeChar character ⊆ front ++ byte :: rest :=
    fun _ _ inside _ isIn => List.mem_append_right _ (List.mem_cons_of_mem _ (inside isIn))
  fun_induction piecesFrom seen pending bytes with
  | case1 => intro _ member; cases member
  | case2 => intro _ member; simp at member
  | case3 seen byte rest read started ih =>
      intro _ member
      rcases List.mem_cons.mp member with same | later
      · cases same
        rw [encodeChar_of_start started]
        simp
      · exact passed byte (ih closed later)
  | case4 seen byte rest opened started ih =>
      intro _ member
      have inside := ih (fun _ same => by cases same; exact .first started) member
      exact fun other isIn => List.mem_append_right _ (inside isIn)
  | case5 seen byte rest _ ih =>
      intro _ member
      rcases List.mem_cons.mp member with same | later
      · cases same
      · exact passed byte (ih closed later)
  | case6 seen pending byte rest read extended ih =>
      intro begun member
      rcases List.mem_cons.mp member with same | later
      · cases same
        rw [encodeChar_of_begun (begun _ rfl) extended]
        simp
      · exact passed byte (ih closed later)
  | case7 seen pending byte rest opened extended ih =>
      intro begun member
      have inside := ih (fun _ same => by cases same; exact (begun _ rfl).next extended) member
      rwa [List.append_assoc] at inside
  | case8 seen pending byte rest _ read started ih =>
      intro _ member
      rcases List.mem_cons.mp member with same | others
      · cases same
      · rcases List.mem_cons.mp others with same | later
        · cases same
          rw [encodeChar_of_start started]
          simp
        · exact passed byte (ih closed later)
  | case9 seen pending byte rest _ opened started ih =>
      intro _ member
      rcases List.mem_cons.mp member with same | later
      · cases same
      · have inside := ih (fun _ same => by cases same; exact .first started) later
        exact fun other isIn => List.mem_append_right _ (inside isIn)
  | case10 seen pending byte rest _ _ ih =>
      intro _ member
      rcases List.mem_cons.mp member with same | others
      · cases same
      · rcases List.mem_cons.mp others with same | later
        · cases same
        · exact passed byte (ih closed later)

/-- Bytes without a byte below 128 are not read as a text with its character. -/
theorem notMem_decodeLossy {byte : UInt8} (low : byte.toNat < 128) {bytes : Bytes}
    (absent : byte ∉ bytes) {character : Char} (same : character.toNat = byte.toNat) :
    character ∉ decodeLossy bytes := by
  intro member
  obtain ⟨piece, isPiece, read⟩ := List.mem_map.mp member
  cases piece with
  | character other =>
      simp only at read
      subst read
      have inside := encodeChar_of_mem_piecesFrom (fun _ same => by cases same) isPiece
      exact absent (inside ((mem_encodeChar_iff low other).mpr same))
  | broken broken =>
      simp only [replacement] at read
      subst read
      have large : Char.toNat '\uFFFD' = 0xFFFD := rfl
      omega

end Utf8

namespace Bytes

theorem mem_ofString_iff {byte : UInt8} (low : byte.toNat < 128) (text : String) :
    byte ∈ ofString text ↔ ∃ character ∈ text.toList, character.toNat = byte.toNat := by
  simp only [ofString, Utf8.encode, List.mem_flatMap, Utf8.mem_encodeChar_iff low]

theorem ofString_append (first second : String) :
    ofString (first ++ second) = ofString first ++ ofString second := by
  simp [ofString, Utf8.encode]

theorem ofString_eq_nil_iff (text : String) : ofString text = [] ↔ text = "" := by
  rw [ofString, Utf8.encode, List.flatMap_eq_nil_iff]
  constructor
  · intro none
    rw [← String.toList_eq_nil_iff, List.eq_nil_iff_forall_not_mem]
    exact fun character member => Utf8.encodeChar_ne_nil character (none character member)
  · rintro rfl
    simp

theorem ofString_injective {first second : String} (same : ofString first = ofString second) :
    first = second := by
  have encoded : first.toList.utf8Encode = second.toList.utf8Encode := by
    rw [List.utf8Encode, List.utf8Encode]
    exact congrArg List.toByteArray same
  rw [← String.ofList_toList (s := first), ← String.ofList_toList (s := second),
    ← String.toByteArray_inj]
  simpa using encoded

theorem notMem_toStringLossy {byte : UInt8} (low : byte.toNat < 128) {bytes : Bytes}
    (absent : byte ∉ bytes) {character : Char} (same : character.toNat = byte.toNat) :
    character ∉ bytes.toStringLossy.toList := by
  rw [toStringLossy, String.toList_ofList]
  exact Utf8.notMem_decodeLossy low absent same

/-- A file name read as text has no slash. -/
theorem slash_notMem_toStringLossy {bytes : Bytes} (slashless : (0x2F : UInt8) ∉ bytes) :
    '/' ∉ bytes.toStringLossy.toList :=
  notMem_toStringLossy (by decide) slashless rfl

end Bytes

/-- Every text can be written as UTF-8. -/
theorem Encoding.encode_utf8 (text : List Char) :
    Encoding.utf8.encode text = some (text.flatMap Utf8.encodeChar) := by
  have each : text.mapM Encoding.utf8.encodeChar? = some (text.map Utf8.encodeChar) := by
    induction text with
    | nil => rfl
    | cons character rest ih =>
        rw [List.mapM_cons, ih]
        rfl
  have shape : Encoding.utf8.encode text =
      (text.mapM Encoding.utf8.encodeChar?).map List.flatten := rfl
  rw [shape, each]
  rfl

end TemplateBuild

import TemplateBuild.Text.Utf8

/-!
# UTF-8 is read as it was written

The first byte of a character tells how many follow, and the ranges for the second byte leave room
for every character.  The sequence of a character is therefore read as that character, whatever
follows it.
-/

set_option autoImplicit false

namespace TemplateBuild

namespace Utf8

/-! ## Single bytes -/

theorem start_of_one {byte : UInt8} {value : Nat} (known : byte.toNat = value)
    (below : value < 0x80) : start byte = .character (Char.ofNat value) := by
  simp only [start, known, if_pos below]

theorem start_of_two {byte : UInt8} {value : Nat} (known : byte.toNat = value)
    (least : 0xC2 ≤ value) (below : value < 0xE0) :
    start byte = .opened ⟨1, 1, value - 0xC0, 0x80, 0xBF⟩ := by
  have notOne : ¬ value < 0x80 := by omega
  have notNone : ¬ value < 0xC2 := by omega
  simp only [start, known, if_neg notOne, if_neg notNone, if_pos below]

theorem start_of_three {byte : UInt8} {value : Nat} (known : byte.toNat = value)
    (least : 0xE0 ≤ value) (below : value < 0xF0) :
    start byte = .opened ⟨1, 2, value - 0xE0, if value = 0xE0 then 0xA0 else 0x80,
      if value = 0xED then 0x9F else 0xBF⟩ := by
  have notOne : ¬ value < 0x80 := by omega
  have notNone : ¬ value < 0xC2 := by omega
  have notTwo : ¬ value < 0xE0 := by omega
  simp only [start, known, if_neg notOne, if_neg notNone, if_neg notTwo, if_pos below]

theorem start_of_four {byte : UInt8} {value : Nat} (known : byte.toNat = value)
    (least : 0xF0 ≤ value) (below : value < 0xF5) :
    start byte = .opened ⟨1, 3, value - 0xF0, if value = 0xF0 then 0x90 else 0x80,
      if value = 0xF4 then 0x8F else 0xBF⟩ := by
  have notOne : ¬ value < 0x80 := by omega
  have notNone : ¬ value < 0xC2 := by omega
  have notTwo : ¬ value < 0xE0 := by omega
  have notThree : ¬ value < 0xF0 := by omega
  simp only [start, known, if_neg notOne, if_neg notNone, if_neg notTwo, if_neg notThree,
    if_pos below]

theorem extend_of_last {seen bits : Nat} {lowest highest byte : UInt8} (within : lowest ≤ byte)
    (notBeyond : byte ≤ highest) :
    extend ⟨seen, 1, bits, lowest, highest⟩ byte =
      .character (Char.ofNat (bits * 64 + (byte.toNat - 0x80))) := by
  rw [extend, if_pos ⟨within, notBeyond⟩, if_pos (Nat.le_refl 1)]

theorem extend_of_more {seen missing bits : Nat} {lowest highest byte : UInt8}
    (within : lowest ≤ byte) (notBeyond : byte ≤ highest) (more : 1 < missing) :
    extend ⟨seen, missing, bits, lowest, highest⟩ byte =
      .opened ⟨seen + 1, missing - 1, bits * 64 + (byte.toNat - 0x80), 0x80, 0xBF⟩ := by
  rw [extend, if_pos ⟨within, notBeyond⟩, if_neg (Nat.not_le_of_lt more)]

theorem toNat_of_lt {value : Nat} (small : value < 256) : (UInt8.ofNat value).toNat = value := by
  rw [UInt8.toNat_ofNat', Nat.mod_eq_of_lt small]

/-- The range of a byte that goes on with a sequence. -/
theorem tail_range (value : Nat) : (0x80 : UInt8) ≤ UInt8.ofNat (value % 64 + 128) ∧
    UInt8.ofNat (value % 64 + 128) ≤ 0xBF := by
  rw [UInt8.le_iff_toNat_le, UInt8.le_iff_toNat_le, toNat_of_lt (by omega)]
  simp only [UInt8.reduceToNat]
  omega

/-! ## Single characters -/

theorem decodeFrom_opened {byte : UInt8} {pending : Pending}
    (started : start byte = .opened pending) (offset : Nat) (rest : Bytes) :
    decodeFrom offset none (byte :: rest) = decodeFrom offset (some pending) rest := by
  rw [decodeFrom, started]

theorem decodeFrom_more {pending next : Pending} {byte : UInt8}
    (extended : extend pending byte = .opened next) (offset : Nat) (rest : Bytes) :
    decodeFrom offset (some pending) (byte :: rest) = decodeFrom offset (some next) rest := by
  rw [decodeFrom, extended]

theorem decodeFrom_last {pending : Pending} {byte : UInt8} {character : Char}
    (extended : extend pending byte = .character character) (offset : Nat) (rest : Bytes) :
    decodeFrom offset (some pending) (byte :: rest) =
      (decodeFrom (offset + pending.seen + 1) none rest).map (character :: ·) := by
  rw [decodeFrom, extended]

theorem decodeFrom_two {code : Nat} (least : 0x80 ≤ code) (below : code < 0x800) (offset : Nat)
    (rest : Bytes) :
    decodeFrom offset none
        (UInt8.ofNat (code / 64 % 32 + 192) :: UInt8.ofNat (code % 64 + 128) :: rest) =
      (decodeFrom (offset + 2) none rest).map (Char.ofNat code :: ·) := by
  have lead : (UInt8.ofNat (code / 64 % 32 + 192)).toNat = code / 64 % 32 + 192 :=
    toNat_of_lt (by omega)
  have tail := tail_range code
  have whole : (code / 64 % 32 + 192 - 0xC0) * 64 + (code % 64 + 128 - 0x80) = code := by omega
  rw [decodeFrom_opened (start_of_two lead (by omega) (by omega)),
    decodeFrom_last (extend_of_last tail.1 tail.2), toNat_of_lt (by omega), whole]

theorem decodeFrom_three {code : Nat} (least : 0x800 ≤ code) (below : code < 0x10000)
    (noSurrogate : code < 0xD800 ∨ 0xDFFF < code) (offset : Nat) (rest : Bytes) :
    decodeFrom offset none
        (UInt8.ofNat (code / 4096 % 16 + 224) :: UInt8.ofNat (code / 64 % 64 + 128) ::
          UInt8.ofNat (code % 64 + 128) :: rest) =
      (decodeFrom (offset + 3) none rest).map (Char.ofNat code :: ·) := by
  have lead : (UInt8.ofNat (code / 4096 % 16 + 224)).toNat = code / 4096 % 16 + 224 :=
    toNat_of_lt (by omega)
  have second : (UInt8.ofNat (code / 64 % 64 + 128)).toNat = code / 64 % 64 + 128 :=
    toNat_of_lt (by omega)
  -- The second byte keeps clear of overlong forms and of surrogates.
  have lowest : (if code / 4096 % 16 + 224 = 0xE0 then 0xA0 else 0x80 : UInt8) ≤
      UInt8.ofNat (code / 64 % 64 + 128) := by
    rw [UInt8.le_iff_toNat_le, second]
    split <;> simp only [UInt8.reduceToNat] <;> omega
  have highest : UInt8.ofNat (code / 64 % 64 + 128) ≤
      (if code / 4096 % 16 + 224 = 0xED then 0x9F else 0xBF : UInt8) := by
    rw [UInt8.le_iff_toNat_le, second]
    split <;> simp only [UInt8.reduceToNat] <;> omega
  have tail := tail_range code
  have whole : ((code / 4096 % 16 + 224 - 0xE0) * 64 + (code / 64 % 64 + 128 - 0x80)) * 64 +
      (code % 64 + 128 - 0x80) = code := by
    omega
  rw [decodeFrom_opened (start_of_three lead (by omega) (by omega)),
    decodeFrom_more (extend_of_more lowest highest (by decide)),
    decodeFrom_last (extend_of_last tail.1 tail.2), second, toNat_of_lt (by omega), whole]

theorem decodeFrom_four {code : Nat} (least : 0x10000 ≤ code) (below : code < 0x110000)
    (offset : Nat) (rest : Bytes) :
    decodeFrom offset none
        (UInt8.ofNat (code / 262144 % 8 + 240) :: UInt8.ofNat (code / 4096 % 64 + 128) ::
          UInt8.ofNat (code / 64 % 64 + 128) :: UInt8.ofNat (code % 64 + 128) :: rest) =
      (decodeFrom (offset + 4) none rest).map (Char.ofNat code :: ·) := by
  have lead : (UInt8.ofNat (code / 262144 % 8 + 240)).toNat = code / 262144 % 8 + 240 :=
    toNat_of_lt (by omega)
  have second : (UInt8.ofNat (code / 4096 % 64 + 128)).toNat = code / 4096 % 64 + 128 :=
    toNat_of_lt (by omega)
  have third : (UInt8.ofNat (code / 64 % 64 + 128)).toNat = code / 64 % 64 + 128 :=
    toNat_of_lt (by omega)
  have lowest : (if code / 262144 % 8 + 240 = 0xF0 then 0x90 else 0x80 : UInt8) ≤
      UInt8.ofNat (code / 4096 % 64 + 128) := by
    rw [UInt8.le_iff_toNat_le, second]
    split <;> simp only [UInt8.reduceToNat] <;> omega
  have highest : UInt8.ofNat (code / 4096 % 64 + 128) ≤
      (if code / 262144 % 8 + 240 = 0xF4 then 0x8F else 0xBF : UInt8) := by
    rw [UInt8.le_iff_toNat_le, second]
    split <;> simp only [UInt8.reduceToNat] <;> omega
  have middle := tail_range (code / 64)
  have tail := tail_range code
  have whole : (((code / 262144 % 8 + 240 - 0xF0) * 64 + (code / 4096 % 64 + 128 - 0x80)) * 64 +
      (code / 64 % 64 + 128 - 0x80)) * 64 + (code % 64 + 128 - 0x80) = code := by
    omega
  rw [decodeFrom_opened (start_of_four lead (by omega) (by omega)),
    decodeFrom_more (extend_of_more lowest highest (by decide)),
    decodeFrom_more (extend_of_more middle.1 middle.2 (by decide)),
    decodeFrom_last (extend_of_last tail.1 tail.2), second, third, toNat_of_lt (by omega),
    whole]

theorem decodeFrom_encodeChar (offset : Nat) (character : Char) (rest : Bytes) :
    decodeFrom offset none (encodeChar character ++ rest) =
      (decodeFrom (offset + (encodeChar character).length) none rest).map (character :: ·) := by
  have code : character.val.toNat = character.toNat := rfl
  have same : Char.ofNat character.toNat = character := Char.ofNat_toNat character
  have bounds : character.toNat < 0xD800 ∨
      (0xDFFF < character.toNat ∧ character.toNat < 0x110000) := character.valid
  rw [encodeChar, String.utf8EncodeChar]
  simp only [code]
  split
  · next one =>
    rw [List.singleton_append, decodeFrom,
      start_of_one (toNat_of_lt (Nat.lt_of_le_of_lt one (by decide))) (by omega), same]
    rfl
  · next notOne =>
    split
    · next two =>
      rw [List.cons_append, List.singleton_append, decodeFrom_two (by omega) (by omega), same]
      rfl
    · next notTwo =>
      split
      · next three =>
        rw [List.cons_append, List.cons_append, List.singleton_append,
          decodeFrom_three (by omega) (by omega) (by omega), same]
        rfl
      · next notThree =>
        rw [List.cons_append, List.cons_append, List.cons_append, List.singleton_append,
          decodeFrom_four (by omega) (by omega), same]
        rfl

/-! ## Whole texts -/

theorem decodeFrom_encode (text : List Char) (offset : Nat) :
    decodeFrom offset none (encode text) = .ok text := by
  induction text generalizing offset with
  | nil => rfl
  | cons character rest ih =>
      rw [encode, List.flatMap_cons, decodeFrom_encodeChar, ← encode, ih]
      rfl

theorem decode_encode (text : List Char) : decode (encode text) = .ok text :=
  decodeFrom_encode text 0

theorem eq_ok_of_map {result : Except Fault (List Char)} {character : Char} {text : List Char}
    (read : result.map (character :: ·) = .ok text) :
    ∃ others, result = .ok others ∧ text = character :: others := by
  cases result with
  | error fault => cases read
  | ok others =>
      cases read
      exact ⟨others, rfl, rfl⟩

/-- Where there is no fault, no piece is broken. -/
theorem piecesFrom_of_decodeFrom {offset : Nat} {pending : Option Pending} {bytes : Bytes} :
    ∀ {text : List Char}, decodeFrom offset pending bytes = .ok text →
      ∀ seen, piecesFrom seen pending bytes = text.map .character := by
  fun_induction decodeFrom offset pending bytes with
  | case1 =>
      intro text decoded seen
      cases decoded
      rw [piecesFrom]
      rfl
  | case3 offset byte rest character started ih =>
      intro text decoded seen
      obtain ⟨others, read, rfl⟩ := eq_ok_of_map decoded
      rw [piecesFrom, started, List.map_cons, ← ih read []]
  | case4 offset byte rest pending started ih =>
      intro text decoded seen
      rw [piecesFrom, started]
      exact ih decoded [byte]
  | case6 offset pending byte rest character extended ih =>
      intro text decoded seen
      obtain ⟨others, read, rfl⟩ := eq_ok_of_map decoded
      rw [piecesFrom, extended, List.map_cons, ← ih read []]
  | case7 offset pending byte rest next extended ih =>
      intro text decoded seen
      rw [piecesFrom, extended]
      exact ih decoded (seen ++ [byte])
  | case2 | case5 | case8 =>
      intro text decoded
      cases decoded

theorem decodeLossy_encode (text : List Char) : decodeLossy (encode text) = text := by
  rw [decodeLossy, pieces, piecesFrom_of_decodeFrom (decode_encode text) [], List.map_map]
  exact List.map_id text

end Utf8

theorem Bytes.toStringLossy_ofString (text : String) : (ofString text).toStringLossy = text := by
  rw [toStringLossy, ofString, Utf8.decodeLossy_encode, String.ofList_toList]

end TemplateBuild

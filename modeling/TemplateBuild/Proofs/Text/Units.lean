import TemplateBuild.Text.Units

/-!
# Characters and their units

A character is one unit that is no surrogate, or a high surrogate and a low one.  Units that were
written from characters are therefore read as these characters, whatever follows them.
-/

set_option autoImplicit false

namespace TemplateBuild.Units

theorem isHigh_iff (unit : UInt16) :
    isHigh unit = true ↔ 0xD800 ≤ unit.toNat ∧ unit.toNat ≤ 0xDBFF := by
  rw [isHigh, Bool.and_eq_true, decide_eq_true_eq, decide_eq_true_eq, UInt16.le_iff_toNat_le,
    UInt16.le_iff_toNat_le]
  rfl

theorem isLow_iff (unit : UInt16) :
    isLow unit = true ↔ 0xDC00 ≤ unit.toNat ∧ unit.toNat ≤ 0xDFFF := by
  rw [isLow, Bool.and_eq_true, decide_eq_true_eq, decide_eq_true_eq, UInt16.le_iff_toNat_le,
    UInt16.le_iff_toNat_le]
  rfl

/-! ## Single characters -/

theorem codes_cons_of_not_high {unit : UInt16} (single : isHigh unit = false)
    (rest : List UInt16) : codes (unit :: rest) = unit.toNat :: codes rest := by
  cases rest with
  | nil => rfl
  | cons next rest =>
      rw [codes, single, Bool.false_and, if_neg Bool.false_ne_true]

theorem codes_pair {high low : UInt16} (isHighUnit : isHigh high = true)
    (isLowUnit : isLow low = true) (rest : List UInt16) :
    codes (high :: low :: rest) =
      (0x10000 + (high.toNat - 0xD800) * 0x400 + (low.toNat - 0xDC00)) :: codes rest := by
  rw [codes, isHighUnit, isLowUnit, Bool.and_self, if_pos rfl]

theorem toNat_bounds (character : Char) : character.toNat < 0xD800 ∨
    (0xDFFF < character.toNat ∧ character.toNat < 0x110000) :=
  character.valid

theorem codes_ofCode (character : Char) (rest : List UInt16) :
    codes (ofCode character.toNat ++ rest) = character.toNat :: codes rest := by
  have bounds := toNat_bounds character
  rw [ofCode]
  split
  · next single =>
    have kept : (UInt16.ofNat character.toNat).toNat = character.toNat :=
      UInt16.toNat_ofNat_of_lt single
    have notHigh : isHigh (UInt16.ofNat character.toNat) = false := by
      rw [← Bool.not_eq_true, isHigh_iff, kept]
      omega
    rw [List.singleton_append, codes_cons_of_not_high notHigh, kept]
  · next paired =>
    have high : (UInt16.ofNat (0xD800 + (character.toNat - 0x10000) / 0x400)).toNat =
        0xD800 + (character.toNat - 0x10000) / 0x400 := by
      rw [UInt16.toNat_ofNat']
      omega
    have low : (UInt16.ofNat (0xDC00 + (character.toNat - 0x10000) % 0x400)).toNat =
        0xDC00 + (character.toNat - 0x10000) % 0x400 := by
      rw [UInt16.toNat_ofNat']
      omega
    have isHighUnit := (isHigh_iff (.ofNat (0xD800 + (character.toNat - 0x10000) / 0x400))).mpr
      (by rw [high]; omega)
    have isLowUnit := (isLow_iff (.ofNat (0xDC00 + (character.toNat - 0x10000) % 0x400))).mpr
      (by rw [low]; omega)
    have whole : 0x10000 + (0xD800 + (character.toNat - 0x10000) / 0x400 - 0xD800) * 0x400 +
        (0xDC00 + (character.toNat - 0x10000) % 0x400 - 0xDC00) = character.toNat := by
      omega
    rw [List.cons_append, List.singleton_append, codes_pair isHighUnit isLowUnit, high, low, whole]

theorem isSurrogate_toNat (character : Char) : isSurrogate character.toNat = false := by
  have bounds := toNat_bounds character
  rw [isSurrogate, Bool.and_eq_false_iff, decide_eq_false_iff_not, decide_eq_false_iff_not]
  omega

/-! ## Whole texts -/

theorem toList_ofChars (text : List Char) :
    (ofChars text).toList = text.flatMap fun character => ofCode character.toNat :=
  rfl

theorem codes_flatMap_ofCode (text : List Char) :
    codes (text.flatMap fun character => ofCode character.toNat) = text.map Char.toNat := by
  induction text with
  | nil => rfl
  | cons character rest ih => rw [List.flatMap_cons, codes_ofCode, ih, List.map_cons]

theorem toChars_ofChars (text : List Char) : (ofChars text).toChars = text := by
  rw [toChars, toList_ofChars, codes_flatMap_ofCode, List.flatMap_map]
  have each : ∀ character : Char, (if isSurrogate character.toNat then escape character.toNat
      else [Char.ofNat character.toNat]) = [character] := by
    intro character
    rw [isSurrogate_toNat, if_neg Bool.false_ne_true, Char.ofNat_toNat]
  simp only [each, List.flatMap_singleton']

theorem ofChars_injective {first second : List Char} (same : ofChars first = ofChars second) :
    first = second := by
  rw [← toChars_ofChars first, same, toChars_ofChars]

theorem ofString_injective {first second : String} (same : ofString first = ofString second) :
    first = second :=
  String.toList_inj.mp (ofChars_injective same)

end TemplateBuild.Units

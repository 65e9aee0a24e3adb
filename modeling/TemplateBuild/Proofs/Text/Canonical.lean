import TemplateBuild.Proofs.Text.Utf8

/-!
# Texts have one spelling

The ranges for the second byte leave out what a shorter sequence could spell, so the only bytes
that are read as a text are those that it is written with.  Reading that replaces what is broken
differs from this only where it puts U+FFFD.
-/

set_option autoImplicit false

namespace TemplateBuild

namespace Utf8

/-! ## Single bytes -/

theorem start_opened {byte : UInt8} {pending : Pending} (started : start byte = .opened pending) :
    (0xC2 ≤ byte.toNat ∧ byte.toNat < 0xE0 ∧
      pending = ⟨1, 1, byte.toNat - 0xC0, 0x80, 0xBF⟩) ∨
    (0xE0 ≤ byte.toNat ∧ byte.toNat < 0xF0 ∧
      pending = ⟨1, 2, byte.toNat - 0xE0, if byte.toNat = 0xE0 then 0xA0 else 0x80,
        if byte.toNat = 0xED then 0x9F else 0xBF⟩) ∨
    (0xF0 ≤ byte.toNat ∧ byte.toNat < 0xF5 ∧
      pending = ⟨1, 3, byte.toNat - 0xF0, if byte.toNat = 0xF0 then 0x90 else 0x80,
        if byte.toNat = 0xF4 then 0x8F else 0xBF⟩) := by
  rcases Nat.lt_or_ge byte.toNat 0x80 with one | notOne
  · rw [start_of_one rfl one] at started
    cases started
  · rcases Nat.lt_or_ge byte.toNat 0xC2 with none | notNone
    · simp only [start, if_neg (Nat.not_lt_of_le notOne), if_pos none] at started
      cases started
    · rcases Nat.lt_or_ge byte.toNat 0xE0 with two | notTwo
      · rw [start_of_two rfl notNone two] at started
        cases started
        exact Or.inl ⟨notNone, two, rfl⟩
      · rcases Nat.lt_or_ge byte.toNat 0xF0 with three | notThree
        · rw [start_of_three rfl notTwo three] at started
          cases started
          exact Or.inr (Or.inl ⟨notTwo, three, rfl⟩)
        · rcases Nat.lt_or_ge byte.toNat 0xF5 with four | notFour
          · rw [start_of_four rfl notThree four] at started
            cases started
            exact Or.inr (Or.inr ⟨notThree, four, rfl⟩)
          · simp only [start, if_neg (Nat.not_lt_of_le notOne), if_neg (Nat.not_lt_of_le notNone),
              if_neg (Nat.not_lt_of_le notTwo), if_neg (Nat.not_lt_of_le notThree),
              if_neg (Nat.not_lt_of_le notFour)] at started
            cases started

theorem start_character_code {byte : UInt8} {character : Char}
    (started : start byte = .character character) :
    byte.toNat < 0x80 ∧ character = Char.ofNat byte.toNat := by
  rcases Nat.lt_or_ge byte.toNat 0x80 with one | notOne
  · rw [start_of_one rfl one] at started
    cases started
    exact ⟨one, rfl⟩
  · simp only [start, if_neg (Nat.not_lt_of_le notOne)] at started
    repeat' split at started
    all_goals cases started

theorem extend_opened {pending next : Pending} {byte : UInt8}
    (extended : extend pending byte = .opened next) :
    pending.lowest.toNat ≤ byte.toNat ∧ byte.toNat ≤ pending.highest.toNat ∧ 1 < pending.missing ∧
      next = ⟨pending.seen + 1, pending.missing - 1, pending.bits * 64 + (byte.toNat - 0x80),
        0x80, 0xBF⟩ := by
  rw [extend] at extended
  split at extended
  · next within =>
      split at extended
      · cases extended
      · next more =>
          cases extended
          exact ⟨within.1, within.2, Nat.lt_of_not_le more, rfl⟩
  · cases extended

theorem extend_last {pending : Pending} {byte : UInt8} {character : Char}
    (extended : extend pending byte = .character character) :
    pending.lowest.toNat ≤ byte.toNat ∧ byte.toNat ≤ pending.highest.toNat ∧ pending.missing ≤ 1 ∧
      character = Char.ofNat (pending.bits * 64 + (byte.toNat - 0x80)) := by
  rw [extend] at extended
  split at extended
  · next within =>
      split at extended
      · next last =>
          rw [Continued.character.injEq] at extended
          exact ⟨within.1, within.2, last, extended.symm⟩
      · cases extended
  · cases extended

/-! ## Single characters -/

theorem toNat_ofNat_of_valid {code : Nat} (valid : code.isValidChar) :
    (Char.ofNat code).val.toNat = code := by
  rw [Char.ofNat, dif_pos valid]
  rfl

theorem encodeChar_one {code : Nat} (below : code < 0x80) :
    encodeChar (Char.ofNat code) = [UInt8.ofNat code] := by
  rw [encodeChar, String.utf8EncodeChar, toNat_ofNat_of_valid (Or.inl (by omega)),
    if_pos (by omega)]

theorem encodeChar_two {code : Nat} (least : 0x80 ≤ code) (below : code < 0x800) :
    encodeChar (Char.ofNat code) =
      [UInt8.ofNat (code / 64 % 32 + 192), UInt8.ofNat (code % 64 + 128)] := by
  rw [encodeChar, String.utf8EncodeChar, toNat_ofNat_of_valid (Or.inl (by omega)),
    if_neg (by omega), if_pos (by omega)]

theorem encodeChar_three {code : Nat} (least : 0x800 ≤ code) (below : code < 0x10000)
    (noSurrogate : code < 0xD800 ∨ 0xDFFF < code) :
    encodeChar (Char.ofNat code) = [UInt8.ofNat (code / 4096 % 16 + 224),
      UInt8.ofNat (code / 64 % 64 + 128), UInt8.ofNat (code % 64 + 128)] := by
  rw [encodeChar, String.utf8EncodeChar,
    toNat_ofNat_of_valid (noSurrogate.imp id fun above => ⟨above, by omega⟩),
    if_neg (by omega), if_neg (by omega), if_pos (by omega)]

theorem encodeChar_four {code : Nat} (least : 0x10000 ≤ code) (below : code < 0x110000) :
    encodeChar (Char.ofNat code) = [UInt8.ofNat (code / 262144 % 8 + 240),
      UInt8.ofNat (code / 4096 % 64 + 128), UInt8.ofNat (code / 64 % 64 + 128),
      UInt8.ofNat (code % 64 + 128)] := by
  rw [encodeChar, String.utf8EncodeChar, toNat_ofNat_of_valid (Or.inr ⟨by omega, below⟩),
    if_neg (by omega), if_neg (by omega), if_neg (by omega)]

theorem ofNat_eq (byte : UInt8) {value : Nat} (same : value = byte.toNat) :
    UInt8.ofNat value = byte := by
  rw [same, UInt8.ofNat_toNat]

theorem encodeChar_of_second {lead byte : UInt8} {pending : Pending} {character : Char}
    (started : start lead = .opened pending)
    (extended : extend pending byte = .character character) :
    encodeChar character = [lead, byte] := by
  obtain ⟨lowest, highest, last, read⟩ := extend_last extended
  obtain ⟨least, below, rfl⟩ | ⟨_, _, rfl⟩ | ⟨_, _, rfl⟩ := start_opened started
  · simp only [UInt8.reduceToNat] at lowest highest read
    rw [read, encodeChar_two (by omega) (by omega), ofNat_eq lead (by omega),
      ofNat_eq byte (by omega)]
  · exact absurd last (Nat.not_succ_le_self 1)
  · exact absurd last (Nat.not_le_of_lt (Nat.lt_add_of_pos_right (Nat.two_pos)))

theorem encodeChar_of_third {lead second byte : UInt8} {pending next : Pending} {character : Char}
    (started : start lead = .opened pending) (more : extend pending second = .opened next)
    (extended : extend next byte = .character character) :
    encodeChar character = [lead, second, byte] := by
  obtain ⟨lowest, highest, last, read⟩ := extend_last extended
  obtain ⟨lowestSecond, highestSecond, several, rfl⟩ := extend_opened more
  obtain ⟨_, _, rfl⟩ | ⟨least, below, rfl⟩ | ⟨_, _, rfl⟩ := start_opened started
  · exact absurd several (Nat.lt_irrefl 1)
  · simp only [apply_ite UInt8.toNat, UInt8.reduceToNat]
      at lowest highest lowestSecond highestSecond read
    have tail : 0x80 ≤ second.toNat ∧ second.toNat ≤ 0xBF := by
      split at lowestSecond <;> split at highestSecond <;> omega
    have noOverlong : lead.toNat = 0xE0 → 0xA0 ≤ second.toNat := by
      intro least
      rwa [if_pos least] at lowestSecond
    have noSurrogate : lead.toNat = 0xED → second.toNat ≤ 0x9F := by
      intro surrogate
      rwa [if_pos surrogate] at highestSecond
    rw [read, encodeChar_three (by omega) (by omega) (by omega), ofNat_eq lead (by omega),
      ofNat_eq second (by omega), ofNat_eq byte (by omega)]
  · exact absurd last (Nat.not_succ_le_self 1)

theorem encodeChar_of_fourth {lead second third byte : UInt8} {pending next after : Pending}
    {character : Char} (started : start lead = .opened pending)
    (more : extend pending second = .opened next) (again : extend next third = .opened after)
    (extended : extend after byte = .character character) :
    encodeChar character = [lead, second, third, byte] := by
  obtain ⟨lowest, highest, last, read⟩ := extend_last extended
  obtain ⟨lowestThird, highestThird, several, rfl⟩ := extend_opened again
  obtain ⟨lowestSecond, highestSecond, _, rfl⟩ := extend_opened more
  obtain ⟨_, _, rfl⟩ | ⟨_, _, rfl⟩ | ⟨least, below, rfl⟩ := start_opened started
  · exact absurd several (Nat.not_lt_zero 1)
  · exact absurd several (Nat.lt_irrefl 1)
  · simp only [apply_ite UInt8.toNat, UInt8.reduceToNat]
      at lowest highest lowestSecond highestSecond lowestThird highestThird read
    have tail : 0x80 ≤ second.toNat ∧ second.toNat ≤ 0xBF := by
      split at lowestSecond <;> split at highestSecond <;> omega
    have noOverlong : lead.toNat = 0xF0 → 0x90 ≤ second.toNat := by
      intro least
      rwa [if_pos least] at lowestSecond
    have notBeyond : lead.toNat = 0xF4 → second.toNat ≤ 0x8F := by
      intro greatest
      rwa [if_pos greatest] at highestSecond
    rw [read, encodeChar_four (by omega) (by omega), ofNat_eq lead (by omega),
      ofNat_eq second (by omega), ofNat_eq third (by omega),
      ofNat_eq byte (by omega)]

/-! ## Whole texts -/

/-- Bytes that open a sequence and do not complete it. -/
inductive Begun : Bytes → Pending → Prop where
  | first {byte : UInt8} {pending : Pending} (started : start byte = .opened pending) :
      Begun [byte] pending
  | next {seen : Bytes} {pending following : Pending} {byte : UInt8} (begun : Begun seen pending)
      (extended : extend pending byte = .opened following) : Begun (seen ++ [byte]) following

theorem Begun.missing {seen : Bytes} {pending : Pending} (begun : Begun seen pending) :
    seen.length + pending.missing ≤ 4 := by
  induction begun with
  | first started =>
      obtain ⟨_, _, rfl⟩ | ⟨_, _, rfl⟩ | ⟨_, _, rfl⟩ := start_opened started <;> simp
  | next begun extended ih =>
      obtain ⟨_, _, several, rfl⟩ := extend_opened extended
      rw [List.length_append, List.length_singleton]
      simp only
      omega

theorem Begun.length_pos {seen : Bytes} {pending : Pending} (begun : Begun seen pending) :
    0 < seen.length := by
  cases begun <;> simp

theorem encodeChar_of_begun {seen : Bytes} {pending : Pending} {byte : UInt8} {character : Char}
    (begun : Begun seen pending) (extended : extend pending byte = .character character) :
    encodeChar character = seen ++ [byte] := by
  cases begun with
  | first started => exact encodeChar_of_second started extended
  | next begun more =>
      cases begun with
      | first started => exact encodeChar_of_third started more extended
      | next begun earlier =>
          cases begun with
          | first started => exact encodeChar_of_fourth started earlier more extended
          | next begun earliest =>
              -- Four bytes would have been read, and one would still be missing.
              have room := ((begun.next earliest).next earlier).missing
              obtain ⟨_, _, several, _⟩ := extend_opened more
              have some := begun.length_pos
              simp only [List.length_append, List.length_singleton] at room
              omega

/-- What is read is spelled by the bytes that were read. -/
theorem encode_of_decodeFrom {offset : Nat} {pending : Option Pending} {bytes : Bytes} :
    ∀ {text : List Char}, decodeFrom offset pending bytes = .ok text →
      (pending = none → encode text = bytes) ∧
        ∀ opened seen, pending = some opened → Begun seen opened → encode text = seen ++ bytes := by
  fun_induction decodeFrom offset pending bytes with
  | case1 =>
      intro text decoded
      cases decoded
      refine ⟨fun _ => rfl, ?_⟩
      rintro _ _ ⟨⟩
  | case3 offset byte rest character started ih =>
      intro text decoded
      obtain ⟨others, read, rfl⟩ := eq_ok_of_map decoded
      obtain ⟨small, rfl⟩ := start_character_code started
      constructor
      · intro _
        rw [encode, List.flatMap_cons, ← encode, (ih read).1 rfl, encodeChar_one small,
          UInt8.ofNat_toNat]
        rfl
      · rintro _ _ ⟨⟩
  | case4 offset byte rest pending started ih =>
      intro text decoded
      refine ⟨fun _ => (ih decoded).2 pending [byte] rfl (.first started), ?_⟩
      rintro _ _ ⟨⟩
  | case6 offset pending byte rest character extended ih =>
      intro text decoded
      obtain ⟨others, read, rfl⟩ := eq_ok_of_map decoded
      refine ⟨by rintro ⟨⟩, ?_⟩
      rintro _ seen ⟨⟩ begun
      rw [encode, List.flatMap_cons, ← encode, (ih read).1 rfl, encodeChar_of_begun begun extended,
        List.append_assoc]
      rfl
  | case7 offset pending byte rest next extended ih =>
      intro text decoded
      refine ⟨by rintro ⟨⟩, ?_⟩
      rintro _ seen ⟨⟩ begun
      rw [(ih decoded).2 next _ rfl (begun.next extended), List.append_assoc]
      rfl
  | case2 | case5 | case8 =>
      intro text decoded
      cases decoded

/-- Only what a text is written with is read as that text. -/
theorem decode_eq_ok_iff {bytes : Bytes} {text : List Char} :
    decode bytes = .ok text ↔ bytes = encode text := by
  constructor
  · intro read
    exact ((encode_of_decodeFrom read).1 rfl).symm
  · rintro rfl
    exact decode_encode text

/-- Where no piece is broken, there is no fault. -/
theorem decodeFrom_of_piecesFrom {seen : Bytes} {pending : Option Pending} {bytes : Bytes} :
    (∀ broken, Piece.broken broken ∉ piecesFrom seen pending bytes) →
      ∀ offset, ∃ text, decodeFrom offset pending bytes = .ok text ∧
        piecesFrom seen pending bytes = text.map .character := by
  fun_induction piecesFrom seen pending bytes with
  | case1 =>
      intro whole offset
      exact ⟨[], rfl, rfl⟩
  | case3 seen byte rest character started ih =>
      intro whole offset
      obtain ⟨text, read, pieces⟩ :=
        ih (fun broken member => whole broken (List.mem_cons_of_mem _ member)) (offset + 1)
      refine ⟨character :: text, ?_, by rw [pieces, List.map_cons]⟩
      rw [decodeFrom, started, read]
      rfl
  | case4 seen byte rest pending started ih =>
      intro whole offset
      rw [decodeFrom_opened started]
      exact ih whole offset
  | case6 seen pending byte rest character extended ih =>
      intro whole offset
      obtain ⟨text, read, pieces⟩ :=
        ih (fun broken member => whole broken (List.mem_cons_of_mem _ member))
          (offset + pending.seen + 1)
      refine ⟨character :: text, ?_, by rw [pieces, List.map_cons]⟩
      rw [decodeFrom_last extended, read]
      rfl
  | case7 seen pending byte rest next extended ih =>
      intro whole offset
      rw [decodeFrom_more extended]
      exact ih whole offset
  | case2 | case5 | case8 | case9 | case10 =>
      intro whole
      exact absurd (List.mem_cons_self ..) (whole _)

theorem decode_of_decodeLossy {bytes : Bytes} (clean : replacement ∉ decodeLossy bytes) :
    decode bytes = .ok (decodeLossy bytes) := by
  have whole : ∀ broken, Piece.broken broken ∉ piecesFrom [] none bytes :=
    fun broken member => clean (List.mem_map.mpr ⟨.broken broken, member, rfl⟩)
  obtain ⟨text, read, pieces⟩ := decodeFrom_of_piecesFrom whole 0
  rw [decodeLossy, Utf8.pieces, pieces, List.map_map]
  exact read.trans (congrArg _ (List.map_id text).symm)

end Utf8

namespace Bytes

/-- Only the bytes of a string are read as that string. -/
theorem toString?_eq_some_iff {bytes : Bytes} {text : String} :
    bytes.toString? = some text ↔ bytes = ofString text := by
  rw [toString?, ofString, ← Utf8.decode_eq_ok_iff]
  cases read : Utf8.decode bytes with
  | error fault => simp
  | ok characters =>
      simp only [Option.some.injEq, Except.ok.injEq]
      constructor
      · rintro rfl
        exact String.toList_ofList.symm
      · rintro rfl
        exact String.ofList_toList

/-- Where nothing is replaced, the bytes are those of the string. -/
theorem eq_ofString_of_toStringLossy {bytes : Bytes} {text : String}
    (read : bytes.toStringLossy = text) (clean : Utf8.replacement ∉ text.toList) :
    bytes = ofString text := by
  subst read
  rw [toStringLossy, String.toList_ofList] at clean
  rw [← toString?_eq_some_iff, toString?, Utf8.decode_of_decodeLossy clean]
  rfl

end Bytes

end TemplateBuild

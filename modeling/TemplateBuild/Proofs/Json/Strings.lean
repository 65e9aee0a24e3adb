import Mathlib
import TemplateBuild.Json.Reader
import TemplateBuild.Proofs.Text.Bytes
import TemplateBuild.Proofs.Text.Canonical
import TemplateBuild.Proofs.Text.Units

/-!
# Strings of JSON

A string is passed over whatever it spells, and it may spell halves of surrogate pairs.  It is read
as a text if it spells characters, each of them in any of the ways in which it can be written.
-/

set_option autoImplicit false

namespace TemplateBuild.Json

/-! ## Escapes -/

inductive HexDigit : Nat → UInt8 → Prop
  | decimal {value : Nat} {byte : UInt8} : value < 10 → byte.toNat = 0x30 + value →
      HexDigit value byte
  | upper {value : Nat} {byte : UInt8} : 10 ≤ value → value < 16 → byte.toNat = 0x37 + value →
      HexDigit value byte
  | lower {value : Nat} {byte : UInt8} : 10 ≤ value → value < 16 → byte.toNat = 0x57 + value →
      HexDigit value byte

theorem HexDigit.value {value : Nat} {byte : UInt8} (digit : HexDigit value byte) :
    hexValue? byte = some value := by
  rw [hexValue?]
  cases digit with
  | decimal small code =>
      rw [if_pos (by omega), Option.some.injEq]
      omega
  | upper least small code =>
      rw [if_neg (by omega), if_pos (by omega), Option.some.injEq]
      omega
  | lower least small code =>
      rw [if_neg (by omega), if_neg (by omega), if_pos (by omega), Option.some.injEq]
      omega

/-- The four digits of a unit of sixteen bits. -/
inductive FourDigits : Nat → Bytes → Prop
  | mk {first second third fourth : Nat} {one two three four : UInt8} :
      HexDigit first one → HexDigit second two → HexDigit third three → HexDigit fourth four →
      FourDigits (((first * 16 + second) * 16 + third) * 16 + fourth) [one, two, three, four]

theorem FourDigits.number {unit : Nat} {digits : Bytes} (four : FourDigits unit digits) :
    hexNumber? digits = some unit := by
  cases four with
  | mk first second third fourth =>
      simp [hexNumber?, first.value, second.value, third.value, fourth.value]

/-- The letters that stand for one character behind a backslash. -/
def shortEscapes : List (UInt8 × Char) :=
  [(0x22, '"'), (0x5C, '\\'), (0x2F, '/'), (0x62, '\x08'), (0x66, '\x0C'), (0x6E, '\n'),
    (0x72, '\r'), (0x74, '\t')]

theorem short_of_mem {letter : UInt8} {character : Char}
    (short : (letter, character) ∈ shortEscapes) :
    letter ≠ 0x75 ∧ ∃ byte, simpleEscape? letter = some byte ∧
      Utf8.encodeChar character = [byte] := by
  have all : ∀ escape ∈ shortEscapes, escape.1 ≠ 0x75 ∧
      (simpleEscape? escape.1).map (fun byte => [byte]) = some (Utf8.encodeChar escape.2) := by
    decide
  obtain ⟨other, escaped⟩ := all _ short
  obtain ⟨byte, known, same⟩ := Option.map_eq_some_iff.mp escaped
  exact ⟨other, byte, known, same.symm⟩

/-! ## What stands between the quotes -/

/-- A byte that stands for itself, or an escape. -/
inductive Piece : Bytes → Prop
  | plain {byte : UInt8} : 0x20 ≤ byte → byte ≠ quoteMark → byte ≠ backslash → Piece [byte]
  | short {letter : UInt8} {character : Char} : (letter, character) ∈ shortEscapes →
      Piece [backslash, letter]
  | long {unit : Nat} {digits : Bytes} : FourDigits unit digits →
      Piece (backslash :: 0x75 :: digits)

inductive Body : Bytes → Prop
  | nil : Body []
  | cons {piece others : Bytes} : Piece piece → Body others → Body (piece ++ others)

/-- The ways to write a character: as it is, or as an escape, which is a pair of surrogates where
the character is beyond sixteen bits. -/
inductive Letter : Char → Bytes → Prop
  | plain {character : Char} : 0x20 ≤ character.toNat → character ≠ '"' → character ≠ '\\' →
      Letter character (Utf8.encodeChar character)
  | short {letter : UInt8} {character : Char} : (letter, character) ∈ shortEscapes →
      Letter character [backslash, letter]
  | long {character : Char} {digits : Bytes} : FourDigits character.toNat digits →
      Letter character (backslash :: 0x75 :: digits)
  | pair {character : Char} {high low : Nat} {first second : Bytes} :
      0xD800 ≤ high → high < 0xDC00 → 0xDC00 ≤ low → low < 0xE000 →
      character.toNat = 0x10000 + (high - 0xD800) * 0x400 + (low - 0xDC00) →
      FourDigits high first → FourDigits low second →
      Letter character (backslash :: 0x75 :: first ++ backslash :: 0x75 :: second)

inductive Letters : List Char → Bytes → Prop
  | nil : Letters [] []
  | cons {character : Char} {others : List Char} {piece rest : Bytes} : Letter character piece →
      Letters others rest → Letters (character :: others) (piece ++ rest)

/-- The bytes between the quotes spell a text. -/
def Spells (text : String) (bytes : Bytes) : Prop :=
  Letters text.toList bytes

theorem Body.append {first second : Bytes} (left : Body first) (right : Body second) :
    Body (first ++ second) := by
  induction left with
  | nil => exact right
  | cons piece _ ih =>
      rw [List.append_assoc]
      exact .cons piece ih

/-- Bytes that stand for themselves. -/
def Plain (bytes : Bytes) : Prop :=
  ∀ byte ∈ bytes, 0x20 ≤ byte ∧ byte ≠ quoteMark ∧ byte ≠ backslash

theorem Plain.body {bytes : Bytes} (plain : Plain bytes) : Body bytes := by
  induction bytes with
  | nil => exact .nil
  | cons byte rest ih =>
      obtain ⟨printed, noQuote, noEscape⟩ := plain byte List.mem_cons_self
      exact .cons (.plain printed noQuote noEscape)
        (ih fun other member => plain other (List.mem_cons_of_mem _ member))

theorem plain_encodeChar {character : Char} (printed : 0x20 ≤ character.toNat)
    (noQuote : character ≠ '"') (noEscape : character ≠ '\\') :
    Plain (Utf8.encodeChar character) := by
  intro byte member
  by_cases low : byte.toNat < 128
  · have same := (Utf8.mem_encodeChar_iff low character).mp member
    refine ⟨?_, ?_, ?_⟩
    · rw [UInt8.le_iff_toNat_le, ← same]
      exact printed
    · rintro rfl
      exact noQuote (Char.toNat_inj.mp same)
    · rintro rfl
      exact noEscape (Char.toNat_inj.mp same)
  · refine ⟨?_, ?_, ?_⟩
    · rw [UInt8.le_iff_toNat_le]
      exact Nat.le_trans (by decide) (Nat.le_of_not_lt low)
    · rintro rfl
      exact low (by decide)
    · rintro rfl
      exact low (by decide)

theorem Letter.body {character : Char} {piece : Bytes} (letter : Letter character piece) :
    Body piece := by
  have single : ∀ {bytes : Bytes}, Piece bytes → Body bytes := by
    intro bytes isPiece
    have whole := Body.cons isPiece .nil
    rwa [List.append_nil] at whole
  cases letter with
  | plain printed noQuote noEscape => exact (plain_encodeChar printed noQuote noEscape).body
  | short escape => exact single (.short escape)
  | long digits => exact single (.long digits)
  | pair _ _ _ _ _ first second => exact (single (.long first)).append (single (.long second))

theorem Letters.body {text : List Char} {bytes : Bytes} (letters : Letters text bytes) :
    Body bytes := by
  induction letters with
  | nil => exact .nil
  | cons letter _ ih => exact letter.body.append ih

theorem Spells.body {text : String} {bytes : Bytes} (spells : Spells text bytes) : Body bytes :=
  Letters.body spells

/-- A text without quotes, backslashes and control characters spells itself. -/
theorem spells_ofString (text : String) (printed : (text.toList.all fun character =>
    0x20 ≤ character.toNat && character != '"' && character != '\\') = true) :
    Spells text (Bytes.ofString text) := by
  rw [Spells, Bytes.ofString]
  generalize text.toList = characters at printed
  induction characters with
  | nil => exact .nil
  | cons character others ih =>
      simp only [List.all_cons, Bool.and_eq_true, decide_eq_true_eq, bne_iff_ne] at printed
      obtain ⟨⟨⟨visible, noQuote⟩, noEscape⟩, rest⟩ := printed
      exact .cons (.plain visible noQuote noEscape) (ih rest)

/-! ## Reading -/

/-- A reading that starts with bytes that were found before. -/
def found (bytes : Bytes) (reading : Except Fault (Bytes × Bytes)) : Except Fault (Bytes × Bytes) :=
  reading.map fun (more, left) => (bytes ++ more, left)

@[simp]
theorem found_nil (reading : Except Fault (Bytes × Bytes)) : found [] reading = reading := by
  cases reading <;> rfl

@[simp]
theorem found_ok (bytes more left : Bytes) :
    found bytes (.ok (more, left)) = .ok (bytes ++ more, left) := rfl

@[simp]
theorem found_found (first second : Bytes) (reading : Except Fault (Bytes × Bytes)) :
    found first (found second reading) = found (first ++ second) reading := by
  cases reading with
  | error fault => rfl
  | ok value => simp [found, Except.map]

theorem found_eq_ok {bytes read left : Bytes} {reading : Except Fault (Bytes × Bytes)}
    (ok : found bytes reading = .ok (read, left)) : ∃ more, reading = .ok (more, left) := by
  cases reading with
  | error fault => cases ok
  | ok value =>
      cases ok
      exact ⟨value.1, rfl⟩

variable {strict : Bool} {state next : Escape} {byte : UInt8} {bytes : Bytes}

theorem readStringFrom_of_added (added : advance strict state byte = .added bytes next)
    (rest : Bytes) :
    readStringFrom strict state (byte :: rest) = found bytes (readStringFrom strict next rest) := by
  rw [readStringFrom, added]
  rfl

theorem readStringFrom_of_refused (refused : advance strict state byte = .refused) (rest : Bytes) :
    readStringFrom strict state (byte :: rest) = .error .malformed := by
  rw [readStringFrom, refused]

theorem readStringFrom_quoteMark (strict : Bool) (rest : Bytes) :
    readStringFrom strict .outside (quoteMark :: rest) = .ok ([], rest) := by
  rw [readStringFrom, advance, if_pos rfl]

theorem readStringFrom_backslash (strict : Bool) (rest : Bytes) :
    readStringFrom strict .outside (backslash :: rest) = readStringFrom strict .started rest := by
  have added : advance strict .outside backslash = .added [] .started := by
    rw [advance, if_neg (by decide), if_pos rfl]
  rw [readStringFrom_of_added added, found_nil]

theorem readStringFrom_plain (strict : Bool) (printed : 0x20 ≤ byte) (noQuote : byte ≠ quoteMark)
    (noEscape : byte ≠ backslash) (rest : Bytes) :
    readStringFrom strict .outside (byte :: rest) =
      found [byte] (readStringFrom strict .outside rest) := by
  refine readStringFrom_of_added ?_ rest
  rw [advance, if_neg noQuote, if_neg noEscape, if_neg (UInt8.not_lt.mpr printed)]

theorem readStringFrom_of_plain (strict : Bool) (plain : Plain bytes) (rest : Bytes) :
    readStringFrom strict .outside (bytes ++ rest) =
      found bytes (readStringFrom strict .outside rest) := by
  induction bytes with
  | nil => rw [List.nil_append, found_nil]
  | cons byte others ih =>
      obtain ⟨printed, noQuote, noEscape⟩ := plain byte List.mem_cons_self
      rw [List.cons_append, readStringFrom_plain strict printed noQuote noEscape,
        ih fun other member => plain other (List.mem_cons_of_mem _ member), found_found]
      rfl

theorem readStringFrom_short {letter : UInt8} {character : Char} (strict : Bool)
    (short : (letter, character) ∈ shortEscapes) (rest : Bytes) :
    readStringFrom strict .outside (backslash :: letter :: rest) =
      found (Utf8.encodeChar character) (readStringFrom strict .outside rest) := by
  obtain ⟨other, byte, known, encoded⟩ := short_of_mem short
  have added : advance strict .started letter = .added [byte] .outside := by
    rw [advance, if_neg other, known]
  rw [readStringFrom_backslash, readStringFrom_of_added added, encoded]

/-- Of four digits only the last one leads on. -/
theorem readStringFrom_four {one two three four : UInt8} (among : Bytes → Escape)
    (more : ∀ seen byte, seen.length < 3 →
      advance strict (among seen) byte = .added [] (among (seen ++ [byte]))) (rest : Bytes) :
    readStringFrom strict (among []) ([one, two, three, four] ++ rest) =
      readStringFrom strict (among [one, two, three]) (four :: rest) := by
  have first := more [] one (by simp)
  have second := more [one] two (by simp)
  have third := more [one, two] three (by simp)
  simp only [List.cons_append, List.nil_append] at first second third ⊢
  rw [readStringFrom_of_added first, readStringFrom_of_added second, readStringFrom_of_added third,
    found_nil, found_nil, found_nil]

/-- What four digits lead to outside a pair. -/
def alone (strict : Bool) (unit : Nat) : Advance :=
  if strict && isLowHalf unit then .refused
  else if strict && isHighHalf unit then .added [] (.half unit)
  else .added (Utf8.encodeChar (Char.ofNat unit)) .outside

/-- What four digits lead to behind the first half of a pair. -/
def joined (high unit : Nat) : Advance :=
  if isLowHalf unit then .added (Utf8.encodeChar (joinHalves high unit)) .outside else .refused

theorem readStringFrom_long {unit : Nat} {digits : Bytes} (strict : Bool)
    (four : FourDigits unit digits) (rest : Bytes) :
    ∃ state last, advance strict state last = alone strict unit ∧
      readStringFrom strict .outside (backslash :: 0x75 :: digits ++ rest) =
        readStringFrom strict state (last :: rest) := by
  have number := four.number
  cases four with
  | @mk _ _ _ _ one two three four _ _ _ _ =>
      refine ⟨.digits [one, two, three], four, ?_, ?_⟩
      · rw [advance, if_neg (by simp)]
        simp only [List.cons_append, List.nil_append, number, alone]
      · have started : advance strict .started 0x75 = .added [] (.digits []) := by
          rw [advance, if_pos rfl]
        rw [List.cons_append, List.cons_append, readStringFrom_backslash,
          readStringFrom_of_added started, found_nil]
        refine readStringFrom_four .digits ?_ rest
        intro seen byte few
        rw [advance, if_pos few]

theorem readStringFrom_second {unit : Nat} {digits : Bytes} (strict : Bool) (high : Nat)
    (four : FourDigits unit digits) (rest : Bytes) :
    ∃ state last, advance strict state last = joined high unit ∧
      readStringFrom strict (.half high) (backslash :: 0x75 :: digits ++ rest) =
        readStringFrom strict state (last :: rest) := by
  have number := four.number
  cases four with
  | @mk _ _ _ _ one two three four _ _ _ _ =>
      refine ⟨.halfDigits high [one, two, three], four, ?_, ?_⟩
      · rw [advance, if_neg (by simp)]
        simp only [List.cons_append, List.nil_append, number, joined]
      · have opened : advance strict (.half high) backslash = .added [] (.halfStarted high) := by
          rw [advance, if_pos rfl]
        have started : advance strict (.halfStarted high) 0x75 =
            .added [] (.halfDigits high []) := by
          rw [advance, if_pos rfl]
        rw [List.cons_append, List.cons_append, readStringFrom_of_added opened,
          readStringFrom_of_added started, found_nil, found_nil]
        refine readStringFrom_four (.halfDigits high) ?_ rest
        intro seen byte few
        rw [advance, if_pos few]

/-! ## Passing over -/

theorem readStringFrom_of_piece {piece : Bytes} (isPiece : Piece piece) : ∃ bytes, ∀ rest,
    readStringFrom false .outside (piece ++ rest) =
      found bytes (readStringFrom false .outside rest) := by
  cases isPiece with
  | @plain byte printed noQuote noEscape =>
      exact ⟨[byte], fun rest => readStringFrom_plain false printed noQuote noEscape rest⟩
  | short escape => exact ⟨_, fun rest => readStringFrom_short false escape rest⟩
  | @long unit _ four =>
      refine ⟨Utf8.encodeChar (Char.ofNat unit), fun rest => ?_⟩
      obtain ⟨state, last, added, same⟩ := readStringFrom_long false four rest
      rw [same, readStringFrom_of_added added]

/-- Any string is passed over up to its closing quote. -/
theorem readStringFrom_of_body {body : Bytes} (isBody : Body body) : ∃ bytes, ∀ rest,
    readStringFrom false .outside (body ++ quoteMark :: rest) = .ok (bytes, rest) := by
  induction isBody with
  | nil => exact ⟨[], fun rest => readStringFrom_quoteMark false rest⟩
  | cons isPiece _ ih =>
      obtain ⟨bytes, first⟩ := readStringFrom_of_piece isPiece
      obtain ⟨more, others⟩ := ih
      refine ⟨bytes ++ more, fun rest => ?_⟩
      rw [List.append_assoc, first, others, found_ok]

/-! ## Reading texts -/

theorem isLowHalf_toNat (character : Char) : isLowHalf character.toNat = false := by
  have bounds := Units.toNat_bounds character
  rw [isLowHalf, Bool.and_eq_false_iff, decide_eq_false_iff_not, decide_eq_false_iff_not]
  omega

theorem isHighHalf_toNat (character : Char) : isHighHalf character.toNat = false := by
  have bounds := Units.toNat_bounds character
  rw [isHighHalf, Bool.and_eq_false_iff, decide_eq_false_iff_not, decide_eq_false_iff_not]
  omega

theorem readStringFrom_of_letter {character : Char} {piece : Bytes}
    (letter : Letter character piece) (rest : Bytes) : readStringFrom true .outside (piece ++ rest) =
      found (Utf8.encodeChar character) (readStringFrom true .outside rest) := by
  cases letter with
  | plain printed noQuote noEscape =>
      exact readStringFrom_of_plain true (plain_encodeChar printed noQuote noEscape) rest
  | short escape => exact readStringFrom_short true escape rest
  | long four =>
      obtain ⟨state, last, added, same⟩ := readStringFrom_long true four rest
      have single : alone true character.toNat = .added (Utf8.encodeChar character) .outside := by
        rw [alone, isLowHalf_toNat, isHighHalf_toNat, Char.ofNat_toNat]
        rfl
      rw [same, readStringFrom_of_added (added.trans single)]
  | @pair _ high low first second least below leastLow belowLow value fourHigh fourLow =>
      have isHigh : isHighHalf high = true := by simp [isHighHalf, least, below]
      have notLow : isLowHalf high = false := by
        rw [isLowHalf, Bool.and_eq_false_iff, decide_eq_false_iff_not, decide_eq_false_iff_not]
        omega
      have isLow : isLowHalf low = true := by simp [isLowHalf, leastLow, belowLow]
      have whole : joinHalves high low = character := by
        rw [joinHalves, ← value, Char.ofNat_toNat]
      have opened : alone true high = .added [] (.half high) := by
        rw [alone, notLow, isHigh]
        rfl
      have closed : joined high low = .added (Utf8.encodeChar character) .outside := by
        rw [joined, isLow, whole, if_pos rfl]
      rw [List.append_assoc]
      obtain ⟨state, last, added, same⟩ :=
        readStringFrom_long true fourHigh ((backslash :: 0x75 :: second) ++ rest)
      rw [same, readStringFrom_of_added (added.trans opened), found_nil]
      obtain ⟨state, last, added, same⟩ := readStringFrom_second true high fourLow rest
      rw [same, readStringFrom_of_added (added.trans closed)]

theorem readStringFrom_of_letters {text : List Char} {bytes : Bytes} (letters : Letters text bytes)
    (rest : Bytes) : readStringFrom true .outside (bytes ++ quoteMark :: rest) =
      .ok (Utf8.encode text, rest) := by
  induction letters with
  | nil => exact readStringFrom_quoteMark true rest
  | cons letter _ ih =>
      rw [List.append_assoc, readStringFrom_of_letter letter, ih, found_ok]
      rfl

/-- A string is read as the text that it spells, whatever follows it. -/
theorem readText_of_spells {text : String} {body : Bytes} (spells : Spells text body)
    (rest : Bytes) : readText (body ++ quoteMark :: rest) = .ok (text, rest) := by
  have read := readStringFrom_of_letters spells rest
  have known : Bytes.toString? (Utf8.encode text.toList) = some text :=
    Bytes.toString?_eq_some_iff.mpr rfl
  rw [readText, read]
  simp only [bind, Except.bind, known]

theorem Spells.unique {text other : String} {body : Bytes} (spells : Spells text body)
    (again : Spells other body) : text = other := by
  have read := readText_of_spells spells []
  rw [readText_of_spells again] at read
  cases read
  rfl

/-- Where the reading of a string can stand between two of its pieces. -/
inductive Between : Escape → Prop
  | outside : Between .outside
  | half {high : Nat} : Between (.half high)

/-- One piece of a string leads to the next, or is refused. -/
theorem readStringFrom_piece_cases {piece : Bytes} (isPiece : Piece piece) (between : Between state)
    (rest : Bytes) : (∃ fault, readStringFrom true state (piece ++ rest) = .error fault) ∨
      ∃ bytes next, Between next ∧ readStringFrom true state (piece ++ rest) =
        found bytes (readStringFrom true next rest) := by
  cases between with
  | outside =>
      cases isPiece with
      | @plain byte printed noQuote noEscape =>
          exact .inr ⟨[byte], .outside, .outside,
            readStringFrom_plain true printed noQuote noEscape rest⟩
      | short escape => exact .inr ⟨_, .outside, .outside, readStringFrom_short true escape rest⟩
      | @long unit _ four =>
          obtain ⟨state, last, added, same⟩ := readStringFrom_long true four rest
          rw [same]
          rw [alone] at added
          split at added
          · exact .inl ⟨_, readStringFrom_of_refused added rest⟩
          · split at added
            · exact .inr ⟨_, _, .half, readStringFrom_of_added added rest⟩
            · exact .inr ⟨_, _, .outside, readStringFrom_of_added added rest⟩
  | @half high =>
      cases isPiece with
      | plain printed noQuote noEscape =>
          refine .inl ⟨_, readStringFrom_of_refused ?_ _⟩
          rw [advance, if_neg noEscape]
      | short escape =>
          have opened : advance true (.half high) backslash = .added [] (.halfStarted high) := by
            rw [advance, if_pos rfl]
          refine .inl ⟨.malformed, ?_⟩
          rw [List.cons_append, readStringFrom_of_added opened, found_nil, List.cons_append]
          refine readStringFrom_of_refused ?_ _
          rw [advance, if_neg (short_of_mem escape).1]
      | @long unit _ four =>
          obtain ⟨state, last, added, same⟩ := readStringFrom_second true high four rest
          rw [same]
          rw [joined] at added
          split at added
          · exact .inr ⟨_, _, .outside, readStringFrom_of_added added rest⟩
          · exact .inl ⟨_, readStringFrom_of_refused added rest⟩

theorem left_of_readStringFrom {body : Bytes} (isBody : Body body) :
    ∀ {state : Escape} {rest bytes left : Bytes}, Between state →
      readStringFrom true state (body ++ quoteMark :: rest) = .ok (bytes, left) → left = rest := by
  induction isBody with
  | nil =>
      intro state rest bytes left between read
      rw [List.nil_append] at read
      cases between with
      | outside =>
          rw [readStringFrom_quoteMark] at read
          cases read
          rfl
      | half =>
          rw [readStringFrom_of_refused (by rw [advance, if_neg (by decide)])] at read
          cases read
  | cons isPiece _ ih =>
      intro state rest bytes left between read
      rw [List.append_assoc] at read
      rcases readStringFrom_piece_cases isPiece between _ with ⟨fault, failed⟩ | ⟨_, _, later, same⟩
      · rw [failed] at read
        cases read
      · rw [same] at read
        obtain ⟨more, inner⟩ := found_eq_ok read
        exact ih later inner

/-- A string that is read as a text ends at its own closing quote. -/
theorem left_of_readText {body rest left : Bytes} {text : String} (isBody : Body body)
    (read : readText (body ++ quoteMark :: rest) = .ok (text, left)) : left = rest := by
  rw [readText] at read
  cases inner : readStringFrom true .outside (body ++ quoteMark :: rest) with
  | error fault =>
      rw [inner] at read
      cases read
  | ok value =>
      obtain ⟨bytes, after⟩ := value
      have same := left_of_readStringFrom isBody .outside inner
      rw [inner] at read
      simp only [bind, Except.bind] at read
      split at read
      · cases read
        exact same
      · cases read

end TemplateBuild.Json

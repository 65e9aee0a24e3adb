import Mathlib
import TemplateBuild.Proofs.Json.Strings

/-!
# Values of JSON

The grammar of values, and that every value is passed over, however deep it is.  What follows a
value in a list or an object cannot belong to a number, and there is always fuel enough where there
is as much as the value has bytes.
-/

set_option autoImplicit false

namespace TemplateBuild.Json

/-! ## White space -/

/-- White space that means nothing. -/
def Blank (bytes : Bytes) : Prop :=
  ∀ byte ∈ bytes, byte ∈ [0x20, 0x0A, 0x0D, 0x09]

theorem blank_nil : Blank [] :=
  fun _ member => absurd member List.not_mem_nil

theorem isBlank_iff {byte : UInt8} : isBlank byte = true ↔ byte ∈ [0x20, 0x0A, 0x0D, 0x09] := by
  simp [isBlank, or_assoc]

theorem skipBlank_append {gap : Bytes} (blank : Blank gap) (rest : Bytes) :
    skipBlank (gap ++ rest) = skipBlank rest := by
  refine List.dropWhile_append_of_pos ?_
  exact fun byte member => isBlank_iff.mpr (blank byte member)

theorem skipBlank_of_blank {gap : Bytes} (blank : Blank gap) : skipBlank gap = [] := by
  rw [← List.append_nil gap, skipBlank_append blank]
  rfl

theorem skipBlank_cons {byte : UInt8} (visible : isBlank byte = false) (rest : Bytes) :
    skipBlank (byte :: rest) = byte :: rest := by
  rw [skipBlank, List.dropWhile_cons, visible, if_neg Bool.false_ne_true]

theorem skipBlank_to {gap : Bytes} {byte : UInt8} (blank : Blank gap)
    (visible : isBlank byte = false) (rest : Bytes) :
    skipBlank (gap ++ byte :: rest) = byte :: rest := by
  rw [skipBlank_append blank, skipBlank_cons visible]

theorem skipBlank_skipBlank (input : Bytes) : skipBlank (skipBlank input) = skipBlank input :=
  List.dropWhile_idempotent _ _

/-! ## The grammar -/

def nullWord : Bytes := [0x6E, 0x75, 0x6C, 0x6C]
def trueWord : Bytes := [0x74, 0x72, 0x75, 0x65]
def falseWord : Bytes := [0x66, 0x61, 0x6C, 0x73, 0x65]

def IsDigits (bytes : Bytes) : Prop :=
  ∀ byte ∈ bytes, 0x30 ≤ byte ∧ byte ≤ 0x39

/-- No other number than zero starts with a zero. -/
inductive Whole : Bytes → Prop
  | zero : Whole [0x30]
  | other {first : UInt8} {digits : Bytes} : first ≠ 0x30 → IsDigits (first :: digits) →
      Whole (first :: digits)

inductive Fraction : Bytes → Prop
  | absent : Fraction []
  | given {digits : Bytes} : digits ≠ [] → IsDigits digits → Fraction (0x2E :: digits)

inductive Exponent : Bytes → Prop
  | absent : Exponent []
  | given {mark : UInt8} {sign digits : Bytes} : mark ∈ [0x65, 0x45] →
      sign ∈ [[], [0x2B], [0x2D]] → digits ≠ [] → IsDigits digits →
      Exponent (mark :: sign ++ digits)

inductive Number : Bytes → Prop
  | positive {whole fraction exponent : Bytes} : Whole whole → Fraction fraction →
      Exponent exponent → Number (whole ++ fraction ++ exponent)
  | negative {whole fraction exponent : Bytes} : Whole whole → Fraction fraction →
      Exponent exponent → Number (0x2D :: whole ++ fraction ++ exponent)

def inQuotes (body : Bytes) : Bytes :=
  quoteMark :: body ++ [quoteMark]

/-- What stands between the commas of a list. -/
structure Item where
  before : Bytes
  value : Bytes
  after : Bytes
  spaced : Blank before ∧ Blank after

def Item.text (item : Item) : Bytes :=
  item.before ++ item.value ++ item.after

/-- What stands between the commas of an object. -/
structure Member where
  before : Bytes
  name : Bytes
  between : Bytes
  beyond : Bytes
  value : Bytes
  after : Bytes
  spaced : Blank before ∧ Blank between ∧ Blank beyond ∧ Blank after
  named : Body name

/-- A member behind its opening quote, up to the white space after its value. -/
def Member.inner (member : Member) : Bytes :=
  member.name ++ quoteMark :: member.between ++ colon :: member.beyond ++ member.value

def Member.text (member : Member) : Bytes :=
  member.before ++ quoteMark :: member.inner ++ member.after

def separated (texts : List Bytes) : Bytes :=
  [comma].intercalate texts

@[simp]
theorem separated_nil : separated [] = [] := rfl

@[simp]
theorem separated_singleton (text : Bytes) : separated [text] = text :=
  List.intercalate_singleton

@[simp]
theorem separated_cons_cons (first second : Bytes) (others : List Bytes) :
    separated (first :: second :: others) = first ++ comma :: separated (second :: others) := by
  rw [separated, List.intercalate_cons_cons, List.append_assoc]
  rfl

/-- What is left of a list or an object, with a comma before each text but the first of all. -/
def remaining (closing : UInt8) (rest : Bytes) (first : Bool) : List Bytes → Bytes
  | [] => closing :: rest
  | text :: others =>
    (if first then [] else [comma]) ++ (text ++ remaining closing rest false others)

theorem separated_append (texts : List Bytes) (closing : UInt8) (rest : Bytes) :
    separated texts ++ closing :: rest = remaining closing rest true texts := by
  have following : ∀ (text : Bytes) (others : List Bytes),
      separated (text :: others) ++ closing :: rest =
        text ++ remaining closing rest false others := by
    intro text others
    induction others generalizing text with
    | nil => rw [separated_singleton, remaining]
    | cons next more ih =>
        rw [separated_cons_cons, List.append_assoc, List.cons_append, ih next]
        rfl
  cases texts with
  | nil => rfl
  | cons text others => exact following text others

theorem length_lt_remaining {texts : List Bytes} (nonempty : ∀ text ∈ texts, text ≠ [])
    (closing : UInt8) (rest : Bytes) (first : Bool) :
    texts.length < (remaining closing rest first texts).length := by
  induction texts generalizing first with
  | nil => simp [remaining]
  | cons text others ih =>
      have inner := ih (fun other member => nonempty other (List.mem_cons_of_mem _ member)) false
      have some := List.length_pos_iff.mpr (nonempty text List.mem_cons_self)
      simp only [remaining, List.length_append, List.length_cons]
      omega

/-- The text of an object; without members there may still be white space. -/
def objectText (gap : Bytes) (members : List Member) : Bytes :=
  openObject :: gap ++ separated (members.map Member.text) ++ [closeObject]

def listText (gap : Bytes) (items : List Item) : Bytes :=
  openList :: gap ++ separated (items.map Item.text) ++ [closeList]

/-- The texts of values, without white space around them.  Strings in them are arbitrary. -/
inductive IsValue : Bytes → Prop
  | null : IsValue nullWord
  | isTrue : IsValue trueWord
  | isFalse : IsValue falseWord
  | number {text : Bytes} : Number text → IsValue text
  | string {body : Bytes} : Body body → IsValue (inQuotes body)
  | list {gap : Bytes} {items : List Item} : Blank gap →
      (∀ item ∈ items, IsValue item.value) → IsValue (listText gap items)
  | object {gap : Bytes} {members : List Member} : Blank gap →
      (∀ member ∈ members, IsValue member.value) → IsValue (objectText gap members)

/-! ## Numbers -/

theorem not_isBlank_of_mark {mark : UInt8} (isMark : mark ∈ [comma, closeList, closeObject]) :
    isBlank mark = false := by
  simp only [List.mem_cons, List.not_mem_nil, or_false] at isMark
  rcases isMark with rfl | rfl | rfl <;> rfl

theorem isDigit_iff {byte : UInt8} : isDigit byte = true ↔ 0x30 ≤ byte ∧ byte ≤ 0x39 := by
  rw [isDigit, Bool.and_eq_true, decide_eq_true_eq, decide_eq_true_eq]

/-- What may follow a number does not go on with it. -/
def Stops (rest : Bytes) : Prop :=
  ∃ byte others, rest = byte :: others ∧
    byte ∈ [0x20, 0x0A, 0x0D, 0x09, comma, closeList, closeObject]

theorem stops_cons {mark : UInt8} (isMark : mark ∈ [comma, closeList, closeObject])
    (rest : Bytes) : Stops (mark :: rest) :=
  ⟨mark, rest, rfl, List.mem_append_right [0x20, 0x0A, 0x0D, 0x09] isMark⟩

theorem stops_append {gap : Bytes} (blank : Blank gap) {rest : Bytes} (stops : Stops rest) :
    Stops (gap ++ rest) := by
  cases gap with
  | nil => exact stops
  | cons byte others =>
      exact ⟨byte, others ++ rest, rfl,
        List.mem_append_left [comma, closeList, closeObject] (blank byte List.mem_cons_self)⟩

theorem stops_remaining {gap : Bytes} (blank : Blank gap) {closing : UInt8}
    (isClosing : closing ∈ [closeList, closeObject]) (rest : Bytes) (texts : List Bytes) :
    Stops (gap ++ remaining closing rest false texts) := by
  refine stops_append blank ?_
  cases texts with
  | nil => exact stops_cons (List.mem_cons_of_mem _ isClosing) rest
  | cons text others => exact stops_cons List.mem_cons_self _

/-- Neither digits nor a part that begins with one of these marks. -/
def StartsNot (marks : List UInt8) (rest : Bytes) : Prop :=
  ∀ byte others, rest = byte :: others → isDigit byte = false ∧ byte ∉ marks

theorem Stops.startsNot {rest : Bytes} (stops : Stops rest) (marks : List UInt8)
    (others : ∀ byte ∈ [0x20, 0x0A, 0x0D, 0x09, comma, closeList, closeObject], byte ∉ marks) :
    StartsNot marks rest := by
  obtain ⟨byte, left, rfl, mark⟩ := stops
  intro first _ same
  cases same
  have none : ∀ byte ∈ [0x20, 0x0A, 0x0D, 0x09, comma, closeList, closeObject],
      isDigit byte = false := by
    simp [isDigit, comma, closeList, closeObject]
  exact ⟨none _ mark, others _ mark⟩

theorem dropWhile_isDigit {digits : Bytes} (isDigits : IsDigits digits) {marks : List UInt8}
    {rest : Bytes} (ends : StartsNot marks rest) : (digits ++ rest).dropWhile isDigit = rest := by
  rw [List.dropWhile_append_of_pos fun byte member => isDigit_iff.mpr (isDigits byte member)]
  cases rest with
  | nil => rfl
  | cons byte others =>
      rw [List.dropWhile_cons, (ends byte others rfl).1, if_neg Bool.false_ne_true]

theorem skipDigits_of_isDigits (ended : Fault) {digits : Bytes} (nonempty : digits ≠ [])
    (isDigits : IsDigits digits) {marks : List UInt8} {rest : Bytes}
    (ends : StartsNot marks rest) : skipDigits ended (digits ++ rest) = .ok rest := by
  cases digits with
  | nil => exact absurd rfl nonempty
  | cons first others =>
      have inner : IsDigits others :=
        fun byte member => isDigits byte (List.mem_cons_of_mem _ member)
      rw [List.cons_append, skipDigits,
        if_pos (isDigit_iff.mpr (isDigits first List.mem_cons_self)), dropWhile_isDigit inner ends]

theorem skipExponent_of_exponent (ended : Fault) {exponent : Bytes} (isExponent : Exponent exponent)
    {rest : Bytes} (ends : StartsNot [0x65, 0x45] rest) :
    skipExponent ended (exponent ++ rest) = .ok rest := by
  cases isExponent with
  | absent =>
      rw [List.nil_append, skipExponent]
      · rintro others rfl
        exact (ends _ _ rfl).2 (by decide)
      · rintro others rfl
        exact (ends _ _ rfl).2 (by decide)
  | @given mark sign digits isMark isSign nonempty isDigits =>
      have read := skipDigits_of_isDigits ended nonempty isDigits ends
      have unsigned : skipExponent.skipSigned ended (digits ++ rest) = .ok rest := by
        rw [skipExponent.skipSigned, read]
        · rintro others same
          cases digits with
          | nil => exact nonempty rfl
          | cons first more =>
              cases same
              exact absurd (isDigits _ List.mem_cons_self) (by decide)
        · rintro others same
          cases digits with
          | nil => exact nonempty rfl
          | cons first more =>
              cases same
              exact absurd (isDigits _ List.mem_cons_self) (by decide)
      have signed : skipExponent.skipSigned ended (sign ++ digits ++ rest) = .ok rest := by
        simp only [List.mem_cons, List.not_mem_nil, or_false] at isSign
        rcases isSign with rfl | rfl | rfl
        · exact unsigned
        · exact read
        · exact read
      simp only [List.mem_cons, List.not_mem_nil, or_false] at isMark
      rcases isMark with rfl | rfl
      · exact signed
      · exact signed

theorem skipFraction_of_fraction (ended : Fault) {fraction : Bytes} (isFraction : Fraction fraction)
    {rest : Bytes} (ends : StartsNot [0x2E] rest) :
    skipFraction ended (fraction ++ rest) = .ok rest := by
  cases isFraction with
  | absent =>
      rw [List.nil_append, skipFraction]
      rintro others rfl
      exact (ends _ _ rfl).2 (by decide)
  | given nonempty isDigits => exact skipDigits_of_isDigits ended nonempty isDigits ends

theorem Exponent.startsNot {exponent : Bytes} (isExponent : Exponent exponent) {rest : Bytes}
    (ends : StartsNot [0x2E] rest) : StartsNot [0x2E] (exponent ++ rest) := by
  cases isExponent with
  | absent => exact ends
  | given isMark _ _ _ =>
      intro byte others same
      cases same
      have all : ∀ mark ∈ [(0x65 : UInt8), 0x45], isDigit mark = false ∧ mark ∉ [0x2E] := by
        simp [isDigit]
      exact all _ isMark

theorem Fraction.startsNot {fraction : Bytes} (isFraction : Fraction fraction) {rest : Bytes}
    (ends : StartsNot [] rest) : StartsNot [] (fraction ++ rest) := by
  cases isFraction with
  | absent => exact ends
  | given _ _ =>
      intro byte others same
      cases same
      decide

theorem StartsNot.mono {marks fewer : List UInt8} {rest : Bytes} (ends : StartsNot marks rest)
    (subset : fewer ⊆ marks) : StartsNot fewer rest :=
  fun byte others same => ⟨(ends byte others same).1, fun member =>
    (ends byte others same).2 (subset member)⟩

theorem skipNumber_of_whole (ended : Fault) {whole rest : Bytes} (isWhole : Whole whole)
    (nonempty : rest ≠ []) (ends : StartsNot [] rest) :
    skipNumber ended (whole ++ rest) = skipFraction ended rest >>= skipExponent ended := by
  cases isWhole with
  | zero =>
      cases rest with
      | nil => exact absurd rfl nonempty
      | cons next more =>
          simp only [List.cons_append, List.nil_append, skipNumber]
          rw [(ends next more rfl).1, if_neg Bool.false_ne_true]
          rfl
  | @other first digits nonzero isDigits =>
      have read := skipDigits_of_isDigits ended (List.cons_ne_nil _ _) isDigits ends
      rw [List.cons_append] at read ⊢
      rw [skipNumber, read]
      · rfl
      · intro next more same
        exact nonzero (List.cons.inj same).1

/-- A number without its sign. -/
theorem skipNumber_of_parts (ended : Fault) {whole fraction exponent rest : Bytes}
    (isWhole : Whole whole) (isFraction : Fraction fraction) (isExponent : Exponent exponent)
    (stops : Stops rest) :
    skipNumber ended (whole ++ fraction ++ exponent ++ rest) = .ok rest := by
  have afterExponent := stops.startsNot [0x65, 0x45] (by simp [comma, closeList, closeObject])
  have afterFraction := isExponent.startsNot
    (stops.startsNot [0x2E] (by simp [comma, closeList, closeObject]))
  have afterWhole := isFraction.startsNot (afterFraction.mono (List.nil_subset _))
  have nonempty : fraction ++ (exponent ++ rest) ≠ [] := by
    obtain ⟨byte, others, rfl, _⟩ := stops
    simp
  rw [List.append_assoc, List.append_assoc, skipNumber_of_whole ended isWhole nonempty afterWhole,
    skipFraction_of_fraction ended isFraction afterFraction]
  exact skipExponent_of_exponent ended isExponent afterExponent

/-! ## Passing over values -/

/-- The readers of values do not mind white space before them. -/
theorem skipValue_skipBlank (fuel : Nat) (input : Bytes) :
    skipValue fuel (skipBlank input) = skipValue fuel input := by
  cases fuel with
  | zero => rw [skipValue, skipValue]
  | succ fuel => rw [skipValue, skipValue, skipBlank_skipBlank]

theorem skipValue_append (fuel : Nat) {gap : Bytes} (blank : Blank gap) (input : Bytes) :
    skipValue fuel (gap ++ input) = skipValue fuel input := by
  rw [← skipValue_skipBlank, skipBlank_append blank, skipValue_skipBlank]

theorem skipItems_skipBlank (fuel : Nat) (input : Bytes) :
    skipItems fuel (skipBlank input) = skipItems fuel input := by
  cases fuel with
  | zero => rw [skipItems, skipItems]
  | succ fuel => rw [skipItems, skipItems, skipValue_skipBlank]

theorem skipMembers_skipBlank (fuel : Nat) (input : Bytes) :
    skipMembers fuel (skipBlank input) = skipMembers fuel input := by
  cases fuel with
  | zero => rw [skipMembers, skipMembers]
  | succ fuel => rw [skipMembers, skipMembers, skipBlank_skipBlank]

theorem skipWord_append (word rest : Bytes) : skipWord word (word ++ rest) = .ok rest := by
  induction word with
  | nil => rfl
  | cons byte others ih => rw [List.cons_append, skipWord, if_pos rfl, ih]

/-- A text is passed over where there is fuel for its bytes. -/
def Passes (text : Bytes) : Prop :=
  ∀ fuel rest, text.length ≤ fuel → Stops rest → skipValue fuel (text ++ rest) = .ok rest

theorem passes_word {first : UInt8} {others : Bytes} (word : first :: others ∈
    [nullWord, trueWord, falseWord]) : Passes (first :: others) := by
  intro fuel rest enough _
  cases fuel with
  | zero => simp at enough
  | succ fuel =>
      have skipped := skipWord_append others rest
      simp only [List.mem_cons, List.not_mem_nil, or_false, nullWord, trueWord, falseWord,
        List.cons.injEq] at word
      have visible : isBlank first = false := by
        rcases word with ⟨rfl, _⟩ | ⟨rfl, _⟩ | ⟨rfl, _⟩ <;> rfl
      rw [List.cons_append, skipValue, skipBlank_cons visible]
      rcases word with ⟨rfl, rfl⟩ | ⟨rfl, rfl⟩ | ⟨rfl, rfl⟩
      · exact skipped
      · exact skipped
      · exact skipped

theorem passes_inQuotes {body : Bytes} (isBody : Body body) : Passes (inQuotes body) := by
  intro fuel rest enough _
  cases fuel with
  | zero => simp [inQuotes] at enough
  | succ fuel =>
      obtain ⟨bytes, read⟩ := readStringFrom_of_body isBody
      rw [inQuotes, List.append_assoc, List.cons_append, skipValue, skipBlank_cons (by decide)]
      simp only [if_pos]
      rw [List.singleton_append, read]
      rfl

theorem Whole.begins {whole : Bytes} (isWhole : Whole whole) :
    ∃ first others, whole = first :: others ∧ isDigit first = true := by
  cases isWhole with
  | zero => exact ⟨0x30, [], rfl, rfl⟩
  | other _ isDigits => exact ⟨_, _, rfl, isDigit_iff.mpr (isDigits _ List.mem_cons_self)⟩

/-- A digit is none of the bytes with which other values begin. -/
theorem other_of_isDigit {byte : UInt8} (digit : isDigit byte = true) : isBlank byte = false ∧
    byte ∉ [quoteMark, 0x6E, 0x74, 0x66, 0x2D, openList, openObject, closeList] := by
  have blanks : ∀ other ∈ [(0x20 : UInt8), 0x0A, 0x0D, 0x09], isDigit other = false := by
    simp [isDigit]
  have marks : ∀ other ∈ [quoteMark, 0x6E, 0x74, 0x66, 0x2D, openList, openObject, closeList],
      isDigit other = false := by
    simp [isDigit, quoteMark, openList, openObject, closeList]
  constructor
  · by_contra blank
    rw [Bool.not_eq_false, isBlank_iff] at blank
    rw [blanks byte blank] at digit
    cases digit
  · intro isMark
    rw [marks byte isMark] at digit
    cases digit

theorem passes_number {text : Bytes} (number : Number text) : Passes text := by
  intro fuel rest enough stops
  cases number with
  | positive isWhole isFraction isExponent =>
      have skipped := skipNumber_of_parts .malformed isWhole isFraction isExponent stops
      obtain ⟨first, others, rfl, digit⟩ := isWhole.begins
      obtain ⟨visible, other⟩ := other_of_isDigit digit
      cases fuel with
      | zero => simp at enough
      | succ fuel =>
          simp only [List.mem_cons, not_or] at other
          simp only [List.cons_append] at skipped ⊢
          rw [skipValue, skipBlank_cons visible]
          simp only [if_neg other.1, if_neg other.2.1, if_neg other.2.2.1, if_neg other.2.2.2.1,
            if_neg other.2.2.2.2.1, if_pos digit]
          exact skipped
  | negative isWhole isFraction isExponent =>
      have skipped := skipNumber_of_parts .malformed isWhole isFraction isExponent stops
      cases fuel with
      | zero => simp at enough
      | succ fuel =>
          simp only [List.cons_append] at skipped ⊢
          rw [skipValue, skipBlank_cons (by decide)]
          exact skipped

/-- With what a value can begin. -/
theorem IsValue.begins {text : Bytes} (value : IsValue text) :
    ∃ first others, text = first :: others ∧ isBlank first = false ∧ first ≠ closeList := by
  cases value with
  | null => exact ⟨_, _, rfl, by decide, by decide⟩
  | isTrue => exact ⟨_, _, rfl, by decide, by decide⟩
  | isFalse => exact ⟨_, _, rfl, by decide, by decide⟩
  | string _ => exact ⟨_, _, rfl, by decide, by decide⟩
  | list _ _ => exact ⟨_, _, rfl, by decide, by decide⟩
  | object _ _ => exact ⟨_, _, rfl, by decide, by decide⟩
  | number number =>
      cases number with
      | positive isWhole _ _ =>
          obtain ⟨first, others, rfl, digit⟩ := isWhole.begins
          obtain ⟨visible, other⟩ := other_of_isDigit digit
          refine ⟨first, _, rfl, visible, ?_⟩
          rintro rfl
          exact other (by decide)
      | negative _ _ _ => exact ⟨_, _, rfl, by decide, by decide⟩

/-- One item is passed over, and what follows it says whether there is another. -/
theorem skipItems_item {item : Item} (pass : Passes item.value) {fuel : Nat}
    (enough : item.text.length ≤ fuel) {mark : UInt8}
    (isMark : mark ∈ [comma, closeList, closeObject]) (rest : Bytes) :
    skipItems (fuel + 1) (item.text ++ mark :: rest) =
      if mark = closeList then .ok rest
      else if mark = comma then skipItems fuel rest
      else .error .malformed := by
  obtain ⟨before, after⟩ := item.spaced
  have visible := not_isBlank_of_mark isMark
  rw [Item.text, List.length_append, List.length_append] at enough
  have skipped := pass fuel (item.after ++ mark :: rest) (by omega)
    (stops_append after (stops_cons isMark rest))
  rw [Item.text, List.append_assoc, List.append_assoc, skipItems, skipValue_append fuel before,
    skipped]
  simp only [bind, Except.bind]
  rw [skipBlank_to after visible]

theorem skipItems_separated {items : List Item} (nonempty : items ≠ [])
    (each : ∀ item ∈ items, Passes item.value) :
    ∀ (fuel : Nat) (rest : Bytes), (separated (items.map Item.text)).length < fuel →
      skipItems fuel (separated (items.map Item.text) ++ closeList :: rest) = .ok rest := by
  induction items with
  | nil => exact absurd rfl nonempty
  | cons item others ih =>
      intro fuel rest enough
      have pass := each item List.mem_cons_self
      cases fuel with
      | zero => simp at enough
      | succ fuel =>
          cases others with
          | nil =>
              simp only [List.map_cons, List.map_nil, separated_singleton] at enough ⊢
              rw [skipItems_item pass (by omega) (by decide), if_pos rfl]
          | cons next more =>
              have left := ih (List.cons_ne_nil _ _)
                (fun other member => each other (List.mem_cons_of_mem _ member)) fuel rest
              simp only [List.map_cons, separated_cons_cons, List.length_append,
                List.length_cons, List.append_assoc, List.cons_append] at enough left ⊢
              rw [skipItems_item pass (by omega) (by decide), if_neg (by decide), if_pos rfl]
              exact left (by omega)

/-- What a list begins with is read first. -/
theorem skipValue_listText (fuel : Nat) (gap : Bytes) (items : List Item) (rest : Bytes) :
    skipValue (fuel + 1) (listText gap items ++ rest) =
      match skipBlank (gap ++ (separated (items.map Item.text) ++ closeList :: rest)) with
      | next :: after => if next = closeList then .ok after else skipItems fuel (next :: after)
      | [] => .error .truncated := by
  rw [listText, List.append_assoc, List.append_assoc, List.cons_append, skipValue,
    skipBlank_cons (by decide)]
  rfl

theorem passes_listText {gap : Bytes} {items : List Item} (blank : Blank gap)
    (values : ∀ item ∈ items, IsValue item.value) (each : ∀ item ∈ items, Passes item.value) :
    Passes (listText gap items) := by
  intro fuel rest enough _
  cases fuel with
  | zero => simp [listText] at enough
  | succ fuel =>
      rw [skipValue_listText, skipBlank_append blank]
      cases items with
      | nil =>
          rw [List.map_nil, separated_nil, List.nil_append, skipBlank_cons (by decide)]
          exact if_pos rfl
      | cons item others =>
          have length : (separated ((item :: others).map Item.text)).length < fuel := by
            simp only [listText, List.length_append, List.length_cons] at enough
            omega
          have skipped := skipItems_separated (List.cons_ne_nil _ _) each fuel rest length
          rw [← skipItems_skipBlank] at skipped
          obtain ⟨first, inner, value, visible, other⟩ :=
            (values item List.mem_cons_self).begins
          obtain ⟨tail, shape⟩ : ∃ tail,
              separated ((item :: others).map Item.text) ++ closeList :: rest =
                item.before ++ first :: tail := by
            cases others <;> simp [Item.text, value]
          rw [shape, skipBlank_to item.spaced.1 visible] at skipped ⊢
          simp only [if_neg other, skipped]

/-- One member is passed over, and what follows it says whether there is another. -/
theorem skipMembers_member {member : Member} (pass : Passes member.value) {fuel : Nat}
    (enough : member.text.length ≤ fuel) {mark : UInt8}
    (isMark : mark ∈ [comma, closeList, closeObject]) (rest : Bytes) :
    skipMembers (fuel + 1) (member.text ++ mark :: rest) =
      if mark = closeObject then .ok rest
      else if mark = comma then skipMembers fuel rest
      else .error .malformed := by
  obtain ⟨before, between, beyond, after⟩ := member.spaced
  obtain ⟨bytes, read⟩ := readStringFrom_of_body member.named
  have visible := not_isBlank_of_mark isMark
  simp only [Member.text, Member.inner, List.length_append, List.length_cons] at enough
  have skipped := pass fuel (member.after ++ mark :: rest) (by omega)
    (stops_append after (stops_cons isMark rest))
  simp only [Member.text, Member.inner, List.append_assoc, List.cons_append]
  rw [skipMembers, skipBlank_to before (by decide)]
  simp only [if_pos, read, bind, Except.bind]
  rw [skipBlank_to between (by decide)]
  simp only [if_pos, skipValue_append fuel beyond, skipped]
  rw [skipBlank_to after visible]

theorem skipMembers_separated {members : List Member} (nonempty : members ≠ [])
    (each : ∀ member ∈ members, Passes member.value) :
    ∀ (fuel : Nat) (rest : Bytes), (separated (members.map Member.text)).length < fuel →
      skipMembers fuel (separated (members.map Member.text) ++ closeObject :: rest) =
        .ok rest := by
  induction members with
  | nil => exact absurd rfl nonempty
  | cons member others ih =>
      intro fuel rest enough
      have pass := each member List.mem_cons_self
      cases fuel with
      | zero => simp at enough
      | succ fuel =>
          cases others with
          | nil =>
              simp only [List.map_cons, List.map_nil, separated_singleton] at enough ⊢
              rw [skipMembers_member pass (by omega) (by decide), if_pos rfl]
          | cons next more =>
              have left := ih (List.cons_ne_nil _ _)
                (fun other among => each other (List.mem_cons_of_mem _ among)) fuel rest
              simp only [List.map_cons, separated_cons_cons, List.length_append,
                List.length_cons, List.append_assoc, List.cons_append] at enough left ⊢
              rw [skipMembers_member pass (by omega) (by decide), if_neg (by decide), if_pos rfl]
              exact left (by omega)

/-- After the white space of an object its closing brace or the quote of a name is next. -/
theorem skipBlank_members (members : List Member) (rest : Bytes) :
    skipBlank (separated (members.map Member.text) ++ closeObject :: rest) =
      match members with
      | [] => closeObject :: rest
      | member :: others => quoteMark :: (separated ((member.inner ++ member.after) ::
          others.map Member.text) ++ closeObject :: rest) := by
  cases members with
  | nil => exact skipBlank_cons (by decide) rest
  | cons member others =>
      have shape : separated ((member :: others).map Member.text) ++ closeObject :: rest =
          member.before ++ quoteMark :: (separated ((member.inner ++ member.after) ::
            others.map Member.text) ++ closeObject :: rest) := by
        cases others <;> simp [Member.text]
      rw [shape, skipBlank_to member.spaced.1 (by decide)]

theorem skipValue_objectText (fuel : Nat) (gap : Bytes) (members : List Member) (rest : Bytes) :
    skipValue (fuel + 1) (objectText gap members ++ rest) =
      match skipBlank (gap ++ (separated (members.map Member.text) ++ closeObject :: rest)) with
      | next :: after =>
        if next = closeObject then .ok after else skipMembers fuel (next :: after)
      | [] => .error .truncated := by
  rw [objectText, List.append_assoc, List.append_assoc, List.cons_append, skipValue,
    skipBlank_cons (by decide)]
  rfl

theorem passes_objectText {gap : Bytes} {members : List Member} (blank : Blank gap)
    (each : ∀ member ∈ members, Passes member.value) : Passes (objectText gap members) := by
  intro fuel rest enough _
  cases fuel with
  | zero => simp [objectText] at enough
  | succ fuel =>
      rw [skipValue_objectText, skipBlank_append blank]
      cases members with
      | nil =>
          rw [skipBlank_members]
          exact if_pos rfl
      | cons member others =>
          have length : (separated ((member :: others).map Member.text)).length < fuel := by
            simp only [objectText, List.length_append, List.length_cons] at enough
            omega
          have skipped := skipMembers_separated (List.cons_ne_nil _ _) each fuel rest length
          rw [← skipMembers_skipBlank, skipBlank_members] at skipped
          rw [skipBlank_members]
          simp only [if_neg (show quoteMark ≠ closeObject by decide), skipped]

/-- Any value is passed over, however deep it is. -/
theorem IsValue.passes {text : Bytes} (value : IsValue text) : Passes text := by
  induction value with
  | null => exact passes_word (by decide)
  | isTrue => exact passes_word (by decide)
  | isFalse => exact passes_word (by decide)
  | number number => exact passes_number number
  | string isBody => exact passes_inQuotes isBody
  | list blank values ih => exact passes_listText blank values ih
  | object blank _ ih => exact passes_objectText blank ih

end TemplateBuild.Json

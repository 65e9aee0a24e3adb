import Mathlib
import TemplateBuild.Engine.Listing
import TemplateBuild.Proofs.Json.Values

/-!
# How an entry can be spelled

An object spells an entry if it gives each of the set fields once, and the others at most as null.
However it does so, this entry is read from it.  An object that gives a known member twice, or as
something that is no string and not null, is never read as an entry.
-/

set_option autoImplicit false

namespace TemplateBuild

open Json

namespace DownloadEntry

/-! ## What an object says -/

def valueOf (entry : DownloadEntry) : Field → Option String
  | .name => entry.name
  | .downloadUrl => entry.downloadUrl
  | .browserDownloadUrl => entry.browserDownloadUrl
  | .htmlUrl => entry.htmlUrl

/-- The name of the member is that of the field, in one of its spellings. -/
def Names (member : Member) (field : Field) : Prop :=
  Spells field.key member.name

inductive Tells : Option String → Bytes → Prop
  | text {text : String} {body : Bytes} : Spells text body → Tells (some text) (inQuotes body)
  | null : Tells none nullWord

/-- The members of an object that spells an entry.  Their other names are arbitrary, and may be
there more than once. -/
structure Written (members : List Member) (entry : DownloadEntry) : Prop where
  names : ∀ member ∈ members, ∃ name, Spells name member.name
  once : members.Pairwise fun first second => ∀ field, Names first field → ¬ Names second field
  set : ∀ field text, entry.valueOf field = some text →
    ∃ member ∈ members, Names member field ∧ Tells (some text) member.value
  unset : ∀ field, entry.valueOf field = none →
    ∀ member ∈ members, Names member field → Tells none member.value

/-- A value of a kind that no field can have. -/
def Mistyped (value : Bytes) : Prop :=
  value ≠ nullWord ∧ ∀ body, Body body → value ≠ inQuotes body

inductive Faulty (members : List Member) : Prop
  | twice {first second : Member} {field : Field} : [first, second].Sublist members →
      Names first field → Names second field → Faulty members
  | mistyped {member : Member} {field : Field} : member ∈ members → Names member field →
      Mistyped member.value → Faulty members

/-- A text that is an object with these members. -/
def IsObject (members : List Member) (text : Bytes) : Prop :=
  (∀ member ∈ members, IsValue member.value) ∧ ∃ before gap after,
    Blank before ∧ Blank gap ∧ Blank after ∧ text = before ++ objectText gap members ++ after

/-! ## One member -/

theorem Field.ofKey?_eq_some_iff {key : String} {field : Field} :
    Field.ofKey? key = some field ↔ field.key = key := by
  constructor
  · intro found
    simpa using List.find?_some found
  · rintro rfl
    cases field <;> decide

theorem readOptionalText_of_tells {value : Option String} {text gap : Bytes}
    (tells : Tells value text) (blank : Blank gap) (rest : Bytes) :
    readOptionalText (gap ++ (text ++ rest)) = .ok (value, rest) := by
  cases tells with
  | @text text body spells =>
      rw [readOptionalText, skipBlank_append blank, inQuotes, List.append_assoc, List.cons_append,
        skipBlank_cons (by decide)]
      simp only [if_pos, List.singleton_append, readText_of_spells spells]
      rfl
  | null =>
      rw [readOptionalText, skipBlank_append blank, nullWord, List.cons_append,
        skipBlank_cons (by decide)]
      simp only [skipWord_append]
      rfl

/-- A value is null, or a string, or can be told from both by its first byte. -/
theorem kind_of_value {text : Bytes} (value : IsValue text) :
    text = nullWord ∨ (∃ body, Body body ∧ text = inQuotes body) ∨
      ∃ first others, text = first :: others ∧ isBlank first = false ∧ first ≠ quoteMark ∧
        first ≠ 0x6E := by
  cases value with
  | null => exact .inl rfl
  | string isBody => exact .inr (.inl ⟨_, isBody, rfl⟩)
  | isTrue => exact .inr (.inr ⟨_, _, rfl, by decide, by decide, by decide⟩)
  | isFalse => exact .inr (.inr ⟨_, _, rfl, by decide, by decide, by decide⟩)
  | list _ _ => exact .inr (.inr ⟨_, _, rfl, by decide, by decide, by decide⟩)
  | object _ _ => exact .inr (.inr ⟨_, _, rfl, by decide, by decide, by decide⟩)
  | number number =>
      refine .inr (.inr ?_)
      cases number with
      | positive isWhole _ _ =>
          obtain ⟨first, others, rfl, digit⟩ := isWhole.begins
          obtain ⟨visible, other⟩ := other_of_isDigit digit
          simp only [List.mem_cons, not_or] at other
          exact ⟨first, _, rfl, visible, other.1, other.2.1⟩
      | negative _ _ _ => exact ⟨_, _, rfl, by decide, by decide, by decide⟩

theorem of_readOptionalText {text gap rest left : Bytes} {result : Option String}
    (value : IsValue text) (blank : Blank gap)
    (read : readOptionalText (gap ++ (text ++ rest)) = .ok (result, left)) :
    left = rest ∧ ¬ Mistyped text := by
  rcases kind_of_value value with rfl | ⟨body, isBody, rfl⟩ |
    ⟨first, others, rfl, visible, other, another⟩
  · rw [readOptionalText_of_tells .null blank] at read
    cases read
    exact ⟨rfl, fun mistyped => mistyped.1 rfl⟩
  · refine ⟨?_, fun mistyped => mistyped.2 body isBody rfl⟩
    rw [readOptionalText, skipBlank_append blank, inQuotes, List.append_assoc, List.cons_append,
      skipBlank_cons (by decide)] at read
    simp only [if_pos, List.singleton_append] at read
    cases inner : readText (body ++ quoteMark :: rest) with
    | error fault =>
        rw [inner] at read
        cases read
    | ok value =>
        rw [inner] at read
        cases read
        exact left_of_readText isBody inner
  · rw [readOptionalText, skipBlank_append blank, List.cons_append, skipBlank_cons visible] at read
    simp only [if_neg other, if_neg another] at read
    cases read

variable {member : Member} {fields : Fields} {rest : Bytes}

/-- What follows the name of a member. -/
def afterName (member : Member) (rest : Bytes) : Bytes :=
  member.between ++ colon :: (member.beyond ++ (member.value ++ rest))

/-- A member whose name is read is judged by it. -/
theorem readMember_of_readText {key : String}
    (read : readText (member.name ++ quoteMark :: afterName member rest) =
      .ok (key, afterName member rest)) :
    readMember fields (member.inner ++ rest) = match Field.ofKey? key with
      | some field =>
        if (fields.lookup field).isSome then .error .mismatched
        else (readOptionalText (member.beyond ++ (member.value ++ rest))).map
          fun (value, left) => ((field, value) :: fields, left)
      | none =>
        let input := member.beyond ++ (member.value ++ rest)
        (skipValue (input.length + 1) input).map fun left => (fields, left) := by
  have shape : member.inner ++ rest = member.name ++ quoteMark :: afterName member rest := by
    simp [Member.inner, afterName]
  have colonNext : skipBlank (afterName member rest) =
      colon :: (member.beyond ++ (member.value ++ rest)) :=
    skipBlank_to member.spaced.2.1 (by decide) _
  rw [readMember, shape, read]
  simp only [bind, Except.bind, colonNext, if_pos]
  cases Field.ofKey? key with
  | none =>
      simp only [Bool.false_eq_true, if_false]
      cases skipValue ((member.beyond ++ (member.value ++ rest)).length + 1)
        (member.beyond ++ (member.value ++ rest)) <;> rfl
  | some field => rfl

/-- A member with another name leaves no trace. -/
theorem readMember_of_unknown {name : String} (spells : Spells name member.name)
    (unknown : ∀ field, ¬ Names member field) (value : IsValue member.value) (stops : Stops rest) :
    readMember fields (member.inner ++ rest) = .ok (fields, rest) := by
  have noField : Field.ofKey? name = none := by
    cases found : Field.ofKey? name with
    | none => rfl
    | some field =>
        rw [← Field.ofKey?_eq_some_iff.mp found] at spells
        exact absurd spells (unknown field)
  have skipped := value.passes ((member.beyond ++ (member.value ++ rest)).length + 1) rest
    (by simp only [List.length_append]; omega) stops
  rw [readMember_of_readText (readText_of_spells spells _), noField]
  simp only [skipValue_append _ member.spaced.2.2.1, skipped]
  rfl

theorem readMember_of_known {field : Field} {value : Option String} (names : Names member field)
    (tells : Tells value member.value) (fresh : fields.lookup field = none) :
    readMember fields (member.inner ++ rest) = .ok ((field, value) :: fields, rest) := by
  rw [readMember_of_readText (readText_of_spells names _), Field.ofKey?_eq_some_iff.mpr rfl]
  simp only [fresh, Option.isSome_none, Bool.false_eq_true, if_false,
    readOptionalText_of_tells tells member.spaced.2.2.1]
  rfl

/-- What is known of a member that was not refused. -/
theorem of_readMember {left : Bytes} {after : Fields} (value : IsValue member.value)
    (stops : Stops rest) (read : readMember fields (member.inner ++ rest) = .ok (after, left)) :
    left = rest ∧
    (∀ field, (fields.lookup field).isSome → (after.lookup field).isSome) ∧
    ∀ field, Names member field →
      fields.lookup field = none ∧ (after.lookup field).isSome ∧ ¬ Mistyped member.value := by
  have shape : member.inner ++ rest = member.name ++ quoteMark :: afterName member rest := by
    simp [Member.inner, afterName]
  cases named : readText (member.name ++ quoteMark :: afterName member rest) with
  | error fault =>
      rw [readMember, shape, named] at read
      cases read
  | ok result =>
      obtain ⟨key, following⟩ := result
      obtain rfl := left_of_readText member.named named
      rw [readMember_of_readText named] at read
      have sameKey : ∀ field, Names member field → Field.ofKey? key = some field := by
        intro field names
        have again := readText_of_spells names (afterName member rest)
        rw [named] at again
        cases again
        exact Field.ofKey?_eq_some_iff.mpr rfl
      cases known : Field.ofKey? key with
      | none =>
          have skipped := value.passes ((member.beyond ++ (member.value ++ rest)).length + 1) rest
            (by simp only [List.length_append]; omega) stops
          simp only [known, skipValue_append _ member.spaced.2.2.1, skipped] at read
          cases read
          refine ⟨rfl, fun _ present => present, ?_⟩
          intro field names
          rw [sameKey field names] at known
          cases known
      | some field =>
          simp only [known] at read
          split at read
          · cases read
          · next fresh =>
            cases inner : readOptionalText (member.beyond ++ (member.value ++ rest)) with
            | error fault =>
                rw [inner] at read
                cases read
            | ok result =>
                rw [inner] at read
                cases read
                obtain ⟨same, typed⟩ := of_readOptionalText value member.spaced.2.2.1 inner
                refine ⟨same, ?_, ?_⟩
                · intro other present
                  rw [List.lookup_cons]
                  split
                  · rfl
                  · exact present
                · intro other names
                  have equal := (sameKey other names).symm.trans known
                  cases equal
                  exact ⟨Option.not_isSome_iff_eq_none.mp fresh, by simp, typed⟩

/-! ## All members -/

/-- What is left of an object. -/
def ahead (first : Bool) (rest : Bytes) (members : List Member) : Bytes :=
  remaining closeObject rest first (members.map Member.text)

theorem length_lt_ahead (first : Bool) (rest : Bytes) (members : List Member) :
    members.length < (ahead first rest members).length := by
  have nonempty : ∀ text ∈ members.map Member.text, text ≠ [] := by
    intro text member
    obtain ⟨member, _, rfl⟩ := List.mem_map.mp member
    simp [Member.text]
  have longer := length_lt_remaining nonempty closeObject rest first
  rwa [List.length_map] at longer

theorem stops_ahead {gap : Bytes} (blank : Blank gap) (rest : Bytes) (members : List Member) :
    Stops (gap ++ ahead false rest members) :=
  stops_remaining blank (by decide) rest _

theorem readMembers_nil {first : Bool} {fuel : Nat} {gap : Bytes} (blank : Blank gap) :
    readMembers fields first (fuel + 1) (gap ++ ahead first rest []) = .ok (fields, rest) := by
  rw [readMembers, ahead, List.map_nil, remaining, skipBlank_to blank (by decide)]
  exact if_pos rfl

/-- A member is read behind its quote, and the others behind it. -/
theorem readMembers_cons {first : Bool} {fuel : Nat} {gap : Bytes} (blank : Blank gap)
    (others : List Member) :
    readMembers fields first (fuel + 1) (gap ++ ahead first rest (member :: others)) =
      readMember fields (member.inner ++ (member.after ++ ahead false rest others)) >>=
        fun (after, left) => readMembers after false fuel left := by
  have quote : skipBlank (member.text ++ ahead false rest others) =
      quoteMark :: (member.inner ++ (member.after ++ ahead false rest others)) := by
    rw [Member.text, List.append_assoc, List.append_assoc, List.cons_append]
    exact skipBlank_to member.spaced.1 (by decide) _
  rw [readMembers, ahead, List.map_cons, remaining, skipBlank_append blank, ← ahead]
  cases first with
  | true =>
      rw [if_pos rfl, List.nil_append, quote]
      rfl
  | false =>
      rw [if_neg Bool.false_ne_true, List.singleton_append, skipBlank_cons (by decide)]
      simp only [if_neg (show comma ≠ closeObject by decide), Bool.false_eq_true, if_false, if_pos,
        quote]

theorem field_unique {field other : Field} {bytes : Bytes} (spells : Spells field.key bytes)
    (again : Spells other.key bytes) : field = other := by
  have same := Field.ofKey?_eq_some_iff.mpr (spells.unique again)
  rw [Field.ofKey?_eq_some_iff.mpr rfl] at same
  exact (Option.some.inj same).symm

/-- A member that can be read, if it does not come a second time. -/
structure Readable (member : Member) : Prop where
  value : IsValue member.value
  name : ∃ name, Spells name member.name
  told : ∀ field, Names member field → ∃ value, Tells value member.value

/-- What the members tell has been added to the fields. -/
structure Records (members : List Member) (before after : Fields) : Prop where
  told : ∀ member ∈ members, ∀ field, Names member field →
    ∃ value, Tells value member.value ∧ after.lookup field = some value
  kept : ∀ field, (∀ member ∈ members, ¬ Names member field) →
    after.lookup field = before.lookup field

theorem readMember_of_readable (readable : Readable member)
    (fresh : ∀ field, Names member field → fields.lookup field = none) (stops : Stops rest) :
    ∃ after, readMember fields (member.inner ++ rest) = .ok (after, rest) ∧
      Records [member] fields after := by
  by_cases known : ∃ field, Names member field
  · obtain ⟨field, names⟩ := known
    obtain ⟨value, tells⟩ := readable.told field names
    refine ⟨_, readMember_of_known names tells (fresh field names), ?_, ?_⟩
    · intro other among another named
      obtain rfl := List.mem_singleton.mp among
      obtain rfl := field_unique names named
      exact ⟨value, tells, by simp⟩
    · intro another nobody
      have different : another ≠ field := by
        rintro rfl
        exact nobody member List.mem_cons_self names
      rw [List.lookup_cons, beq_false_of_ne different]
  · obtain ⟨name, spells⟩ := readable.name
    have unknown : ∀ field, ¬ Names member field := fun field names => known ⟨field, names⟩
    refine ⟨fields, readMember_of_unknown spells unknown readable.value stops, ?_,
      fun _ _ => rfl⟩
    intro other among another named
    obtain rfl := List.mem_singleton.mp among
    exact absurd named (unknown another)

theorem Records.cons {others : List Member} {before middle after : Fields}
    (first : Records [member] before middle) (second : Records others middle after)
    (once : ∀ other ∈ others, ∀ field, Names member field → ¬ Names other field) :
    Records (member :: others) before after := by
  refine ⟨?_, ?_⟩
  · intro other among field named
    rcases List.mem_cons.mp among with rfl | among
    · rw [second.kept field fun another later => once another later field named]
      exact first.told other List.mem_cons_self field named
    · exact second.told other among field named
  · intro field nobody
    rw [second.kept field fun other among => nobody other (List.mem_cons_of_mem _ among)]
    refine first.kept field fun other among => ?_
    rw [List.mem_singleton.mp among]
    exact nobody member List.mem_cons_self

/-- Members that are readable are read, if none names a field again. -/
theorem readMembers_of_readable {members : List Member}
    (readable : ∀ member ∈ members, Readable member)
    (once : members.Pairwise fun first second => ∀ field, Names first field → ¬ Names second field)
    (first : Bool) (fuel : Nat) (gap : Bytes) (blank : Blank gap) (enough : members.length < fuel)
    (fresh : ∀ member ∈ members, ∀ field, Names member field → fields.lookup field = none) :
    ∃ after, readMembers fields first fuel (gap ++ ahead first rest members) =
      .ok (after, rest) ∧ Records members fields after := by
  induction members generalizing fields first fuel gap with
  | nil =>
      cases fuel with
      | zero => cases enough
      | succ fuel => exact ⟨fields, readMembers_nil blank, by simp, fun _ _ => rfl⟩
  | cons member others ih =>
      rw [List.pairwise_cons] at once
      cases fuel with
      | zero => cases enough
      | succ fuel =>
          rw [List.length_cons] at enough
          obtain ⟨middle, read, records⟩ := readMember_of_readable
            (readable member List.mem_cons_self) (fresh member List.mem_cons_self)
            (stops_ahead member.spaced.2.2.2 rest others)
          have stillFresh : ∀ other ∈ others, ∀ field, Names other field →
              middle.lookup field = none := by
            intro other among field named
            rw [records.kept field ?_]
            · exact fresh other (List.mem_cons_of_mem _ among) field named
            · intro another isMember
              obtain rfl := List.mem_singleton.mp isMember
              exact fun names => once.1 other among field names named
          obtain ⟨after, ran, more⟩ := ih
            (fun other among => readable other (List.mem_cons_of_mem _ among)) once.2 false fuel
            member.after member.spaced.2.2.2 (by omega) stillFresh
          refine ⟨after, ?_, records.cons more once.1⟩
          rw [readMembers_cons blank, read]
          exact ran

/-- Members with a fault, where some fields have been read before. -/
inductive Unreadable (fields : Fields) (members : List Member) : Prop
  | repeated {member : Member} {field : Field} : member ∈ members → Names member field →
      (fields.lookup field).isSome → Unreadable fields members
  | faulty : Faulty members → Unreadable fields members

/-- The fault of a list of members is in the first one, or the others have it. -/
theorem Unreadable.others {others : List Member} {after : Fields}
    (unreadable : Unreadable fields (member :: others))
    (kept : ∀ field, (fields.lookup field).isSome → (after.lookup field).isSome)
    (passed : ∀ field, Names member field → fields.lookup field = none ∧
      (after.lookup field).isSome ∧ ¬ Mistyped member.value) : Unreadable after others := by
  cases unreadable with
  | @repeated _ field among names present =>
      rcases List.mem_cons.mp among with rfl | among
      · rw [(passed field names).1] at present
        cases present
      · exact .repeated among names (kept field present)
  | faulty fault =>
      cases fault with
      | @twice first second field twice names again =>
          cases twice with
          | cons _ inner => exact .faulty (.twice inner names again)
          | cons_cons _ inner =>
              exact .repeated (List.singleton_sublist.mp inner) again (passed field names).2.1
      | @mistyped _ field among names mistyped =>
          rcases List.mem_cons.mp among with rfl | among
          · exact absurd mistyped (passed field names).2.2
          · exact .faulty (.mistyped among names mistyped)

theorem readMembers_of_unreadable {members : List Member}
    (values : ∀ member ∈ members, IsValue member.value) (first : Bool) (fuel : Nat) (gap : Bytes)
    (blank : Blank gap) (unreadable : Unreadable fields members) (result : Fields × Bytes) :
    readMembers fields first fuel (gap ++ ahead first rest members) ≠ .ok result := by
  induction members generalizing fields first fuel gap with
  | nil =>
      rcases unreadable with ⟨among, _, _⟩ | ⟨⟨twice, _, _⟩ | ⟨among, _, _⟩⟩
      · cases among
      · cases twice
      · cases among
  | cons member others ih =>
      cases fuel with
      | zero => simp [readMembers]
      | succ fuel =>
          rw [readMembers_cons blank]
          cases read : readMember fields
              (member.inner ++ (member.after ++ ahead false rest others)) with
          | error fault => simp [bind, Except.bind]
          | ok value =>
              obtain ⟨after, left⟩ := value
              obtain ⟨rfl, kept, passed⟩ := of_readMember (values member List.mem_cons_self)
                (stops_ahead member.spaced.2.2.2 rest others) read
              exact ih (fun other among => values other (List.mem_cons_of_mem _ among)) false fuel
                member.after member.spaced.2.2.2 (unreadable.others kept passed)

/-! ## Whole entries -/

theorem Written.readable {members : List Member} {entry : DownloadEntry}
    (written : Written members entry) (values : ∀ member ∈ members, IsValue member.value) :
    ∀ member ∈ members, Readable member := by
  intro member among
  refine ⟨values member among, written.names member among, ?_⟩
  intro field names
  cases known : entry.valueOf field with
  | none => exact ⟨none, written.unset field known member among names⟩
  | some text =>
      obtain ⟨other, isMember, othersName, tells⟩ := written.set field text known
      have symmetric : Std.Symm fun first second : Member =>
          ∀ field, Names first field → ¬ Names second field :=
        ⟨fun _ _ apart field names again => apart field again names⟩
      have same : member = other := by
        by_contra different
        exact written.once.forall among isMember different field names othersName
      rw [same]
      exact ⟨some text, tells⟩

theorem ofFields_of_lookup {entry : DownloadEntry} {fields : Fields}
    (same : ∀ field, (fields.lookup field).join = entry.valueOf field) :
    ofFields fields = entry := by
  rw [ofFields]
  simp only [same]
  rfl

theorem Tells.unique {value other : Option String} {text : Bytes} (tells : Tells value text)
    (again : Tells other text) : value = other := by
  have read := readOptionalText_of_tells tells blank_nil []
  rw [readOptionalText_of_tells again blank_nil] at read
  cases read
  rfl

theorem Written.ofFields_eq {members : List Member} {entry : DownloadEntry} {fields : Fields}
    (written : Written members entry) (records : Records members [] fields) :
    ofFields fields = entry := by
  refine ofFields_of_lookup fun field => ?_
  cases known : entry.valueOf field with
  | some text =>
      obtain ⟨member, among, names, tells⟩ := written.set field text known
      obtain ⟨value, told, recorded⟩ := records.told member among field names
      rw [recorded, told.unique tells]
      rfl
  | none =>
      by_cases named : ∃ member ∈ members, Names member field
      · obtain ⟨member, among, names⟩ := named
        obtain ⟨value, told, recorded⟩ := records.told member among field names
        rw [recorded, told.unique (written.unset field known member among names)]
        rfl
      · push Not at named
        rw [records.kept field named]
        rfl

theorem read_objectText {members : List Member} {before gap : Bytes} (blankBefore : Blank before)
    (rest : Bytes) : read (before ++ (objectText gap members ++ rest)) =
      (readMembers [] true ((gap ++ ahead true rest members).length + 1)
        (gap ++ ahead true rest members)).map fun (fields, left) => (ofFields fields, left) := by
  rw [read, skipBlank_append blankBefore, objectText, List.append_assoc, List.append_assoc,
    List.cons_append, skipBlank_cons (by decide), List.singleton_append, separated_append,
    ← ahead]
  rfl

/-- An entry is read from each object that spells it, whatever follows. -/
theorem read_of_written {members : List Member} {entry : DownloadEntry} {before gap : Bytes}
    (blankBefore : Blank before) (blank : Blank gap)
    (values : ∀ member ∈ members, IsValue member.value) (written : Written members entry)
    (rest : Bytes) : read (before ++ (objectText gap members ++ rest)) = .ok (entry, rest) := by
  have enough := length_lt_ahead true rest members
  obtain ⟨fields, ran, records⟩ : ∃ fields, readMembers []
      true ((gap ++ ahead true rest members).length + 1) (gap ++ ahead true rest members) =
        .ok (fields, rest) ∧ Records members [] fields := by
    refine readMembers_of_readable (written.readable values) written.once true _ gap blank ?_ ?_
    · rw [List.length_append]
      omega
    · exact fun _ _ _ _ => rfl
  rw [read_objectText blankBefore, ran]
  exact congrArg (fun entry => Except.ok (entry, rest)) (written.ofFields_eq records)

theorem read_of_faulty {members : List Member} {before gap : Bytes} (blankBefore : Blank before)
    (blank : Blank gap) (values : ∀ member ∈ members, IsValue member.value)
    (faulty : Faulty members) (rest : Bytes) (result : DownloadEntry × Bytes) :
    read (before ++ (objectText gap members ++ rest)) ≠ .ok result := by
  rw [read_objectText blankBefore]
  cases ran : readMembers [] true ((gap ++ ahead true rest members).length + 1)
      (gap ++ ahead true rest members) with
  | error fault => simp [Except.map]
  | ok value =>
      exact absurd ran (readMembers_of_unreadable values true _ gap blank (.faulty faulty) _)

/-- An object is read as the entry that it spells, whatever the order of its members, the way its
texts are written, the white space, and the members that are none of an entry.  One with a known
member twice, or of another type, is not read as any entry. -/
theorem decode_of_isObject {members : List Member} {text : Bytes}
    (isObject : IsObject members text) :
    (∀ entry, Written members entry → decode text = .ok entry) ∧
    (Faulty members → ∀ entry, decode text ≠ .ok entry) := by
  obtain ⟨values, before, gap, after, blankBefore, blank, blankAfter, rfl⟩ := isObject
  rw [decode, readWhole, List.append_assoc]
  refine ⟨?_, ?_⟩
  · intro entry written
    rw [read_of_written blankBefore blank values written]
    simp only [bind, Except.bind, skipBlank_of_blank blankAfter, List.isEmpty_nil, if_true]
  · intro faulty entry
    have refused := read_of_faulty blankBefore blank values faulty after
    cases ran : read (before ++ (objectText gap members ++ after)) with
    | error fault => simp [bind, Except.bind]
    | ok value => exact absurd ran (refused value)

end DownloadEntry

/-! ## Listings -/

namespace DownloadListing

variable {items : List Item} {entries : DownloadListing}

/-- The value is an object that spells the entry. -/
def Spelled (item : Item) (entry : DownloadEntry) : Prop :=
  ∃ gap members, Blank gap ∧ (∀ member ∈ members, IsValue member.value) ∧
    DownloadEntry.Written members entry ∧ item.value = objectText gap members

def ahead (first : Bool) (rest : Bytes) (items : List Item) : Bytes :=
  remaining closeList rest first (items.map Item.text)

/-- An entry is read from its brace on, and the others behind it. -/
theorem readEntries_cons {item : Item} {entry : DownloadEntry} (spelled : Spelled item entry)
    {first : Bool} {fuel : Nat} {gap : Bytes} (blank : Blank gap) (rest : Bytes)
    (others : List Item) :
    readEntries first (fuel + 1) (gap ++ ahead first rest (item :: others)) =
      (readEntries false fuel (item.after ++ ahead false rest others)).map
        fun (entries, left) => (entry :: entries, left) := by
  obtain ⟨inner, members, blankInner, values, written, value⟩ := spelled
  have read := DownloadEntry.read_of_written blank_nil blankInner values written
    (item.after ++ ahead false rest others)
  have shape : item.text ++ ahead false rest others =
      item.before ++ (objectText inner members ++ (item.after ++ ahead false rest others)) := by
    simp [Item.text, value]
  obtain ⟨tail, brace⟩ : ∃ tail,
      objectText inner members ++ (item.after ++ ahead false rest others) = openObject :: tail :=
    ⟨_, rfl⟩
  rw [List.nil_append, brace] at read
  have opened : skipBlank (item.text ++ ahead false rest others) = openObject :: tail := by
    rw [shape, brace, skipBlank_to item.spaced.1 (by decide)]
  rw [readEntries, ahead, List.map_cons, remaining, skipBlank_append blank, ← ahead]
  cases first with
  | true =>
      rw [if_pos rfl, List.nil_append, opened]
      simp only [if_neg (show openObject ≠ closeList by decide), if_true, read, bind, Except.bind]
      cases readEntries false fuel (item.after ++ ahead false rest others) <;> rfl
  | false =>
      rw [if_neg Bool.false_ne_true, List.singleton_append, skipBlank_cons (by decide)]
      simp only [if_neg (show comma ≠ closeList by decide), Bool.false_eq_true, if_false, if_true,
        opened, if_neg (show openObject ≠ closeList by decide), read, bind, Except.bind]
      cases readEntries false fuel (item.after ++ ahead false rest others) <;> rfl

theorem readEntries_of_spelled (spelled : List.Forall₂ Spelled items entries) (first : Bool)
    (fuel : Nat) (gap : Bytes) (blank : Blank gap) (enough : items.length < fuel) (rest : Bytes) :
    readEntries first fuel (gap ++ ahead first rest items) = .ok (entries, rest) := by
  induction spelled generalizing first fuel gap with
  | nil =>
      cases fuel with
      | zero => cases enough
      | succ fuel =>
          rw [readEntries, ahead, List.map_nil, remaining, skipBlank_to blank (by decide)]
          exact if_pos rfl
  | @cons item entry others more isSpelled _ ih =>
      cases fuel with
      | zero => cases enough
      | succ fuel =>
          rw [List.length_cons] at enough
          rw [readEntries_cons isSpelled blank, ih false fuel item.after item.spaced.2 (by omega)]
          rfl

theorem length_lt_ahead (spelled : List.Forall₂ Spelled items entries) (first : Bool)
    (rest : Bytes) : items.length < (ahead first rest items).length := by
  have nonempty : ∀ text ∈ items.map Item.text, text ≠ [] := by
    induction spelled with
    | nil => simp
    | cons isSpelled _ ih =>
        obtain ⟨gap, members, _, _, _, value⟩ := isSpelled
        rw [List.map_cons, List.forall_mem_cons]
        exact ⟨by simp [Item.text, value, objectText], ih⟩
  have longer := length_lt_remaining nonempty closeList rest first
  rwa [List.length_map] at longer

/-- A listing is read as the entries that its objects spell, in their order. -/
theorem decode_of_spelled (spelled : List.Forall₂ Spelled items entries) {before gap after : Bytes}
    (blankBefore : Blank before) (blank : Blank gap) (blankAfter : Blank after) :
    decode (before ++ listText gap items ++ after) = .ok entries := by
  have opened : skipBlank (before ++ listText gap items ++ after) =
      openList :: (gap ++ ahead true after items) := by
    rw [List.append_assoc, listText, List.append_assoc, List.append_assoc, List.cons_append,
      skipBlank_to blankBefore (by decide), List.singleton_append, separated_append, ← ahead]
  have enough := length_lt_ahead spelled true after
  have ran := readEntries_of_spelled spelled true ((gap ++ ahead true after items).length + 1) gap
    blank (by rw [List.length_append]; omega) after
  rw [decode, readWhole, read, opened]
  simp only [if_true, ran, bind, Except.bind, skipBlank_of_blank blankAfter, List.isEmpty_nil]

end DownloadListing

namespace DownloadEntry

/-! ## An entry with an escape, a null and a member that it does not have -/

/-- `\u006E` and the rest of `name`. -/
def escapedName : Bytes :=
  backslash :: 0x75 :: [0x30, 0x30, 0x36, 0x45] ++ Bytes.ofString "ame"

theorem spells_escapedName : Spells "name" escapedName := by
  have digits : FourDigits (((0 * 16 + 0) * 16 + 6) * 16 + 14) [0x30, 0x30, 0x36, 0x45] :=
    .mk (.decimal (by decide) rfl) (.decimal (by decide) rfl) (.decimal (by decide) rfl)
      (.upper (by decide) (by decide) rfl)
  exact .cons (.long digits) (spells_ofString "ame" (by decide))

/-- A member with nothing around its parts. -/
def tight (name value : Bytes) (named : Body name) : Member :=
  ⟨[], name, [], [], value, [], ⟨blank_nil, blank_nil, blank_nil, blank_nil⟩, named⟩

def sampleMembers : List Member :=
  [tight (Bytes.ofString "x") (listText [] [⟨[], nullWord, [], blank_nil, blank_nil⟩])
      (spells_ofString "x" (by decide)).body,
    tight escapedName (inQuotes (Bytes.ofString "e")) spells_escapedName.body,
    tight (Bytes.ofString "html_url") nullWord
      (spells_ofString "html_url" (by decide)).body]

def repeatedMembers : List Member :=
  [tight escapedName nullWord spells_escapedName.body,
    tight (Bytes.ofString "name") nullWord (spells_ofString "name" (by decide)).body]

theorem written_sampleMembers : Written sampleMembers ⟨some "e", none, none, none⟩ := by
  have other : Spells "x" (Bytes.ofString "x") := spells_ofString _ (by decide)
  have html : Spells "html_url" (Bytes.ofString "html_url") := spells_ofString _ (by decide)
  have name : ∀ field : Field, Spells field.key escapedName → field = .name :=
    fun field names => field_unique names spells_escapedName
  have unknown : ∀ field : Field, ¬ Spells field.key (Bytes.ofString "x") := by
    intro field names
    have key := names.unique other
    cases field <;> simp [Field.key] at key
  have page : ∀ field : Field, Spells field.key (Bytes.ofString "html_url") → field = .htmlUrl :=
    fun field names => field_unique names html
  refine ⟨?_, ?_, ?_, ?_⟩
  · simp only [sampleMembers, List.forall_mem_cons, tight]
    exact ⟨⟨_, other⟩, ⟨_, spells_escapedName⟩, ⟨_, html⟩, by simp⟩
  · simp only [sampleMembers, List.pairwise_cons, List.forall_mem_cons, tight, Names]
    refine ⟨⟨fun field names => absurd names (unknown field),
      fun field names => absurd names (unknown field), by simp⟩, ⟨?_, by simp⟩, by simp⟩
    intro field names again
    have same := (name field names).symm.trans (page field again)
    cases same
  · intro field text known
    cases field with
    | name =>
        cases known
        exact ⟨tight escapedName (inQuotes (Bytes.ofString "e")) spells_escapedName.body,
          by simp [sampleMembers], spells_escapedName, .text (spells_ofString _ (by decide))⟩
    | downloadUrl => cases known
    | browserDownloadUrl => cases known
    | htmlUrl => cases known
  · intro field known
    simp only [sampleMembers, List.forall_mem_cons, tight, Names]
    refine ⟨fun names => absurd names (unknown field), ?_, fun _ => .null, by simp⟩
    intro names
    rw [name field names] at known
    cases known

theorem decode_of_sampleMembers :
    decode (objectText [] sampleMembers) = .ok ⟨some "e", none, none, none⟩ ∧
    ∀ entry, decode (objectText [] repeatedMembers) ≠ .ok entry := by
  have whole : ∀ members, (∀ member ∈ members, IsValue member.value) →
      IsObject members (objectText [] members) := fun members values =>
    ⟨values, [], [], [], blank_nil, blank_nil, blank_nil, by simp⟩
  refine ⟨(decode_of_isObject (whole _ ?_)).1 _ written_sampleMembers,
    (decode_of_isObject (whole _ ?_)).2 ?_⟩
  · simp only [sampleMembers, List.forall_mem_cons, tight]
    exact ⟨.list blank_nil (by simpa using .null),
      .string (spells_ofString "e" (by decide)).body, .null, by simp⟩
  · simp only [repeatedMembers, List.forall_mem_cons, tight]
    exact ⟨.null, .null, by simp⟩
  · have named : Spells Field.name.key (Bytes.ofString "name") := spells_ofString _ (by decide)
    have escaped : Spells Field.name.key escapedName := spells_escapedName
    exact .twice (List.Sublist.refl _) escaped named

end DownloadEntry

end TemplateBuild

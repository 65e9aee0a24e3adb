import TemplateBuild.Proofs.Config.Tables

/-!
# Which tables are accepted

Every setting is checked for itself, so a table is accepted if each of its entries would be on its
own.  There is one exception: the engine has two keys, and the second is not looked at where the
first is set.
-/

set_option autoImplicit false

namespace TemplateBuild

namespace ConfigTable

/-- What is read is no error. -/
def Accepted {α : Type} (result : Except ConfigError α) : Prop :=
  ∃ value, result = .ok value

theorem accepted_map {α β : Type} {result : Except ConfigError α} {change : α → β} :
    Accepted (result.map change) ↔ Accepted result := by
  cases result <;> simp [Accepted, Except.map]

/-- Of two readings in turn both are accepted, if the second does not depend on the first. -/
theorem accepted_bind {α β : Type} {first : Except ConfigError α}
    {next : α → Except ConfigError β} {good rest : Prop} (here : Accepted first ↔ good)
    (each : ∀ value, first = .ok value → (Accepted (next value) ↔ rest)) :
    Accepted (first >>= next) ↔ good ∧ rest := by
  rw [← here]
  cases first with
  | error failure => simp [Accepted, bind, Except.bind]
  | ok value =>
      have second := each value rfl
      simp only [Accepted, bind, Except.bind] at second ⊢
      simp [second]

/-! ## Single settings -/

/-- The value at a key; where there is no entry it is nil. -/
def valueAt (table : ConfigTable) (key : String) : ConfigValue :=
  (table.get? (keyOf key)).getD .nil

/-- A value is of the type and form that its key asks for. -/
def Suits (key : String) (value : ConfigValue) : Prop :=
  match key with
  | "templateExtensions" | "knownHelpers" | "scriptDirectories" => Accepted (readTexts key value)
  | "preserveHierarchy" | "purgeWhitespace" | "knownHelpersOnly" | "offline" | "dryRun" =>
    Accepted (readBoolean key value)
  | "timeoutSecs" => Accepted (readSeconds key value)
  | "failurePolicy" => Accepted (readPolicy key value)
  | _ => Accepted (readText key value)

theorem suits_nil (key : String) : Suits key .nil := by
  unfold Suits
  split <;> exact ⟨none, rfl⟩

theorem readText_eq_none_iff (key : String) {value : ConfigValue} :
    readText key value = .ok none ↔ value = .nil := by
  cases value with
  | nil => simp [readText]
  | text bytes => cases read : asText key (.text bytes) <;> simp [readText, read, Except.map]
  | _ => simp [readText, asText, Except.map]

/-! ## Whole tables -/

/-- A table is accepted if all its keys are known and their values suit them.  The second key of
the engine counts only where there is nothing at the first. -/
theorem read_accepted_iff_suits (table : ConfigTable) (base : Path) :
    Accepted (read table base) ↔ rejectUnknown table.view.listed = .ok () ∧
      ∀ key ∈ keys, (key = "handlebarsName" → valueAt table "engineIdentifier" = .nil) →
        Suits key (valueAt table key) := by
  have known : Accepted (rejectUnknown table.view.listed) ↔
      rejectUnknown table.view.listed = .ok () := ⟨fun ⟨_, same⟩ => same, fun same => ⟨_, same⟩⟩
  rw [read, readView]
  refine accepted_bind known fun _ _ => ?_
  simp only [keys, List.forall_mem_cons, Suits]
  simp only [String.reduceEq, false_implies, true_implies, List.not_mem_nil, implies_true, and_true]
  refine accepted_bind accepted_map fun _ _ => ?_
  refine accepted_bind accepted_map fun _ _ => ?_
  iterate 6 refine accepted_bind Iff.rfl fun _ _ => ?_
  refine accepted_bind Iff.rfl fun engine read => ?_
  change readText _ (valueAt table "engineIdentifier") = .ok engine at read
  have second : Accepted (engine.elim
        (readText "handlebarsName" (valueAt table "handlebarsName"))
        fun engine => .ok (some engine)) ↔
      (valueAt table "engineIdentifier" = .nil →
        Accepted (readText "handlebarsName" (valueAt table "handlebarsName"))) := by
    rw [← readText_eq_none_iff "engineIdentifier", read]
    cases engine <;> simp [Accepted]
  cases engine
  all_goals
    refine accepted_bind second fun _ _ => ?_
    refine accepted_bind accepted_map fun _ _ => ?_
    iterate 7 refine accepted_bind Iff.rfl fun _ _ => ?_
    rw [← and_true (Accepted (readBoolean _ _))]
    exact accepted_bind Iff.rfl fun _ _ => ⟨fun _ => trivial, fun _ => ⟨_, rfl⟩⟩

theorem rejectUnknown_eq_ok_iff {listed : List (Lua.Key ConfigKey)} :
    rejectUnknown listed = .ok () ↔ ∀ key ∈ listed, ∃ name ∈ keys, key = keyOf name := by
  refine ⟨fun accepted key member => ?_, rejectUnknown_of_known⟩
  by_contra unknown
  push Not at unknown
  obtain ⟨name, rejected⟩ := rejectUnknown_of_unknown member unknown
  rw [accepted] at rejected
  cases rejected

section Entries

variable {table : ConfigTable} {name : String} {value : ConfigValue}

theorem mem_entries_iff_valueAt (wellFormed : table.WellFormed) (set : value ≠ .nil) :
    (keyOf name, value) ∈ table.entries ↔ valueAt table name = value := by
  rw [Lua.Table.mem_entries_iff wellFormed, valueAt]
  cases table.get? (keyOf name) with
  | none => simp [set.symm]
  | some held => simp

/-- A table of one entry holds this entry. -/
theorem single_holds (name : String) (value : ConfigValue) :
    (Lua.Table.ofEntries [(keyOf name, value)]).WellFormed ∧
      ∀ key held, (Lua.Table.ofEntries [(keyOf name, value)]).get? key = some held ↔
        key = keyOf name ∧ held = value := by
  obtain ⟨wellFormed, holds⟩ := Lua.Table.ofEntries_holds [(keyOf name, value)] (by simp)
    (by simp [keyOf, Lua.Table.Fits])
  refine ⟨wellFormed, fun key held => ?_⟩
  rw [holds, List.mem_singleton, Prod.mk.injEq]

theorem valueAt_single (name : String) (value : ConfigValue) (other : String) :
    valueAt (Lua.Table.ofEntries [(keyOf name, value)]) other =
      if other = name then value else .nil := by
  obtain ⟨_, holds⟩ := single_holds name value
  rw [valueAt]
  split
  · next same => rw [(holds _ value).mpr ⟨by rw [same], rfl⟩, Option.getD_some]
  · next different =>
    cases found : (Lua.Table.ofEntries [(keyOf name, value)]).get? (keyOf other) with
    | none => rfl
    | some held => exact absurd (keyOf_injective ((holds _ held).mp found).1) different

/-- An entry of its own is accepted if its key is known and its value suits the key. -/
theorem read_single_accepted_iff (entry : Lua.Key ConfigKey × ConfigValue) (base : Path) :
    Accepted (read (Lua.Table.ofEntries [entry]) base) ↔
      ∃ name ∈ keys, entry.1 = keyOf name ∧ Suits name entry.2 := by
  obtain ⟨key, value⟩ := entry
  by_cases known : ∃ name ∈ keys, key = keyOf name
  · obtain ⟨name, known, rfl⟩ := known
    obtain ⟨wellFormed, holds⟩ := single_holds name value
    have listed : rejectUnknown (view (Lua.Table.ofEntries [(keyOf name, value)])).listed =
        .ok () := by
      apply rejectUnknown_of_known
      intro key member
      obtain ⟨⟨_, held⟩, isEntry, rfl⟩ := List.mem_map.mp member
      rw [Lua.Table.mem_entries_iff wellFormed, holds] at isEntry
      exact ⟨name, known, isEntry.1⟩
    rw [read_accepted_iff_suits]
    constructor
    · rintro ⟨_, suits⟩
      refine ⟨name, known, rfl, ?_⟩
      have here := suits name known fun engine => by
        rw [valueAt_single, if_neg (by rw [engine]; decide)]
      rwa [valueAt_single, if_pos rfl] at here
    · rintro ⟨other, _, same, suits⟩
      obtain rfl := keyOf_injective same
      refine ⟨listed, fun key _ _ => ?_⟩
      rw [valueAt_single]
      split
      · next same => exact same ▸ suits
      · exact suits_nil key
  · push Not at known
    obtain ⟨name, failed⟩ := read_of_unknown Lua.Table.empty value known base
    refine iff_of_false ?_ fun ⟨name, isKnown, same, _⟩ => known name isKnown same
    rintro ⟨layer, accepted⟩
    exact absurd (failed.symm.trans accepted) (by simp)

end Entries

/-- The engine is given under its first key. -/
def NamesEngine (table : ConfigTable) : Prop :=
  ∃ engine, engine ≠ .nil ∧ (keyOf "engineIdentifier", engine) ∈ table.entries

theorem namesEngine_iff {table : ConfigTable} (wellFormed : table.WellFormed) :
    NamesEngine table ↔ valueAt table "engineIdentifier" ≠ .nil := by
  constructor
  · rintro ⟨engine, set, member⟩
    rwa [(mem_entries_iff_valueAt wellFormed set).mp member]
  · exact fun set => ⟨_, set, (mem_entries_iff_valueAt wellFormed set).mpr rfl⟩

/-- An entry counts for nothing only if it is the second name of an engine. -/
theorem read_accepted_iff_entry {table : ConfigTable} (wellFormed : table.WellFormed)
    (base : Path) :
    Accepted (read table base) ↔ ∀ entry ∈ table.entries,
      Accepted (read (Lua.Table.ofEntries [entry]) base) ∨
        entry.1 = keyOf "handlebarsName" ∧ NamesEngine table := by
  simp only [read_single_accepted_iff]
  rw [read_accepted_iff_suits, rejectUnknown_eq_ok_iff, namesEngine_iff wellFormed]
  constructor
  · rintro ⟨known, suits⟩ ⟨key, value⟩ member
    obtain ⟨name, isKnown, rfl⟩ := known key (List.mem_map_of_mem (f := Prod.fst) member)
    by_cases skipped : name = "handlebarsName" ∧ valueAt table "engineIdentifier" ≠ .nil
    · exact Or.inr ⟨congrArg keyOf skipped.1, skipped.2⟩
    · refine Or.inl ⟨name, isKnown, rfl, ?_⟩
      by_cases set : value = .nil
      · exact set ▸ suits_nil name
      · rw [← (mem_entries_iff_valueAt wellFormed set).mp member]
        exact suits name isKnown fun isSecond => not_not.mp fun first => skipped ⟨isSecond, first⟩
  · intro each
    refine ⟨fun key listed => ?_, fun name isKnown asked => ?_⟩
    · obtain ⟨entry, member, rfl⟩ := List.mem_map.mp listed
      rcases each entry member with ⟨name, isKnown, same, _⟩ | ⟨same, _⟩
      · exact ⟨name, isKnown, same⟩
      · exact ⟨"handlebarsName", by decide, same⟩
    · by_cases set : valueAt table name = .nil
      · rw [set]
        exact suits_nil name
      · have member := (mem_entries_iff_valueAt wellFormed set).mpr rfl
        rcases each _ member with ⟨other, _, same, suits⟩ | ⟨same, first⟩
        · exact keyOf_injective same ▸ suits
        · exact absurd (asked (keyOf_injective same)) first

/-- A table is accepted if each of its entries is accepted on its own.  There is one exception:
where the engine is given under its first key, no value of the second key is refused. -/
theorem read_accepted_iff_alone {table : ConfigTable} (wellFormed : table.WellFormed)
    (base : Path) :
    (Accepted (read table base) ↔ ∀ entry ∈ table.entries,
      Accepted (read (Lua.Table.ofEntries [entry]) base) ∨
        entry.1 = keyOf "handlebarsName" ∧ NamesEngine table) ∧
    (¬ NamesEngine table → (Accepted (read table base) ↔ ∀ entry ∈ table.entries,
      Accepted (read (Lua.Table.ofEntries [entry]) base))) ∧
    ((∀ value, (keyOf "handlebarsName", value) ∉ table.entries) →
      (Accepted (read table base) ↔ ∀ entry ∈ table.entries,
        Accepted (read (Lua.Table.ofEntries [entry]) base))) := by
  have accepted := read_accepted_iff_entry wellFormed base
  refine ⟨accepted, fun unnamed => ?_, fun absent => ?_⟩
  · simpa [unnamed] using accepted
  · rw [accepted]
    refine forall₂_congr fun entry member => ⟨fun either => ?_, Or.inl⟩
    refine either.resolve_right ?_
    rintro ⟨same, _⟩
    exact absent entry.2 (same ▸ member)

/-- An engine with two names, of which the second is no text. -/
def twiceNamed : ConfigTable :=
  Lua.Table.ofEntries
    [(keyOf "engineIdentifier", .ofText "e.js"), (keyOf "handlebarsName", .integer 5)]

/-- The number is not accepted on its own, but with the first name it is. -/
theorem read_of_twiceNamed :
    twiceNamed.WellFormed ∧ (keyOf "handlebarsName", .integer 5) ∈ twiceNamed.entries ∧
      ¬ Accepted (read (Lua.Table.ofEntries [(keyOf "handlebarsName", .integer 5)])
        (.ofString "/b")) ∧
      Accepted (read twiceNamed (.ofString "/b")) := by
  obtain ⟨wellFormed, holds⟩ := Lua.Table.ofEntries_holds
    [(keyOf "engineIdentifier", ConfigValue.ofText "e.js"), (keyOf "handlebarsName", .integer 5)]
    (by decide) (by simp [keyOf, Lua.Table.Fits])
  change twiceNamed.WellFormed at wellFormed
  have entries : ∀ key value, (key, value) ∈ twiceNamed.entries ↔
      key = keyOf "engineIdentifier" ∧ value = .ofText "e.js" ∨
        key = keyOf "handlebarsName" ∧ value = .integer 5 := by
    intro key value
    rw [Lua.Table.mem_entries_iff wellFormed, twiceNamed, holds]
    simp
  refine ⟨wellFormed, (entries _ _).mpr (Or.inr ⟨rfl, rfl⟩), ?_, ?_⟩
  · rw [read_single_accepted_iff]
    rintro ⟨name, _, same, suits⟩
    obtain rfl := keyOf_injective same
    obtain ⟨text, read⟩ := suits
    cases read
  · rw [(read_accepted_iff_alone wellFormed _).1]
    rintro ⟨key, value⟩ member
    rcases (entries key value).mp member with ⟨rfl, rfl⟩ | ⟨rfl, rfl⟩
    · refine Or.inl ((read_single_accepted_iff _ _).mpr ⟨_, by decide, rfl, ?_⟩)
      exact ⟨some "e.js", readText_ofText _ (some "e.js")⟩
    · exact Or.inr ⟨rfl, .ofText "e.js", by simp [ConfigValue.ofText],
        (entries _ _).mpr (Or.inl ⟨rfl, rfl⟩)⟩

end ConfigTable

end TemplateBuild

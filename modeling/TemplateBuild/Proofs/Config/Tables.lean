import TemplateBuild.Config.Table
import TemplateBuild.Proofs.Lua.Borders
import TemplateBuild.Proofs.Text.Bytes
import TemplateBuild.Proofs.Text.Canonical

/-!
# Layers as tables

A table is read as a list of texts if it has as many entries as it is long and begins with texts.
For a table without holes this means that it lists the texts and has no other entries.  A table
with holes may be longer than the list it begins with; it is then read up to its first hole.

A layer that is written into a table, every setting that is set under its own key, is read back
from it, whatever the order in which the entries were stored.  A key that is not known makes any
table an error.
-/

set_option autoImplicit false

namespace TemplateBuild

/-- A text as a script returns it. -/
def ConfigValue.ofText (text : String) : ConfigValue :=
  .text (Bytes.ofString text)

namespace ConfigTable

variable {key : String} {list : ConfigTable} {texts : List String}

/-! ## Single texts -/

theorem asText_eq_ok_iff {value : ConfigValue} {text : String} :
    asText key value = .ok text ↔ value = .ofText text := by
  cases value with
  | text bytes =>
      rw [ConfigValue.ofText, ConfigValue.text.injEq, ← Bytes.toString?_eq_some_iff,
        Bytes.toString?, asText]
      cases Utf8.decode bytes <;> simp
  | _ => simp [asText, ConfigValue.ofText]

theorem asText_ofText (key text : String) : asText key (.ofText text) = .ok text :=
  asText_eq_ok_iff.mpr rfl

theorem asText_error {value : ConfigValue} {failure : ConfigError}
    (failed : asText key value = .error failure) : ∃ fault, failure = .invalidValue key fault := by
  cases value with
  | text bytes =>
      rw [asText] at failed
      split at failed <;> cases failed
      exact ⟨_, rfl⟩
  | _ =>
      cases failed
      exact ⟨_, rfl⟩

/-! ## Values in a row -/

theorem mapM_asText_ofText (key : String) (texts : List String) :
    (texts.map ConfigValue.ofText).mapM (asText key) = .ok texts := by
  induction texts with
  | nil => rfl
  | cons text rest ih =>
      rw [List.map_cons, List.mapM_cons, asText_ofText, ih]
      rfl

theorem mapM_asText (key : String) (values : List ConfigValue) :
    (∃ texts : List String, values = texts.map .ofText) ∨
      ∃ fault, values.mapM (asText key) = .error (.invalidValue key fault) := by
  induction values with
  | nil => exact Or.inl ⟨[], rfl⟩
  | cons value rest ih =>
      rw [List.mapM_cons]
      cases first : asText key value with
      | error failure =>
          obtain ⟨fault, rfl⟩ := asText_error first
          exact Or.inr ⟨fault, rfl⟩
      | ok text =>
          obtain rfl := asText_eq_ok_iff.mp first
          rcases ih with ⟨texts, rfl⟩ | ⟨fault, failed⟩
          · exact Or.inl ⟨text :: texts, rfl⟩
          · exact Or.inr ⟨fault, by rw [failed]; rfl⟩

/-! ## Tables -/

theorem ofText_injective : Function.Injective ConfigValue.ofText := by
  intro first second same
  rw [ConfigValue.ofText, ConfigValue.ofText, ConfigValue.text.injEq] at same
  exact Bytes.ofString_injective same

/-- Either the table is as long as it has entries and begins with texts, or it is refused. -/
theorem readTexts_cases (key : String) {list : ConfigTable} (wellFormed : list.WellFormed) :
    (∃ texts : List String, list.entries.length = list.border ∧ list.Begins (texts.map .ofText) ∧
      readTexts key (.table list) = .ok (some texts)) ∨
    ((¬ ∃ texts : List String, list.entries.length = list.border ∧
        list.Begins (texts.map .ofText)) ∧
      ∃ fault, readTexts key (.table list) = .error (.invalidValue key fault)) := by
  have begins := Lua.Table.sequence_begins wellFormed
  rw [readTexts]
  by_cases full : list.entries.length = list.border
  · rw [if_neg (not_not_intro full)]
    rcases mapM_asText key list.sequence with ⟨texts, same⟩ | ⟨fault, failed⟩
    · rw [same] at begins ⊢
      exact Or.inl ⟨texts, full, begins, by rw [mapM_asText_ofText]; rfl⟩
    · refine Or.inr ⟨?_, fault, by rw [failed]; rfl⟩
      rintro ⟨texts, _, other⟩
      rw [begins.unique other, mapM_asText_ofText] at failed
      cases failed
  · rw [if_pos full]
    exact Or.inr ⟨fun ⟨_, same, _⟩ => full same, _, rfl⟩

theorem readTexts_eq_ok_iff (wellFormed : list.WellFormed) :
    readTexts key (.table list) = .ok (some texts) ↔
      list.entries.length = list.border ∧ list.Begins (texts.map .ofText) := by
  rcases readTexts_cases key wellFormed with ⟨found, full, begins, read⟩ | ⟨none, fault, failed⟩
  · rw [read, Except.ok.injEq, Option.some.injEq]
    constructor
    · rintro rfl
      exact ⟨full, begins⟩
    · rintro ⟨_, other⟩
      exact List.map_injective_iff.mpr ofText_injective (begins.unique other)
  · rw [failed]
    exact ⟨fun same => (nomatch same), fun accepted => absurd ⟨texts, accepted⟩ none⟩

theorem readTexts_of_lists (wellFormed : list.WellFormed)
    (lists : list.Lists (texts.map .ofText)) :
    readTexts key (.table list) = .ok (some texts) := by
  obtain ⟨begins, full⟩ := (Lua.Table.lists_iff wellFormed).mp lists
  rw [readTexts_eq_ok_iff wellFormed, begins.border_eq wellFormed lists.not_hasHole]
  exact ⟨full, begins⟩

/-- What is read from a table as a list of texts.  Without holes the table lists the texts.  With
holes, the number of entries may equal a border beyond a hole: then the list that is read ends at
the hole, and the items after it are lost. -/
theorem readTexts_of_table (key : String) {list : ConfigTable} (wellFormed : list.WellFormed) :
    (∀ texts, readTexts key (.table list) = .ok (some texts) ↔
      list.entries.length = list.border ∧ list.Begins (texts.map .ofText)) ∧
    ((∀ texts, readTexts key (.table list) ≠ .ok (some texts)) →
      ∃ fault, readTexts key (.table list) = .error (.invalidValue key fault)) ∧
    (∀ texts : List String, list.Lists (texts.map .ofText) →
      readTexts key (.table list) = .ok (some texts)) ∧
    (¬ list.HasHole → ∀ texts, readTexts key (.table list) = .ok (some texts) →
      list.Lists (texts.map .ofText)) ∧
    (∀ texts, readTexts key (.table list) = .ok (some texts) →
      ¬ list.Lists (texts.map .ofText) →
        texts.length + 1 < list.border ∧ list.hasIndex (texts.length + 1) = false ∧
          list.hasIndex list.border = true) := by
  refine ⟨fun texts => readTexts_eq_ok_iff wellFormed, ?_,
    fun texts => readTexts_of_lists wellFormed, ?_, ?_⟩
  · intro refused
    rcases readTexts_cases key wellFormed with ⟨texts, _, _, read⟩ | ⟨_, failed⟩
    · exact absurd read (refused texts)
    · exact failed
  · intro whole texts read
    obtain ⟨full, begins⟩ := (readTexts_eq_ok_iff wellFormed).mp read
    rw [Lua.Table.lists_iff wellFormed, full]
    exact ⟨begins, begins.border_eq wellFormed whole⟩
  · intro texts read more
    obtain ⟨full, begins⟩ := (readTexts_eq_ok_iff wellFormed).mp read
    have hole := begins.hole_of_full wellFormed full more
    rwa [List.length_map] at hole

/-- Three items with a hole before the last one, and a value under a name. -/
def holedEntries : List (Lua.Key ConfigKey × ConfigValue) :=
  [(.index 1, .ofText "a"), (.index 2, .ofText "b"), (.index 4, .ofText "d"),
    (.other (.text (Bytes.ofString "x")), .ofText "y")]

/-- The item after the hole is lost, and so is the value under the name. -/
theorem readTexts_of_holed :
    (Lua.Table.ofEntries holedEntries).WellFormed ∧
      readTexts "knownHelpers" (.table (Lua.Table.ofEntries holedEntries)) =
        .ok (some ["a", "b"]) := by
  obtain ⟨wellFormed, holds⟩ := Lua.Table.ofEntries_holds holedEntries (by decide)
    (by simp [holedEntries, Lua.Table.Fits, Lua.Table.greatestIndex])
  refine ⟨wellFormed, ?_⟩
  rw [(readTexts_of_table "knownHelpers" wellFormed).1]
  refine ⟨by with_unfolding_all rfl, fun place within => ?_⟩
  have cases : place = 0 ∨ place = 1 ∨ place = 2 := by
    rw [List.length_map] at within
    change place ≤ 2 at within
    omega
  rcases cases with rfl | rfl | rfl
  · exact (holds _ _).mpr (by simp [holedEntries])
  · exact (holds _ _).mpr (by simp [holedEntries])
  · refine Option.eq_none_iff_forall_ne_some.mpr fun value held => ?_
    have member := (holds _ _).mp held
    simp [holedEntries] at member

end ConfigTable

/-! ## What a layer spells -/

namespace ConfigLayer

/-- The paths that a layer holds. -/
def paths (layer : ConfigLayer) : List Path :=
  layer.sourceDirectory.toList ++ layer.outputDirectory.toList ++ layer.cacheDirectory.toList ++
    layer.scriptDirectories.getD []

/-- Paths are texts, and the timeout is a positive number of whole seconds. -/
structure Plain (layer : ConfigLayer) : Prop where
  paths : ∀ path ∈ layer.paths, ∃ text, path = Path.ofString text
  timeout : ∀ timeout, layer.timeout = some timeout →
    0 < timeout.seconds ∧ timeout = Duration.ofSeconds timeout.seconds

/-- The layer with every path seen from a directory. -/
def located (base : Path) (layer : ConfigLayer) : ConfigLayer :=
  { layer with
    sourceDirectory := layer.sourceDirectory.map base.join
    outputDirectory := layer.outputDirectory.map base.join
    cacheDirectory := layer.cacheDirectory.map base.join
    scriptDirectories := layer.scriptDirectories.map (·.map base.join) }

end ConfigLayer

namespace ConfigTable

/-- The key of a setting. -/
def keyOf (name : String) : Lua.Key ConfigKey :=
  .other (.text (Bytes.ofString name))

/-- A list of texts is a table that lists them, or the only text of the list. -/
inductive Spells : List Bytes → ConfigValue → Prop where
  | list {texts : List Bytes} {list : ConfigTable} (wellFormed : list.WellFormed)
      (lists : list.Lists (texts.map .text)) : Spells texts (.table list)
  | single (text : Bytes) : Spells [text] (.text text)

/-- What is left open about the table of a layer: the key of the engine and the values of lists. -/
structure Spelling where
  engineKey : String
  templateExtensions : ConfigValue
  knownHelpers : ConfigValue
  scriptDirectories : ConfigValue

structure Spelling.Of (spelling : Spelling) (layer : ConfigLayer) : Prop where
  engineKey : spelling.engineKey = "engineIdentifier" ∨ spelling.engineKey = "handlebarsName"
  templateExtensions : ∀ texts, layer.templateExtensions = some texts →
    Spells (texts.map Bytes.ofString) spelling.templateExtensions
  knownHelpers : ∀ texts, layer.knownHelpers = some texts →
    Spells (texts.map Bytes.ofString) spelling.knownHelpers
  scriptDirectories : ∀ paths, layer.scriptDirectories = some paths →
    Spells (paths.map Path.bytes) spelling.scriptDirectories

/-- The value of a layer at a key. -/
def spelled (spelling : Spelling) (layer : ConfigLayer) (key : String) : Option ConfigValue :=
  match key with
  | "sourceDirectory" => layer.sourceDirectory.map fun path => .text path.bytes
  | "outputDirectory" => layer.outputDirectory.map fun path => .text path.bytes
  | "templateExtensions" => layer.templateExtensions.map fun _ => spelling.templateExtensions
  | "preserveHierarchy" => layer.preserveHierarchy.map .boolean
  | "purgeWhitespace" => layer.purgeWhitespace.map .boolean
  | "knownHelpers" => layer.knownHelpers.map fun _ => spelling.knownHelpers
  | "knownHelpersOnly" => layer.knownHelpersOnly.map .boolean
  | "encoding" => layer.encoding.map .ofText
  | "cacheDirectory" => layer.cacheDirectory.map fun path => .text path.bytes
  | "scriptDirectories" => layer.scriptDirectories.map fun _ => spelling.scriptDirectories
  | "engineUrl" => layer.engineUrl.map .ofText
  | "engineUrlTemplate" => layer.engineUrlTemplate.map .ofText
  | "offline" => layer.offline.map .boolean
  | "timeoutSecs" => layer.timeout.map fun timeout => .integer timeout.seconds
  | "outputExtension" => layer.outputExtension.map .ofText
  | "failurePolicy" => layer.failurePolicy.map fun policy => .ofText policy.label
  | "dryRun" => layer.dryRun.map .boolean
  | key => if key = spelling.engineKey then layer.engineIdentifier.map .ofText else none

/-- The entries of the table of a layer. -/
def rows (spelling : Spelling) (layer : ConfigLayer) : List (Lua.Key ConfigKey × ConfigValue) :=
  keys.filterMap fun name => (spelled spelling layer name).map fun value => (keyOf name, value)

/-! ## Known keys -/

theorem keyOf_injective : Function.Injective keyOf := by
  intro first second same
  rw [keyOf, keyOf, Lua.Key.other.injEq, ConfigKey.text.injEq] at same
  exact Bytes.ofString_injective same

theorem keyName_keyOf (name : String) : keyName (keyOf name) = .ok name := by
  rw [keyOf, keyName, Bytes.toStringLossy_ofString]

/-- A name that is known is written with one sequence of bytes. -/
theorem eq_keyOf_of_keyName {key : Lua.Key ConfigKey} {name : String}
    (named : keyName key = .ok name) (known : name ∈ keys) : key = keyOf name := by
  have clean : ∀ name ∈ keys, Utf8.replacement ∉ name.toList := by decide +kernel
  cases key with
  | index number => cases named
  | other key =>
      cases key with
      | kind kind => cases named
      | text bytes =>
          rw [keyName, Except.ok.injEq] at named
          rw [keyOf, Bytes.eq_ofString_of_toStringLossy named (clean name known)]

theorem rejectUnknown_of_known {listed : List (Lua.Key ConfigKey)}
    (known : ∀ key ∈ listed, ∃ name ∈ keys, key = keyOf name) : rejectUnknown listed = .ok () := by
  induction listed with
  | nil => rfl
  | cons key rest ih =>
      obtain ⟨name, isKnown, rfl⟩ := known key List.mem_cons_self
      rw [rejectUnknown, keyName_keyOf]
      simp only
      rw [if_pos (List.contains_iff_mem.mpr isKnown)]
      exact ih fun key member => known key (List.mem_cons_of_mem _ member)

theorem rejectUnknown_of_unknown {listed : List (Lua.Key ConfigKey)} {key : Lua.Key ConfigKey}
    (member : key ∈ listed) (unknown : ∀ name ∈ keys, key ≠ keyOf name) :
    ∃ name, rejectUnknown listed = .error (.unknownKey name) := by
  induction listed with
  | nil => cases member
  | cons first rest ih =>
      rw [rejectUnknown]
      cases named : keyName first with
      | error kind => exact ⟨_, rfl⟩
      | ok name =>
          simp only
          split
          · next known =>
              have isFirst := eq_keyOf_of_keyName named (List.contains_iff_mem.mp known)
              rcases List.mem_cons.mp member with rfl | later
              · exact absurd isFirst (unknown name (List.contains_iff_mem.mp known))
              · exact ih later
          · exact ⟨name, rfl⟩

/-! ## Values -/

theorem readText_ofText (key : String) (text : Option String) :
    readText key ((text.map ConfigValue.ofText).getD .nil) = .ok text := by
  cases text with
  | none => rfl
  | some text =>
      rw [Option.map_some, Option.getD_some, ConfigValue.ofText, readText, ← ConfigValue.ofText,
        asText_ofText]
      · rfl
      · intro none
        cases none

theorem readBoolean_ofBoolean (key : String) (value : Option Bool) :
    readBoolean key ((value.map ConfigValue.boolean).getD .nil) = .ok value := by
  cases value <;> rfl

theorem readSeconds_ofSeconds (key : String) {timeout : Option Duration}
    (whole : ∀ duration, timeout = some duration →
      0 < duration.seconds ∧ duration = Duration.ofSeconds duration.seconds) :
    readSeconds key ((timeout.map fun timeout => .integer timeout.seconds).getD .nil) =
      .ok timeout := by
  cases timeout with
  | none => rfl
  | some duration =>
      obtain ⟨positive, same⟩ := whole duration rfl
      rw [Option.map_some, Option.getD_some, readSeconds, if_pos (Int.natCast_pos.mpr positive),
        Int.toNat_natCast, ← same]

theorem readPolicy_ofLabel (key : String) (policy : Option FailurePolicy) :
    readPolicy key ((policy.map fun policy => .ofText policy.label).getD .nil) = .ok policy := by
  have label := readText_ofText key (policy.map FailurePolicy.label)
  rw [Option.map_map] at label
  rw [readPolicy]
  rcases policy with _ | (_ | _)
  · rfl
  · exact (congrArg (· >>= _) label).trans rfl
  · exact (congrArg (· >>= _) label).trans rfl

theorem readTexts_of_spells {key : String} {texts : List String} {value : ConfigValue}
    (spells : Spells (texts.map Bytes.ofString) value) :
    readTexts key value = .ok (some texts) := by
  generalize same : texts.map Bytes.ofString = bytes at spells
  cases spells with
  | list wellFormed lists =>
      apply readTexts_of_lists wellFormed
      rw [← same, List.map_map] at lists
      exact lists
  | single text =>
      obtain ⟨first, rfl, rfl⟩ := List.map_eq_singleton_iff.mp same
      rw [readTexts, ← ConfigValue.ofText, asText_ofText]
      · rfl
      · intro none
        cases none
      · intro list isList
        cases isList

theorem readTexts_ofSpelled {texts : Option (List String)} {value : ConfigValue} (key : String)
    (spells : ∀ inner, texts = some inner → Spells (inner.map Bytes.ofString) value) :
    readTexts key ((texts.map fun _ => value).getD .nil) = .ok texts := by
  cases texts with
  | none => rfl
  | some inner => exact readTexts_of_spells (spells inner rfl)

/-! ## Tables -/

section Reading

variable {spelling : Spelling} {layer : ConfigLayer} {table : ConfigTable}

theorem mem_rows_iff {key : Lua.Key ConfigKey} {value : ConfigValue} :
    (key, value) ∈ rows spelling layer ↔
      ∃ name ∈ keys, key = keyOf name ∧ spelled spelling layer name = some value := by
  rw [rows, List.mem_filterMap]
  constructor
  · rintro ⟨name, known, same⟩
    obtain ⟨_, isValue, equal⟩ := Option.map_eq_some_iff.mp same
    cases equal
    exact ⟨name, known, rfl, isValue⟩
  · rintro ⟨name, known, rfl, isValue⟩
    exact ⟨name, known, by rw [isValue]; rfl⟩

/-- The table has the entries of a layer and no others. -/
def Holds (table : ConfigTable) (spelling : Spelling) (layer : ConfigLayer) : Prop :=
  table.WellFormed ∧ ∀ key value, table.get? key = some value ↔ (key, value) ∈ rows spelling layer

theorem setting_of_holds {α : Type} (holds : Holds table spelling layer) {name : String}
    (known : name ∈ keys) (reader : String → ConfigValue → Except ConfigError α) :
    setting table.view reader name = reader name ((spelled spelling layer name).getD .nil) := by
  have found : table.get? (keyOf name) = spelled spelling layer name := by
    ext value
    rw [holds.2, mem_rows_iff]
    constructor
    · rintro ⟨other, _, same, isValue⟩
      exact keyOf_injective same ▸ isValue
    · exact fun isValue => ⟨name, known, rfl, isValue⟩
  rw [← found]
  rfl

theorem rejectUnknown_of_holds (holds : Holds table spelling layer) :
    rejectUnknown table.view.listed = .ok () := by
  apply rejectUnknown_of_known
  intro key member
  obtain ⟨⟨_, value⟩, isEntry, rfl⟩ := List.mem_map.mp member
  rw [Lua.Table.mem_entries_iff holds.1, holds.2, mem_rows_iff] at isEntry
  obtain ⟨name, known, same, _⟩ := isEntry
  exact ⟨name, known, same⟩

theorem path_of_holds (plain : layer.Plain) (base : Path) (key : String) (path : Option Path)
    (within : ∀ inner, path = some inner → inner ∈ layer.paths) :
    (readText key ((path.map fun path => .text path.bytes).getD .nil)).map
      (·.map (resolvePath base)) = .ok (path.map base.join) := by
  cases path with
  | none => rfl
  | some path =>
      obtain ⟨text, rfl⟩ := plain.paths path (within path rfl)
      have read := readText_ofText key (some text)
      rw [Option.map_some, Option.getD_some] at read ⊢
      rw [Path.ofString, ← ConfigValue.ofText, read]
      rfl

theorem scripts_of_holds (plain : layer.Plain) (spells : spelling.Of layer) (base : Path)
    (key : String) :
    ∃ texts, readTexts key ((layer.scriptDirectories.map fun _ =>
        spelling.scriptDirectories).getD .nil) = .ok texts ∧
      texts.map (·.map (resolvePath base)) = layer.scriptDirectories.map (·.map base.join) := by
  cases scripts : layer.scriptDirectories with
  | none => exact ⟨none, rfl, rfl⟩
  | some paths =>
      have textual : ∀ path ∈ paths, Path.ofString path.display = path := by
        intro path member
        obtain ⟨text, rfl⟩ := plain.paths path (by simp [ConfigLayer.paths, scripts, member])
        rw [Path.display]
        exact congrArg Path.ofString (Bytes.toStringLossy_ofString text)
      have bytes : (paths.map Path.display).map Bytes.ofString = paths.map Path.bytes := by
        rw [List.map_map]
        exact List.map_congr_left fun path member => congrArg Path.bytes (textual path member)
      refine ⟨some (paths.map Path.display), ?_, ?_⟩
      · exact readTexts_of_spells (bytes ▸ spells.scriptDirectories paths scripts)
      · rw [Option.map_some, Option.map_some, List.map_map]
        exact congrArg some (List.map_congr_left fun path member =>
          congrArg base.join (textual path member))

/-- The engine is read from the key it was written under. -/
theorem engine_of_holds (spells : spelling.Of layer) :
    (readText "engineIdentifier" ((spelled spelling layer "engineIdentifier").getD .nil) =
        .ok layer.engineIdentifier ∧
      readText "handlebarsName" ((spelled spelling layer "handlebarsName").getD .nil) = .ok none) ∨
    (readText "engineIdentifier" ((spelled spelling layer "engineIdentifier").getD .nil) =
        .ok none ∧
      readText "handlebarsName" ((spelled spelling layer "handlebarsName").getD .nil) =
        .ok layer.engineIdentifier) := by
  rcases spells.engineKey with here | here
  · have first : spelled spelling layer "engineIdentifier" =
        layer.engineIdentifier.map .ofText := by simp [spelled, here]
    have second : spelled spelling layer "handlebarsName" = none := by simp [spelled, here]
    rw [first, second]
    exact Or.inl ⟨readText_ofText _ _, rfl⟩
  · have first : spelled spelling layer "engineIdentifier" = none := by simp [spelled, here]
    have second : spelled spelling layer "handlebarsName" =
        layer.engineIdentifier.map .ofText := by simp [spelled, here]
    rw [first, second]
    exact Or.inr ⟨rfl, readText_ofText _ _⟩

theorem read_of_holds (plain : layer.Plain) (spells : spelling.Of layer)
    (holds : Holds table spelling layer) (base : Path) :
    read table base = .ok (layer.located base) := by
  have source := path_of_holds plain base "sourceDirectory" layer.sourceDirectory
    fun inner same => by simp [ConfigLayer.paths, same]
  have output := path_of_holds plain base "outputDirectory" layer.outputDirectory
    fun inner same => by simp [ConfigLayer.paths, same]
  have cache := path_of_holds plain base "cacheDirectory" layer.cacheDirectory
    fun inner same => by simp [ConfigLayer.paths, same]
  have extensions := readTexts_ofSpelled "templateExtensions" spells.templateExtensions
  have helpers := readTexts_ofSpelled "knownHelpers" spells.knownHelpers
  have timeout := readSeconds_ofSeconds "timeoutSecs" plain.timeout
  obtain ⟨scripts, readScripts, resolved⟩ := scripts_of_holds plain spells base "scriptDirectories"
  rw [read, readView, rejectUnknown_of_holds holds, ConfigLayer.located]
  simp (disch := decide) only [setting_of_holds holds]
  rcases engine_of_holds spells with ⟨first, second⟩ | ⟨first, second⟩
  all_goals
    simp only [first, second]
    simp only [spelled, source, output, cache, extensions, helpers, timeout, readScripts,
      readText_ofText, readBoolean_ofBoolean, readPolicy_ofLabel, resolved, bind, Except.bind, pure,
      Except.pure]
  cases layer.engineIdentifier <;> rfl

/-- The entries of a layer may be stored in any order. -/
theorem holds_of_perm {order : List (Lua.Key ConfigKey × ConfigValue)}
    (permuted : order.Perm (rows spelling layer)) :
    Holds (Lua.Table.ofEntries order) spelling layer := by
  have within : ((rows spelling layer).map Prod.fst).Sublist (keys.map keyOf) := by
    apply Lua.Table.map_filterMap_sublist
    intro name entry same
    obtain ⟨_, _, rfl⟩ := Option.map_eq_some_iff.mp same
    rfl
  have known : keys.Nodup := by decide
  have distinct : (order.map Prod.fst).Nodup :=
    (permuted.map Prod.fst).nodup_iff.mpr (within.nodup (known.map keyOf_injective))
  have fits : ∀ entry ∈ order, Lua.Table.Fits entry.1 := by
    rintro ⟨key, value⟩ member
    obtain ⟨name, _, rfl, _⟩ := mem_rows_iff.mp (permuted.mem_iff.mp member)
    trivial
  obtain ⟨wellFormed, holds⟩ := Lua.Table.ofEntries_holds order distinct fits
  exact ⟨wellFormed, fun key value => by rw [holds, permuted.mem_iff]⟩

end Reading

theorem read_of_unknown (table : ConfigTable) {key : Lua.Key ConfigKey} (value : ConfigValue)
    (unknown : ∀ name ∈ keys, key ≠ keyOf name) (base : Path) :
    ∃ name, read (table.set key (some value)) base = .error (.unknownKey name) := by
  have listed : key ∈ (view (table.set key (some value))).listed :=
    List.mem_map_of_mem (f := Prod.fst) (Lua.Table.mem_entries_set table key value)
  obtain ⟨name, rejected⟩ := rejectUnknown_of_unknown listed unknown
  exact ⟨name, by rw [read, readView, rejected]; rfl⟩

theorem located_of_isAbsolute {layer : ConfigLayer} (base : Path)
    (absolute : ∀ path ∈ layer.paths, path.isAbsolute = true) : layer.located base = layer := by
  have joined : ∀ path ∈ layer.paths, base.join path = path := by
    intro path member
    rw [Path.join, if_pos (Or.inl (absolute path member))]
  have single : ∀ path : Option Path, (∀ inner, path = some inner → inner ∈ layer.paths) →
      path.map base.join = path := by
    rintro (_ | path) within
    · rfl
    · rw [Option.map_some, joined path (within path rfl)]
  have scripts : layer.scriptDirectories.map (·.map base.join) = layer.scriptDirectories := by
    cases scripts : layer.scriptDirectories with
    | none => rfl
    | some paths =>
        rw [Option.map_some, List.map_congr_left fun path member => joined path
          (by simp [ConfigLayer.paths, scripts, member]), List.map_id']
  rw [ConfigLayer.located, scripts]
  rw [single layer.sourceDirectory fun inner same => by simp [ConfigLayer.paths, same],
    single layer.outputDirectory fun inner same => by simp [ConfigLayer.paths, same],
    single layer.cacheDirectory fun inner same => by simp [ConfigLayer.paths, same]]

/-- A layer is read back from its table, and a key that is not known is an error. -/
theorem read_of_rows {layer : ConfigLayer} {spelling : Spelling} (plain : layer.Plain)
    (spells : spelling.Of layer) (base : Path) :
    (∀ table, Holds table spelling layer → read table base = .ok (layer.located base)) ∧
    (∀ order : List (Lua.Key ConfigKey × ConfigValue), order.Perm (rows spelling layer) →
      read (Lua.Table.ofEntries order) base = .ok (layer.located base)) ∧
    ((∀ path ∈ layer.paths, path.isAbsolute = true) → layer.located base = layer) ∧
    (∀ (table : ConfigTable) (key : Lua.Key ConfigKey) (value : ConfigValue),
      (∀ name ∈ keys, key ≠ keyOf name) →
        ∃ name, read (table.set key (some value)) base = .error (.unknownKey name)) :=
  ⟨fun _ holds => read_of_holds plain spells holds base,
    fun _ permuted => read_of_holds plain spells (holds_of_perm permuted) base,
    located_of_isAbsolute base,
    fun table _ value unknown => read_of_unknown table value unknown base⟩

/-- A layer with a relative source and lists of both forms. -/
def sampleLayer : ConfigLayer where
  sourceDirectory := some (.ofString "templates")
  templateExtensions := some ["hbs", "html"]
  knownHelpers := some ["link"]
  engineIdentifier := some "e.js"
  cacheDirectory := some (.ofString "/var/cache")
  scriptDirectories := some [.ofString "/lib", .ofString "scripts"]
  timeout := some (.ofSeconds 30)
  failurePolicy := some .collectAll

def sampleSpelling : Spelling where
  engineKey := "handlebarsName"
  templateExtensions := .table (Lua.Table.ofEntries
    (Lua.Table.numbered [.ofText "hbs", .ofText "html"]).reverse)
  knownHelpers := .ofText "link"
  scriptDirectories := .table (Lua.Table.ofEntries
    (Lua.Table.numbered [.ofText "/lib", .ofText "scripts"]))

theorem read_of_sampleRows :
    sampleLayer.Plain ∧ sampleSpelling.Of sampleLayer ∧
      read (Lua.Table.ofEntries (rows sampleSpelling sampleLayer).reverse) (.ofString "/etc") =
        .ok (sampleLayer.located (.ofString "/etc")) ∧
      ∃ name, read ((Lua.Table.ofEntries (rows sampleSpelling sampleLayer)).set
        (.other (.text [0xFF])) (some (.boolean true))) (.ofString "/etc") =
          .error (.unknownKey name) := by
  have plain : sampleLayer.Plain := by
    constructor
    · intro path member
      simp only [ConfigLayer.paths, sampleLayer, Option.toList, Option.getD, List.mem_append,
        List.mem_cons, List.not_mem_nil, or_false] at member
      rcases member with (rfl | rfl) | rfl | rfl <;> exact ⟨_, rfl⟩
    · rintro _ ⟨⟩
      exact ⟨by decide, rfl⟩
  have spells : sampleSpelling.Of sampleLayer := by
    refine ⟨Or.inr rfl, ?_, ?_, ?_⟩
    · rintro _ ⟨⟩
      obtain ⟨wellFormed, lists⟩ := Lua.Table.lists_of_perm (κ := ConfigKey)
        (List.reverse_perm (Lua.Table.numbered [ConfigValue.ofText "hbs", .ofText "html"]))
        (by decide)
      exact .list wellFormed lists
    · rintro _ ⟨⟩
      exact .single _
    · rintro _ ⟨⟩
      obtain ⟨wellFormed, lists⟩ := Lua.Table.lists_of_perm (κ := ConfigKey)
        (List.Perm.refl (Lua.Table.numbered [ConfigValue.ofText "/lib", .ofText "scripts"]))
        (by decide)
      exact .list wellFormed lists
  have unknown : ∀ name ∈ keys, (.other (.text [0xFF]) : Lua.Key ConfigKey) ≠ keyOf name := by
    decide
  obtain ⟨_, anyOrder, _, refused⟩ := read_of_rows plain spells (.ofString "/etc")
  exact ⟨plain, spells, anyOrder _ (List.reverse_perm _), refused _ _ _ unknown⟩

end ConfigTable

end TemplateBuild

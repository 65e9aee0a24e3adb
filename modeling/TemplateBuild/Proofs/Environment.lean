import TemplateBuild.Config.Settings
import TemplateBuild.Proofs.FileTree.Entries

/-!
# Default directories

Where the home directory is absolute, the directories for engine scripts are so too, unless a
variable says otherwise.  The variable of the script cache counts only if it is not empty.  The two
that name a base directory count as soon as they are text, so an empty one puts the directory below
it into whatever directory the program is started in.
-/

set_option autoImplicit false

namespace TemplateBuild.Environment

variable {environment other : Environment} {name : String}

/-! ## Variables -/

/-- The environment in which a variable is not set. -/
def without (environment : Environment) (name : String) : Environment :=
  ⟨environment.entries.filter fun entry => entry.1 ≠ name⟩

theorem get?_without (environment : Environment) (absent name : String) :
    (environment.without absent).get? name =
      if name = absent then none else environment.get? name := by
  rw [get?, get?, without, FileTree.lookup_filter_keys fun key => decide (key ≠ absent)]
  by_cases same : name = absent <;> simp [same]

theorem get?_without_of_ne {absent : String} (different : name ≠ absent) :
    (environment.without absent).get? name = environment.get? name := by
  rw [get?_without, if_neg different]

theorem get?_without_self (environment : Environment) (name : String) :
    (environment.without name).get? name = none := by
  rw [get?_without, if_pos rfl]

/-- An empty variable is text. -/
theorem text?_of_empty (empty : environment.get? name = some []) :
    environment.text? name = some ⟨[]⟩ := by
  rw [text?, empty]
  rfl

/-- A home directory that is empty is none at all. -/
theorem home_without (empty : environment.get? name = some []) :
    (environment.without name).home = environment.home := by
  by_cases same : "HOME" = name
  · subst same
    rw [home, home, get?_without_self, empty]
  · rw [home, home, get?_without_of_ne same]

/-! ## Directories of the program -/

/-- The directory of the program in a base directory: in the one that a variable names, or else in
one below home. -/
def programDirectory (environment : Environment) (name fallback : String) : Path :=
  ((environment.text? name).getD (environment.home.join (Path.ofString fallback))).join
    (Path.ofString applicationName)

def configVariable : String := "XDG_CONFIG_HOME"

def cacheBaseVariable : String := "XDG_CACHE_HOME"

theorem configDirectory_eq (environment : Environment) :
    environment.configDirectory = environment.programDirectory configVariable ".config" :=
  rfl

theorem cacheDirectory_eq (environment : Environment) :
    environment.cacheDirectory = environment.programDirectory cacheBaseVariable ".cache" :=
  rfl

theorem programDirectory_congr (fallback : String)
    (same : other.get? name = environment.get? name) (sameHome : other.home = environment.home) :
    other.programDirectory name fallback = environment.programDirectory name fallback := by
  rw [programDirectory, programDirectory, text?, text?, same, sameHome]

theorem programDirectory_of_empty (fallback : String) (empty : environment.get? name = some []) :
    environment.programDirectory name fallback = Path.ofString applicationName := by
  rw [programDirectory, text?_of_empty empty]
  exact Path.join_of_isEmpty _ rfl

/-- The variable is set to a relative path that is not empty. -/
def SetsRelative (environment : Environment) (name : String) : Prop :=
  ∃ value, environment.get? name = some value ∧ value ≠ [] ∧ (⟨value⟩ : Path).isAbsolute = false

/-- As a base directory the variable counts, and the path that it names depends on the directory in
which the program is started. -/
def Misleads (environment : Environment) (name : String) : Prop :=
  environment.get? name = some [] ∨
    environment.SetsRelative name ∧ (environment.text? name).isSome = true

theorem misleads_iff (environment : Environment) (name : String) : environment.Misleads name ↔
    ∃ path, environment.text? name = some path ∧ path.isAbsolute = false := by
  constructor
  · rintro (empty | ⟨⟨value, found, _, relative⟩, isText⟩)
    · exact ⟨_, text?_of_empty empty, rfl⟩
    · obtain ⟨path, named⟩ := Option.isSome_iff_exists.mp isText
      refine ⟨path, named, ?_⟩
      rw [text?, found] at named
      obtain ⟨_, rfl⟩ := Option.ite_some_none_eq_some.mp named
      exact relative
  · rintro ⟨path, named, relative⟩
    have isText : (environment.text? name).isSome = true := by rw [named]; rfl
    rw [text?] at named
    split at named
    · next value found =>
      obtain ⟨_, rfl⟩ := Option.ite_some_none_eq_some.mp named
      by_cases empty : value = []
      · exact Or.inl (found.trans (congrArg some empty))
      · exact Or.inr ⟨⟨value, found, empty, relative⟩, isText⟩
    · cases named

theorem isAbsolute_programDirectory (name : String) {fallback : String}
    (absolute : environment.home.isAbsolute = true)
    (relative : (Path.ofString fallback).isAbsolute = false) :
    (environment.programDirectory name fallback).isAbsolute = false ↔
      environment.Misleads name := by
  have below : (environment.home.join (Path.ofString fallback)).isAbsolute = true := by
    rw [Path.isAbsolute_join relative, absolute]
  rw [programDirectory, Path.isAbsolute_join (by decide), misleads_iff]
  cases environment.text? name with
  | none => simp [below]
  | some path => simp

/-- A base directory that is not named lies below home. -/
theorem isAbsolute_programDirectory_without (name : String) {fallback : String}
    (empty : environment.get? name = some []) (absolute : environment.home.isAbsolute = true)
    (relative : (Path.ofString fallback).isAbsolute = false) :
    ((environment.without name).programDirectory name fallback).isAbsolute = true := by
  rw [← Bool.not_eq_false,
    isAbsolute_programDirectory name (home_without empty ▸ absolute) relative]
  rintro (still | ⟨⟨value, still, _⟩, _⟩)
  · rw [get?_without_self] at still
    cases still
  · rw [get?_without_self] at still
    cases still

/-- An empty base directory is not the one below home. -/
theorem programDirectory_without_ne (name : String) {fallback : String}
    (empty : environment.get? name = some []) (absolute : environment.home.isAbsolute = true)
    (relative : (Path.ofString fallback).isAbsolute = false) :
    (environment.without name).programDirectory name fallback ≠
      environment.programDirectory name fallback := by
  intro same
  have below := isAbsolute_programDirectory_without name empty absolute relative
  rw [same, programDirectory_of_empty _ empty] at below
  exact absurd below (by decide)

/-! ## Directories for scripts -/

/-- The variable of the script cache counts. -/
def ChoosesCache (environment : Environment) : Prop :=
  ∃ value, environment.get? cacheVariable = some value ∧ value ≠ []

theorem scriptCacheDirectory_of_chosen {value : Bytes}
    (chosen : environment.get? cacheVariable = some value) (filled : value ≠ []) :
    environment.scriptCacheDirectory = ⟨value⟩ := by
  obtain ⟨first, rest, rfl⟩ := List.exists_cons_of_ne_nil filled
  rw [scriptCacheDirectory, chosen]

theorem scriptCacheDirectory_of_unchosen (unchosen : ¬ environment.ChoosesCache) :
    environment.scriptCacheDirectory =
      environment.cacheDirectory.join (Path.ofString "script") := by
  rw [scriptCacheDirectory]
  split
  · next first rest chosen => exact absurd ⟨_, chosen, List.cons_ne_nil _ _⟩ unchosen
  · rfl

/-- The script cache depends on its variable and on the cache alone. -/
theorem scriptCacheDirectory_congr
    (chosen : other.ChoosesCache ∨ environment.ChoosesCache →
      other.get? cacheVariable = environment.get? cacheVariable)
    (same : ¬ environment.ChoosesCache → other.cacheDirectory = environment.cacheDirectory) :
    other.scriptCacheDirectory = environment.scriptCacheDirectory := by
  by_cases chooses : environment.ChoosesCache
  · obtain ⟨value, found, filled⟩ := chooses
    have foundToo := (chosen (Or.inr ⟨value, found, filled⟩)).trans found
    rw [scriptCacheDirectory_of_chosen found filled,
      scriptCacheDirectory_of_chosen foundToo filled]
  · by_cases choosesToo : other.ChoosesCache
    · obtain ⟨value, found, filled⟩ := choosesToo
      have foundToo := (chosen (Or.inl ⟨value, found, filled⟩)).symm.trans found
      exact absurd ⟨value, foundToo, filled⟩ chooses
    · rw [scriptCacheDirectory_of_unchosen chooses, scriptCacheDirectory_of_unchosen choosesToo,
        same chooses]

theorem isAbsolute_scriptCacheDirectory (absolute : environment.home.isAbsolute = true) :
    environment.scriptCacheDirectory.isAbsolute = false ↔
      environment.SetsRelative cacheVariable ∨
        ¬ environment.ChoosesCache ∧ environment.Misleads cacheBaseVariable := by
  by_cases chooses : environment.ChoosesCache
  · obtain ⟨value, found, filled⟩ := chooses
    rw [scriptCacheDirectory_of_chosen found filled]
    constructor
    · intro relative
      exact Or.inl ⟨value, found, filled, relative⟩
    · rintro (⟨other, foundOther, _, relative⟩ | ⟨unchosen, _⟩)
      · rwa [Option.some_inj.mp (found.symm.trans foundOther)]
      · exact absurd ⟨value, found, filled⟩ unchosen
  · have unset : ¬ environment.SetsRelative cacheVariable := by
      rintro ⟨value, found, filled, _⟩
      exact chooses ⟨value, found, filled⟩
    rw [scriptCacheDirectory_of_unchosen chooses, Path.isAbsolute_join (by decide),
      cacheDirectory_eq, isAbsolute_programDirectory _ absolute (by decide)]
    simp only [unset, chooses, not_false_eq_true, true_and, false_or]

theorem isAbsolute_bundledScriptDirectory (absolute : environment.home.isAbsolute = true) :
    environment.bundledScriptDirectory.isAbsolute = false ↔
      environment.Misleads configVariable := by
  rw [bundledScriptDirectory, Path.isAbsolute_join (by decide), configDirectory_eq,
    isAbsolute_programDirectory _ absolute (by decide)]

/-! ## Empty variables -/

/-- Both environments give the same default directories. -/
structure Alike (first second : Environment) : Prop where
  config : first.configDirectory = second.configDirectory
  cache : first.cacheDirectory = second.cacheDirectory
  scriptCache : first.scriptCacheDirectory = second.scriptCacheDirectory
  bundledScript : first.bundledScriptDirectory = second.bundledScriptDirectory

theorem configDirectory_without (empty : environment.get? name = some [])
    (different : name ≠ configVariable) :
    (environment.without name).configDirectory = environment.configDirectory :=
  programDirectory_congr _ (get?_without_of_ne different.symm) (home_without empty)

theorem cacheDirectory_without (empty : environment.get? name = some [])
    (different : name ≠ cacheBaseVariable) :
    (environment.without name).cacheDirectory = environment.cacheDirectory :=
  programDirectory_congr _ (get?_without_of_ne different.symm) (home_without empty)

/-- An empty variable never chooses the script cache, so taking it away changes no choice. -/
theorem scriptCacheDirectory_without (empty : environment.get? name = some [])
    (same : ¬ environment.ChoosesCache →
      (environment.without name).cacheDirectory = environment.cacheDirectory) :
    (environment.without name).scriptCacheDirectory = environment.scriptCacheDirectory := by
  refine scriptCacheDirectory_congr (fun chosen => ?_) same
  by_cases itself : cacheVariable = name
  · subst itself
    rcases chosen with ⟨value, found, _⟩ | ⟨value, found, filled⟩
    · rw [get?_without_self] at found
      cases found
    · exact absurd (Option.some_inj.mp (found.symm.trans empty)) filled
  · exact get?_without_of_ne itself

/-- The two variables that name a base directory are the only ones that count when empty: with
them a directory is relative that without them is absolute. -/
theorem alike_without_iff (absolute : environment.home.isAbsolute = true)
    (empty : environment.get? name = some []) :
    (environment.without name).Alike environment ↔
      name ≠ configVariable ∧ name ≠ cacheBaseVariable := by
  constructor
  · intro alike
    constructor
    · rintro rfl
      exact programDirectory_without_ne configVariable empty absolute
        (show (Path.ofString ".config").isAbsolute = false by decide) alike.config
    · rintro rfl
      exact programDirectory_without_ne cacheBaseVariable empty absolute
        (show (Path.ofString ".cache").isAbsolute = false by decide) alike.cache
  · rintro ⟨notConfig, notCache⟩
    have config := configDirectory_without empty notConfig
    have cache := cacheDirectory_without empty notCache
    exact
      { config := config
        cache := cache
        scriptCache := scriptCacheDirectory_without empty fun _ => cache
        bundledScript := congrArg (Path.join · (Path.ofString "script")) config }

/-- The default directories where home is absolute.  Taking an empty variable away changes nothing,
unless it names a base directory: then the directories below it are relative.  The last two parts
say when a directory for scripts is relative at all. -/
theorem directories_of_absolute_home (absolute : environment.home.isAbsolute = true) :
    (∀ name, environment.get? name = some [] →
      ((environment.without name).Alike environment ↔
        name ≠ configVariable ∧ name ≠ cacheBaseVariable)) ∧
    (environment.get? configVariable = some [] →
      environment.configDirectory = Path.ofString "tmplc" ∧
      environment.bundledScriptDirectory = Path.ofString "tmplc/script" ∧
      (environment.without configVariable).cacheDirectory = environment.cacheDirectory ∧
      (environment.without configVariable).scriptCacheDirectory =
        environment.scriptCacheDirectory) ∧
    (environment.get? cacheBaseVariable = some [] →
      environment.cacheDirectory = Path.ofString "tmplc" ∧
      (¬ environment.ChoosesCache →
        environment.scriptCacheDirectory = Path.ofString "tmplc/script") ∧
      (environment.ChoosesCache →
        (environment.without cacheBaseVariable).scriptCacheDirectory =
          environment.scriptCacheDirectory) ∧
      (environment.without cacheBaseVariable).configDirectory = environment.configDirectory ∧
      (environment.without cacheBaseVariable).bundledScriptDirectory =
        environment.bundledScriptDirectory) ∧
    (environment.bundledScriptDirectory.isAbsolute = false ↔
      environment.Misleads configVariable) ∧
    (environment.scriptCacheDirectory.isAbsolute = false ↔
      environment.SetsRelative cacheVariable ∨
        ¬ environment.ChoosesCache ∧ environment.Misleads cacheBaseVariable) := by
  refine ⟨fun name => alike_without_iff absolute, ?_, ?_,
    isAbsolute_bundledScriptDirectory absolute, isAbsolute_scriptCacheDirectory absolute⟩
  · intro empty
    have config : environment.configDirectory = Path.ofString "tmplc" :=
      programDirectory_of_empty _ empty
    have cache := cacheDirectory_without empty (show configVariable ≠ cacheBaseVariable by decide)
    refine ⟨config, ?_, cache, scriptCacheDirectory_without empty fun _ => cache⟩
    rw [bundledScriptDirectory, config]
    decide
  · intro empty
    have cache : environment.cacheDirectory = Path.ofString "tmplc" :=
      programDirectory_of_empty _ empty
    have config := configDirectory_without empty (show cacheBaseVariable ≠ configVariable by decide)
    refine ⟨cache, fun unchosen => ?_, fun chosen => ?_, config,
      congrArg (Path.join · (Path.ofString "script")) config⟩
    · rw [scriptCacheDirectory_of_unchosen unchosen, cache]
      decide
    · exact scriptCacheDirectory_without empty fun unchosen => absurd chosen unchosen

/-- An empty configuration variable, an empty cache variable and a cache base that is relative. -/
def misleadingEnvironment : Environment where
  entries :=
    [("HOME", Bytes.ofString "/h"), (configVariable, []), (cacheVariable, []),
      (cacheBaseVariable, Bytes.ofString "c")]

/-- Both directories for scripts are relative, and the empty cache variable is not why. -/
theorem directories_of_misleadingEnvironment :
    misleadingEnvironment.home.isAbsolute = true ∧
    misleadingEnvironment.bundledScriptDirectory = Path.ofString "tmplc/script" ∧
    (misleadingEnvironment.without cacheVariable).Alike misleadingEnvironment ∧
    misleadingEnvironment.scriptCacheDirectory.isAbsolute = false := by
  have absolute : misleadingEnvironment.home.isAbsolute = true := by decide
  obtain ⟨alike, config, _, _, scriptCache⟩ := directories_of_absolute_home absolute
  refine ⟨absolute, (config (by decide)).2.1,
    (alike cacheVariable (by decide)).mpr ⟨by decide, by decide⟩, scriptCache.mpr (Or.inr ⟨?_, ?_⟩)⟩
  · rintro ⟨value, found, filled⟩
    have isEmpty : misleadingEnvironment.get? cacheVariable = some [] := by decide
    exact filled (Option.some_inj.mp (found.symm.trans isEmpty))
  · exact Or.inr ⟨⟨Bytes.ofString "c", by decide, by decide, by decide⟩, by decide⟩

end TemplateBuild.Environment

import TemplateBuild.Config.Error
import TemplateBuild.Config.Layer
import TemplateBuild.Config.Value
import TemplateBuild.Decimal.Digits
import TemplateBuild.Text.Quoted

/-!
# Reading a configuration table

A layer is read from a table in which every setting has a key of its own.  A key that is not
known makes the whole table an error; otherwise the settings are read one after the other,
and the first one of a wrong type or form is the error.
-/

set_option autoImplicit false

namespace TemplateBuild.ConfigTable

/-- The keys that a table may have. -/
def keys : List String :=
  ["sourceDirectory", "outputDirectory", "templateExtensions", "preserveHierarchy",
   "purgeWhitespace", "knownHelpers", "knownHelpersOnly", "encoding", "engineIdentifier",
   "handlebarsName", "cacheDirectory", "scriptDirectories", "engineUrl", "engineUrlTemplate",
   "offline", "timeoutSecs", "outputExtension", "failurePolicy", "dryRun"]

/-- A table as it is looked at: its keys in the order in which it lists them, and the answer
to each question for the value at a key.  An answer may be an interpreter's message. -/
structure View where
  listed : List (Lua.Key ConfigKey)
  answer : String → Except String ConfigValue

def view (table : ConfigTable) : View where
  listed := table.entries.map (·.1)
  answer := fun key => .ok ((table.get? (.other (.text (Bytes.ofString key)))).getD .nil)

def keyName : Lua.Key ConfigKey → Except String String
  | .index _ => .error "integer"
  | .other (.text bytes) => .ok bytes.toStringLossy
  | .other (.kind name) => .error name

def rejectUnknown : List (Lua.Key ConfigKey) → Except ConfigError Unit
  | [] => .ok ()
  | key :: rest =>
    match keyName key with
    | .error kind => .error (.unknownKey ("<" ++ kind ++ ">"))
    | .ok name => if keys.contains name then rejectUnknown rest else .error (.unknownKey name)

def ask (table : View) (key : String) : Except ConfigError ConfigValue :=
  (table.answer key).mapError (.invalidValue key)

def expected (key wanted : String) (value : ConfigValue) : ConfigError :=
  .invalidValue key ("expected " ++ wanted ++ ", got " ++ value.kind)

def asText (key : String) : ConfigValue → Except ConfigError String
  | .text bytes =>
    match Utf8.decode bytes with
    | .ok text => .ok (String.ofList text)
    | .error fault =>
      .error (.invalidValue key
        ("error converting Lua string to &str (" ++ fault.message ++ ")"))
  | value => .error (expected key "a string" value)

def readText (key : String) : ConfigValue → Except ConfigError (Option String)
  | .nil => .ok none
  | value => (asText key value).map some

def readBoolean (key : String) : ConfigValue → Except ConfigError (Option Bool)
  | .nil => .ok none
  | .boolean value => .ok (some value)
  | value => .error (expected key "a boolean" value)

/-- A value as the message about a duration shows it. -/
def shown : ConfigValue → String
  | .nil => "Nil"
  | .boolean value => "Boolean(" ++ toString value ++ ")"
  | .integer value => "Integer(" ++ toString value ++ ")"
  | .number value => "Number(" ++ value.plainText ++ ")"
  | .text bytes => "String(" ++ Text.quotedBytes bytes ++ ")"
  | .table _ => "Table"
  | .opaqueKind name => name

def nanosPerSecond : Nat := 1000000000

/-- Seconds to the nearest nanosecond; a half goes to the even neighbour. -/
def durationOf (mantissa : Nat) (exponent : Int) : Duration :=
  let seconds := Ratio.ofPower mantissa exponent
  Duration.ofNanos
    ((⟨seconds.numerator * nanosPerSecond, seconds.denominator⟩ : Ratio).round .toEven)

/-- A duration counts its seconds in 64 bits. -/
def secondsLimit : Nat := UInt64.size

/-- A positive number of seconds. -/
def readSeconds (key : String) (value : ConfigValue) : Except ConfigError (Option Duration) :=
  let refused := ConfigError.invalidValue key
    ("expected a positive number of seconds, got " ++ shown value)
  match value with
  | .nil => .ok none
  | .integer seconds =>
    if 0 < seconds then .ok (some (Duration.ofSeconds seconds.toNat)) else .error refused
  | .number (.finite false mantissa exponent) =>
    if mantissa = 0 then .error refused
    else
      let duration := durationOf mantissa exponent
      if duration.seconds < secondsLimit then .ok (some duration) else .error .durationOverflow
  | _ => .error refused

/-- One text or an array of texts. -/
def readTexts (key : String) : ConfigValue → Except ConfigError (Option (List String))
  | .nil => .ok none
  | .table list =>
    if list.entries.length ≠ list.border then
      .error (.invalidValue key "expected an array of strings, got a table with named keys")
    else (list.sequence.mapM (asText key)).map some
  | value => (asText key value).map fun text => some [text]

def readPolicy (key : String) (value : ConfigValue) :
    Except ConfigError (Option FailurePolicy) := do
  match ← readText key value with
  | none => .ok none
  | some label =>
    match FailurePolicy.ofLabel? label with
    | some policy => .ok (some policy)
    | none =>
      .error (.invalidValue key
        ("expected 'fail-fast' or 'collect-all', got '" ++ label ++ "'"))

/-- A path of the configuration; a relative one starts at the directory of the file. -/
def resolvePath (base : Path) (text : String) : Path :=
  base.join (Path.ofString text)

/-- Asks for the value at a key and reads it. -/
def setting {α : Type} (table : View) (read : String → ConfigValue → Except ConfigError α)
    (key : String) : Except ConfigError α := do
  read key (← ask table key)

def readView (table : View) (base : Path) : Except ConfigError ConfigLayer := do
  rejectUnknown table.listed
  let path := fun key => (setting table readText key).map (·.map (resolvePath base))
  let sourceDirectory ← path "sourceDirectory"
  let outputDirectory ← path "outputDirectory"
  let templateExtensions ← setting table readTexts "templateExtensions"
  let preserveHierarchy ← setting table readBoolean "preserveHierarchy"
  let purgeWhitespace ← setting table readBoolean "purgeWhitespace"
  let knownHelpers ← setting table readTexts "knownHelpers"
  let knownHelpersOnly ← setting table readBoolean "knownHelpersOnly"
  let encoding ← setting table readText "encoding"
  let engineIdentifier ←
    match ← setting table readText "engineIdentifier" with
    | some engine => pure (some engine)
    | none => setting table readText "handlebarsName"
  let cacheDirectory ← path "cacheDirectory"
  let scriptDirectories ← setting table readTexts "scriptDirectories"
  let engineUrl ← setting table readText "engineUrl"
  let engineUrlTemplate ← setting table readText "engineUrlTemplate"
  let offline ← setting table readBoolean "offline"
  let timeout ← setting table readSeconds "timeoutSecs"
  let outputExtension ← setting table readText "outputExtension"
  let failurePolicy ← setting table readPolicy "failurePolicy"
  let dryRun ← setting table readBoolean "dryRun"
  return {
    sourceDirectory, outputDirectory, templateExtensions, preserveHierarchy, purgeWhitespace,
    knownHelpers, knownHelpersOnly, encoding, engineIdentifier, cacheDirectory,
    scriptDirectories := scriptDirectories.map (·.map (resolvePath base))
    engineUrl, engineUrlTemplate, offline, timeout, outputExtension, failurePolicy, dryRun }

/-- The layer that a table describes. -/
def read (table : ConfigTable) (base : Path) : Except ConfigError ConfigLayer :=
  readView table.view base

end TemplateBuild.ConfigTable

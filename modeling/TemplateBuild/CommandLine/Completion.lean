import TemplateBuild.CommandLine.Invocation
import TemplateBuild.Json.Writer
import TemplateBuild.Run.Basic

/-!
# How a command ends

A command ends with something to report or with an error, and either way with texts for the
standard streams and an exit code.  What scripts wrote to the standard output comes last.
-/

set_option autoImplicit false

namespace TemplateBuild.CommandLine

inductive Completion where
  | precompiled (report : Report) (format : OutputFormat)
  | fetched (engine : Engine) (format : OutputFormat)
  /-- Templates were rejected and left out. -/
  | rejected (failures : List CompileFailure) (format : OutputFormat)
  /-- Messages from the outermost to the innermost. -/
  | failed (messages : List String)
  | misused (error : UsageError)
  | help (command : Option Command)
  | version

/-- What the program leaves behind for whoever called it. -/
structure Outcome where
  exitCode : Nat
  output : Bytes
  errors : Bytes
deriving DecidableEq, Repr

namespace Outcome

def success (output : String) : Outcome :=
  ⟨0, Bytes.ofString output, []⟩

def failure (output errors : String) : Outcome :=
  ⟨1, Bytes.ofString output, Bytes.ofString errors⟩

def misuse (errors : String) : Outcome :=
  ⟨2, [], Bytes.ofString errors⟩

end Outcome

/-! ## Lines of text -/

def escape (code : String) : String :=
  "\x1B[" ++ code ++ "m"

def green (text : String) : String :=
  escape "32" ++ text ++ escape "39"

def red (text : String) : String :=
  escape "31" ++ text ++ escape "39"

def dimmed (text : String) : String :=
  escape "2" ++ text ++ escape "0"

def success (message : String) : String :=
  "✓ " ++ message ++ "\n"

def information (message : String) : String :=
  "• " ++ message ++ "\n"

def error (message : String) : String :=
  "✗ " ++ message ++ "\n"

def statistic (label value : String) : String :=
  "  " ++ label ++ ": " ++ value ++ "\n"

/-- An error with what lies behind it. -/
def errorChain (messages : List String) : String :=
  error (": ".intercalate messages)

def rejectionCount (failures : List CompileFailure) : String :=
  error (RunError.failures failures).message

/-! ## Reports as text -/

def moduleLine (written : AssembledModule) : String :=
  "  " ++ green "+" ++ " " ++ written.path.display ++ " " ++
    dimmed ("(" ++ toString written.templates.length ++ " templates)") ++ "\n"

def failureLine (failure : CompileFailure) : String :=
  "  " ++ red "✗" ++ " " ++ failure.template.display ++ ": " ++ dimmed failure.fault ++ "\n"

def reportText (report : Report) (elapsed : Duration) : String :=
  String.join (report.modules.map moduleLine) ++ "\n" ++
    (if report.dryRun then information "Dry run - no files written"
      else success "Precompilation complete!") ++
    statistic "Engine"
      (report.engine.name ++ " [" ++ report.engine.location.availability.label ++ "]") ++
    statistic "Modules" (toString report.modules.length) ++
    statistic "Templates" (toString report.templatesCompiled) ++
    statistic "Duration" elapsed.brief

def engineText (engine : Engine) (elapsed : Duration) : String :=
  success ("Engine " ++ engine.name ++ " is available") ++
    statistic "Source" engine.location.availability.label ++
    statistic "Path" engine.location.path.display ++
    statistic "Duration" elapsed.brief

/-! ## Reports as JSON -/

/-- A path that is not UTF-8 has no JSON. -/
def pathValue (path : Path) : Except String Json.Value :=
  match path.bytes.toString? with
  | some text => .ok (.text text)
  | none => .error "path contains invalid UTF-8 characters"

def engineValue (engine : Engine) : Except String Json.Value := do
  let path ← pathValue engine.location.path
  return .object [("name", .text engine.name),
    ("location",
      .object [("kind", .text engine.location.availability.label), ("path", path)])]

def moduleValue (written : AssembledModule) : Except String Json.Value := do
  return .object [("path", ← pathValue written.path),
    ("templates", .list (written.templates.map .text))]

def elapsedValue (elapsed : Duration) : Json.Value :=
  .number (elapsed.seconds * 1000 + elapsed.nanos / 1000000)

def reportValue (report : Report) (elapsed : Duration) : Except String Json.Value := do
  let engine ← engineValue report.engine
  let modules ← report.modules.mapM moduleValue
  return .object [("engine", engine), ("bundles", .list modules),
    ("templates_compiled", .number report.templatesCompiled),
    ("dry_run", .boolean report.dryRun), ("elapsed_ms", elapsedValue elapsed)]

def fetchedValue (engine : Engine) (elapsed : Duration) : Except String Json.Value := do
  return .object [("engine", ← engineValue engine), ("elapsed_ms", elapsedValue elapsed)]

def failureValue (failure : CompileFailure) : Except String Json.Value := do
  return .object [("template", ← pathValue failure.template),
    ("bundle", ← pathValue failure.bundle), ("message", .text failure.fault)]

def failuresValue (failures : List CompileFailure) : Except String Json.Value := do
  return .object [("failures", .list (← failures.mapM failureValue))]

/-- What is done with JSON, or with the reason why there is none. -/
def withJson (value : Except String Json.Value) (next : String → Outcome) : Outcome :=
  match value with
  | .ok value => next (value.pretty 0 ++ "\n")
  | .error reason => Outcome.failure "" (errorChain ["Failed to serialize to JSON", reason])

/-! ## Help -/

def programSummary : String :=
  "tmplc - precompile template trees into self-registering JavaScript modules"

def padded (width : Nat) (text : String) : String :=
  text ++ String.ofList (List.replicate (width - text.length) ' ')

/-- Two columns below a heading. -/
def listing (heading : String) (entries : List (String × String)) : String :=
  let width := (entries.map fun entry => entry.1.length).foldl max 0
  heading ++ ":\n" ++ String.join (entries.map fun (name, summary) =>
    "  " ++ padded width name ++ "  " ++ summary ++ "\n")

def parameterEntry (parameter : Parameter) : String × String :=
  let letter := match parameter.letter with
    | some letter => "-" ++ String.ofList [letter] ++ ", "
    | none => "    "
  (letter ++ parameter.shown, parameter.summary)

def helpText : Option Command → String
  | none =>
    let commands := Command.all.map fun command => (command.name, command.summary)
    programSummary ++ "\n\nUsage: tmplc [OPTIONS] <COMMAND>\n\n" ++
      listing "Commands" (commands ++
        [(helpCommand, "Print this message or the help of the given subcommand(s)")]) ++ "\n" ++
      listing "Options" (programScope.parameters.map parameterEntry)
  | some command =>
    command.summary ++ "\n\nUsage: tmplc " ++ command.name ++ " [OPTIONS]\n\n" ++
      listing "Options" (command.scope.parameters.map parameterEntry)

/-- Without arguments the help takes the place of a message. -/
def misuseText : UsageError → String
  | .noArguments => helpText none
  | error => "error: " ++ error.message ++ "\n\nFor more information, try '--help'.\n"

/-! ## The outcome -/

/-- What is shown of a completion; `elapsed` is how long it took. -/
def Completion.outcome (completion : Completion) (elapsed : Duration) : Outcome :=
  match completion with
  | .precompiled report .text => Outcome.success (reportText report elapsed)
  | .precompiled report .json => withJson (reportValue report elapsed) Outcome.success
  | .fetched engine .text => Outcome.success (engineText engine elapsed)
  | .fetched engine .json => withJson (fetchedValue engine elapsed) Outcome.success
  | .rejected failures .text =>
    Outcome.failure "" (String.join (failures.map failureLine) ++ rejectionCount failures)
  | .rejected failures .json =>
    withJson (failuresValue failures) fun text => Outcome.failure text (rejectionCount failures)
  | .failed messages => Outcome.failure "" (errorChain messages)
  | .misused error => Outcome.misuse (misuseText error)
  | .help command => Outcome.success (helpText command)
  | .version =>
    Outcome.success
      (Environment.applicationName ++ " " ++ Environment.applicationVersion ++ "\n")

/-- The outcome together with what scripts have written. -/
def Outcome.withScripts (outcome : Outcome) (said : ScriptOutput) : Outcome :=
  { outcome with output := outcome.output ++ said.standard,
                 errors := said.error ++ outcome.errors }

end TemplateBuild.CommandLine

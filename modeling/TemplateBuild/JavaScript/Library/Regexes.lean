import TemplateBuild.JavaScript.Library.Basic
import TemplateBuild.JavaScript.Regex.Match

/-!
# Functions on regular expressions

A global or sticky expression goes on where its last match ended, and begins anew after a
failure.
-/

set_option autoImplicit false

namespace TemplateBuild.JavaScript.Library.Regexes

open Action hiding pure bind

structure Regular where
  address : Nat
  source : Units
  flags : Units
  pattern : Regex.Pattern

def regular? (value : Value) : Action (Option Regular) := do
  match value with
  | .object address =>
    match (← objectAt address).kind with
    | .regex source flags pattern => return some ⟨address, source, flags, pattern⟩
    | _ => return none
  | _ => return none

def regularThis (value : Value) : Action Regular := do
  match ← regular? value with
  | some regular => return regular
  | none => typeFault "not a regular expression"

def construct : Builtin := fun i call => do
  match ← regular? (call.argument 0) with
  | some regular =>
    let flags ← match call.argument 1 with
      | .undefined => pure regular.flags
      | value => Operator.toText i value
    Step.newRegex regular.source flags
  | none =>
    let source ← match call.argument 0 with
      | .undefined => pure (Units.ofString "(?:)")
      | value => Operator.toText i value
    let flags ← match call.argument 1 with
      | .undefined => pure #[]
      | value => Operator.toText i value
    Step.newRegex (if source.isEmpty then Units.ofString "(?:)" else source) flags

def lastIndexKey : Units := Units.ofString "lastIndex"

def setLastIndex (regular : Regular) (place : Nat) : Action Unit :=
  Access.putOwn regular.address lastIndexKey (.ofNat place)

/-- Whether the expression remembers where it ended. -/
def remembers (regular : Regular) : Bool :=
  regular.pattern.flags.isGlobal || regular.pattern.flags.sticky

/-- The next match in a text; the place for the one after it is stored. -/
def matchNext (i : Interpreter) (regular : Regular) (text : Units) :
    Action (Option (Array Regex.Capture)) := do
  let stored ← Operator.toWhole i (← Access.get i (.object regular.address) lastIndexKey)
  let start := if remembers regular then stored else 0
  let found := if start < 0 ∨ text.size < start then none
    else if regular.pattern.flags.sticky then Regex.matchAt regular.pattern text start.toNat
    else Regex.search regular.pattern text (text.size + 1) start.toNat
  if remembers regular then
    match found with
    | some captures =>
      match captures[0]? with
      | some (some (_, last)) => setLastIndex regular last
      | _ => pure ()
    | none => setLastIndex regular 0
  return found

def pieceOf (text : Units) (capture : Regex.Capture) : Value :=
  match capture with
  | some (first, last) => .text (text.extract first last)
  | none => .undefined

def wholeOf (captures : Array Regex.Capture) : Nat × Nat :=
  ((captures[0]?).join).getD (0, 0)

/-- The captures of groups with names, or nothing if there are none. -/
def namedGroups (regular : Regular) (text : Units) (captures : Array Regex.Capture) :
    Action Value := do
  if regular.pattern.names.isEmpty then return .undefined
  let address ← newObject .plain none
  regular.pattern.names.reverse.forM fun (name, number) =>
    storeProperty address name (.plain (pieceOf text (captures[number]?).join))
  return .object address

/-- A match as an array with its place, its text and its groups. -/
def matchObject (regular : Regular) (text : Units) (captures : Array Regex.Capture) :
    Action Value := do
  let result ← newArray (captures.toList.map (pieceOf text))
  match result with
  | .object address =>
    storeProperty address (Units.ofString "index") (.plain (.ofNat (wholeOf captures).1))
    storeProperty address (Units.ofString "input") (.plain (.text text))
    storeProperty address (Units.ofString "groups")
      (.plain (← namedGroups regular text captures))
  | _ => pure ()
  return result

def exec : Builtin := fun i call => do
  let regular ← regularThis call.this
  let text ← textArgument i call 0
  match ← matchNext i regular text with
  | some captures => matchObject regular text captures
  | none => return .null

def test : Builtin := fun i call => do
  let regular ← regularThis call.this
  return .boolean (← matchNext i regular (← textArgument i call 0)).isSome

/-- The place behind an empty match. -/
def beyond (regular : Regular) (text : Units) (place : Nat) : Nat :=
  match (⟨text, regular.pattern.flags⟩ : Regex.Input).codeAt? place with
  | some (_, length) => place + length
  | none => place + 1

/-- All matches of a global expression; an empty match moves on by one character. -/
def allMatches (i : Interpreter) (regular : Regular) (text : Units) :
    Action (List (Array Regex.Capture)) := do
  setLastIndex regular 0
  iterate (fun (found : List (Array Regex.Capture)) => do
    match ← matchNext i regular text with
    | none => return .inr found.reverse
    | some captures =>
      let (first, last) := wholeOf captures
      if first = last then setLastIndex regular (beyond regular text last)
      return .inl (captures :: found)) endless []

/-- The matches that a replacement concerns: all of them or the first one. -/
def matchesOf (i : Interpreter) (regular : Regular) (text : Units) :
    Action (List (Array Regex.Capture)) := do
  if regular.pattern.flags.isGlobal then allMatches i regular text
  else
    match ← matchNext i regular text with
    | some captures => return [captures]
    | none => return []

def toText : Builtin := fun _ call => do
  let regular ← regularThis call.this
  let slash := Units.ofString "/"
  return .text (slash ++ regular.source ++ slash ++ regular.flags)

def flag (get : Regex.Flags → Bool) : Builtin := fun _ call => do
  return .boolean (get (← regularThis call.this).pattern.flags)

def source : Builtin := fun _ call => do
  return .text (← regularThis call.this).source

def flags : Builtin := fun _ call => do
  return .text (← regularThis call.this).flags

def methods : Group := ⟨"RegExp.prototype",
  [("exec", exec), ("test", test), ("toString", toText)]⟩

def accessors : Group := ⟨"RegExp.prototype.get",
  [("dotAll", flag (·.dotAll)), ("flags", flags), ("global", flag (·.isGlobal)),
   ("ignoreCase", flag (·.ignoreCase)), ("multiline", flag (·.multiline)), ("source", source),
   ("sticky", flag (·.sticky)), ("unicode", flag (·.unicode))]⟩

end TemplateBuild.JavaScript.Library.Regexes

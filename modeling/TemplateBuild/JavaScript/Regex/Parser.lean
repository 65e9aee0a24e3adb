import TemplateBuild.JavaScript.Numeral
import TemplateBuild.JavaScript.Regex.Syntax

/-!
# Reading regular expressions

Braces and brackets that close nothing stand for themselves, and so do letters behind a
backslash that mean nothing else.
-/

set_option autoImplicit false

namespace TemplateBuild.JavaScript.Regex

namespace Parser

structure State where
  input : List Nat
  groups : Nat
  names : List (Units × Nat)
  unicode : Bool

abbrev Reader := StateT State (Except String)

def character (code : Nat) : Char :=
  Char.ofNat code

def current : Reader (Option Char) := do
  return (← get).input.head?.map character

def take : Reader (Option Nat) := do
  match (← get).input with
  | code :: rest =>
    modify fun state => { state with input := rest }
    return some code
  | [] => return none

def accept (wanted : Char) : Reader Bool := do
  match (← get).input with
  | code :: rest =>
    if code = wanted.toNat then
      modify fun state => { state with input := rest }
      return true
    return false
  | [] => return false

def startsWith (text : String) : Reader Bool := do
  return (text.toList.map Char.toNat).isPrefixOf (← get).input

def skip (count : Nat) : Reader Unit :=
  modify fun state => { state with input := state.input.drop count }

def digits : Reader (List Char) := do
  let found := (((← get).input.map character).takeWhile Numeral.isDigit)
  skip found.length
  return found

/-- So many hexadecimal digits. -/
def hex? (count : Nat) : Reader (Option Nat) := do
  let found := ((← get).input.take count).map character
  if found.length = count ∧ found.all (Numeral.isDigitIn 16) then
    skip count
    return some (Numeral.valueIn 16 found)
  return none

/-- The bounds of a repetition in braces, if they are well formed. -/
def bounds? (input : List Char) : Option (Nat × Option Nat × Nat) :=
  let (low, rest) := input.span Numeral.isDigit
  if low.isEmpty then none
  else
    let least := Numeral.valueIn 10 low
    match rest with
    | '\x7d' :: _ => some (least, some least, low.length + 1)
    | ',' :: '\x7d' :: _ => some (least, none, low.length + 2)
    | ',' :: rest =>
      let (high, rest) := rest.span Numeral.isDigit
      match high, rest with
      | _ :: _, '\x7d' :: _ =>
        some (least, some (Numeral.valueIn 10 high), low.length + high.length + 2)
      | _, _ => none
    | _ => none

/-- A quantifier, if one comes next. -/
def quantifier? : Reader (Option (Nat × Option Nat)) := do
  match ← current with
  | some '*' =>
    skip 1
    return some (0, none)
  | some '+' =>
    skip 1
    return some (1, none)
  | some '?' =>
    skip 1
    return some (0, some 1)
  | some '\x7b' =>
    match bounds? (((← get).input.drop 1).map character) with
    | some (least, most, length) =>
      skip (length + 1)
      if most.any (· < least) then throw "numbers out of order in quantifier"
      return some (least, most)
    | none => return none
  | _ => return none

def kindOf? : Char → Option Member
  | 'd' => some (.kind .digit false)
  | 'D' => some (.kind .digit true)
  | 'w' => some (.kind .word false)
  | 'W' => some (.kind .word true)
  | 's' => some (.kind .space false)
  | 'S' => some (.kind .space true)
  | _ => none

/-- The code that an escape with a `u` stands for. -/
def unicodeEscape : Reader Nat := do
  if (← get).unicode && (← accept '\x7b') then
    let found := ((← get).input.map character).takeWhile (Numeral.isDigitIn 16)
    skip found.length
    if !(← accept '\x7d') || found.isEmpty then throw "invalid unicode escape"
    return Numeral.valueIn 16 found
  match ← hex? 4 with
  | none => if (← get).unicode then throw "invalid unicode escape" else return 'u'.toNat
  | some high =>
    if (← get).unicode && 0xD800 ≤ high && high ≤ 0xDBFF && (← startsWith "\\u") then
      let before ← get
      skip 2
      match ← hex? 4 with
      | some low =>
        if 0xDC00 ≤ low ∧ low ≤ 0xDFFF then
          return 0x10000 + (high - 0xD800) * 0x400 + (low - 0xDC00)
        set before
        return high
      | none =>
        set before
        return high
    return high

/-- The code that an escape stands for, behind its backslash. -/
def escapedCode (inClass : Bool) : Reader Nat := do
  match ← take with
  | none => throw "\\ at end of pattern"
  | some code =>
    match character code with
    | 'n' => return 0x0A
    | 't' => return 0x09
    | 'r' => return 0x0D
    | 'v' => return 0x0B
    | 'f' => return 0x0C
    | 'b' => return if inClass then 0x08 else code
    | 'c' =>
      match ← current with
      | some letter =>
        if letter.isAlpha then
          skip 1
          return letter.toNat % 32
        modify fun state => { state with input := 'c'.toNat :: state.input }
        return '\\'.toNat
      | none => return '\\'.toNat
    | 'x' => return (← hex? 2).getD code
    | 'u' => unicodeEscape
    | letter =>
      if '0' ≤ letter ∧ letter ≤ '7' then
        let limit := if letter ≤ '3' then 2 else 1
        let more := (((← get).input.take limit).map character).takeWhile (Numeral.isDigitIn 8)
        skip more.length
        return Numeral.valueIn 8 (letter :: more)
      return code

/-- One end of a range in a class, or a kind. -/
def classMember : Reader Member := do
  if ← accept '\\' then
    match (← current).bind kindOf? with
    | some kind =>
      skip 1
      return kind
    | none =>
      let code ← escapedCode true
      return .range code code
  match ← take with
  | some code => return .range code code
  | none => throw "unterminated character class"

def classMembers : Nat → Reader (List Member)
  | 0 => throw "unterminated character class"
  | fuel + 1 => do
    if ← accept ']' then return []
    let first ← classMember
    if (← current) == some '-' && !(← startsWith "-]") then
      skip 1
      let second ← classMember
      match first, second with
      | .range low _, .range high _ =>
        if high < low then throw "range out of order in character class"
        return .range low high :: (← classMembers fuel)
      | _, _ => return first :: .range 0x2D 0x2D :: second :: (← classMembers fuel)
    return first :: (← classMembers fuel)

/-- The name of a group up to its closing sign. -/
def groupName : Reader Units := do
  let name := (← get).input.takeWhile (· ≠ '>'.toNat)
  skip name.length
  if !(← accept '>') || name.isEmpty then throw "invalid capture group name"
  return (name.flatMap Units.ofCode).toArray

mutual

def readChoice : Nat → Reader Node
  | 0 => throw "nested too deeply"
  | depth + 1 => do
    let first ← readSequence depth
    if ← accept '|' then
      match ← readChoice depth with
      | .choice others => return .choice (first :: others)
      | other => return .choice [first, other]
    return first
termination_by structural depth => depth

def readSequence : Nat → Reader Node
  | 0 => throw "nested too deeply"
  | depth + 1 => do
    match ← current with
    | none => return .sequence []
    | some '|' => return .sequence []
    | some ')' => return .sequence []
    | some _ =>
      let before := (← get).groups
      let (atom, repeatable) ← readAtom depth
      let node ← match ← quantifier? with
        | none => pure atom
        | some (least, most) =>
          if !repeatable then throw "nothing to repeat"
          let greedy := !(← accept '?')
          pure (.repeated atom least most greedy (before + 1) ((← get).groups - before))
      match ← readSequence depth with
      | .sequence others => return .sequence (node :: others)
      | other => return .sequence [node, other]
termination_by structural depth => depth

/-- An atom, and whether it can be repeated. -/
def readAtom : Nat → Reader (Node × Bool)
  | 0 => throw "nested too deeply"
  | depth + 1 => do
    match ← take with
    | none => throw "unexpected end"
    | some code =>
      match character code with
      | '^' => return (.start, false)
      | '$' => return (.finish, false)
      | '.' => return (.any, true)
      | '*' => throw "nothing to repeat"
      | '+' => throw "nothing to repeat"
      | '?' => throw "nothing to repeat"
      | '(' =>
        let node ← readGroup depth
        if !(← accept ')') then throw "unterminated group"
        return node
      | '[' =>
        let negated ← accept '^'
        let members ← classMembers ((← get).input.length + 1)
        return (.members negated members, true)
      | '\\' => readEscape
      | '\x7b' =>
        if (← get).unicode then throw "lone quantifier bracket"
        if (bounds? ((← get).input.map character)).isSome then throw "nothing to repeat"
        return (.code code, true)
      | _ => return (.code code, true)
termination_by structural depth => depth

def readGroup : Nat → Reader (Node × Bool)
  | 0 => throw "nested too deeply"
  | depth + 1 => do
    if ← accept '?' then
      if ← accept ':' then return (← readChoice depth, true)
      if ← accept '=' then return (.look true false (← readChoice depth), true)
      if ← accept '!' then return (.look true true (← readChoice depth), true)
      if !(← accept '<') then throw "invalid group"
      if ← accept '=' then return (.look false false (← readChoice depth), false)
      if ← accept '!' then return (.look false true (← readChoice depth), false)
      let name ← groupName
      if ((← get).names.lookup name).isSome then throw "duplicate capture group name"
      let number := (← get).groups + 1
      modify fun state => { state with groups := number, names := (name, number) :: state.names }
      return (.capture number (← readChoice depth), true)
    let number := (← get).groups + 1
    modify fun state => { state with groups := number }
    return (.capture number (← readChoice depth), true)
termination_by structural depth => depth

def readEscape : Reader (Node × Bool) := do
  match ← current with
  | some 'b' =>
    skip 1
    return (.boundary false, false)
  | some 'B' =>
    skip 1
    return (.boundary true, false)
  | some 'k' =>
    if ← startsWith "k<" then
      skip 2
      return (.sameNamed (← groupName), true)
    skip 1
    return (.code 'k'.toNat, true)
  | some letter =>
    match kindOf? letter with
    | some member =>
      skip 1
      return (.members false [member], true)
    | none =>
      if '1' ≤ letter ∧ letter ≤ '9' then
        let number := Numeral.valueIn 10 (← digits)
        return (.same number, true)
      return (.code (← escapedCode false), true)
  | none => throw "\\ at end of pattern"

end

end Parser

/-- Puts numbers for the names of groups. -/
def resolve (names : List (Units × Nat)) : Nat → Node → Node
  | 0, node => node
  | fuel + 1, node =>
    match node with
    | .sameNamed name => .same ((names.lookup name).getD 0)
    | .capture number inner => .capture number (resolve names fuel inner)
    | .look ahead negated inner => .look ahead negated (resolve names fuel inner)
    | .sequence nodes => .sequence (nodes.map (resolve names fuel))
    | .choice nodes => .choice (nodes.map (resolve names fuel))
    | .repeated inner least most greedy first count =>
      .repeated (resolve names fuel inner) least most greedy first count
    | node => node

/-- Reads a pattern and its flags. -/
def parse (source flags : Units) : Except String Pattern := do
  match Flags.read flags.toList .none with
  | none => throw "invalid regular expression flags"
  | some flags =>
    let input := if flags.unicode then Units.codes source.toList
      else source.toList.map UInt16.toNat
    let depth := 4 * input.length + 16
    let (node, state) ← (Parser.readChoice depth).run ⟨input, 0, [], flags.unicode⟩
    match state.input with
    | [] => return ⟨resolve state.names depth node, flags, state.groups, state.names⟩
    | _ => throw "unmatched ')'"

end TemplateBuild.JavaScript.Regex

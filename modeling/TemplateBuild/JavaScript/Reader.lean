import TemplateBuild.JavaScript.Token

/-!
# Reading tokens and declaring names

What all readers of syntax share: the current token and what follows it, and the scopes whose
names are being declared.  A name is declared once; a variable may be declared again, but not
where a block in between has a name of its own like it.
-/

set_option autoImplicit false

namespace TemplateBuild.JavaScript.Parser

/-- The names that a block declares.  `vars` are those declared in it for its function. -/
structure BlockScope where
  lexicals : List (Name × Bool)
  functions : List Function
  vars : List Name

/-- A function that is being read, with its blocks, the innermost first. -/
structure FunctionScope where
  blocks : List BlockScope
  vars : List Name
  strict : Bool
  labels : List Name
  loops : Nat
  switches : Nat

def emptyBlock : BlockScope := ⟨[], [], []⟩

def emptyFunction (strict : Bool) : FunctionScope :=
  ⟨[emptyBlock], [], strict, [], 0, 0⟩

structure State where
  /-- The text from the current token on. -/
  input : List Char
  token : Token
  /-- Whether a line ended before the current token. -/
  newline : Bool
  rest : List Char
  functions : List FunctionScope
  /-- Whether `in` is an operator here. -/
  allowIn : Bool

abbrev Reader := StateT State (Except SyntaxFault)

def refuse {α : Type} (detail : String) : Reader α :=
  throw ⟨detail⟩

/-! ## Tokens -/

/-- The token at the start of a text, what comes before it, and what follows. -/
def scanAt (text : List Char) : Except SyntaxFault (Bool × List Char × Token × List Char) := do
  let (newline, input) ← Scan.skipBlank (text.length + 1) text false
  let (token, rest) ← Scan.next input
  return (newline, input, token, rest)

def moveTo (text : List Char) : Reader Unit := do
  let (newline, input, token, rest) ← scanAt text
  modify fun state => { state with input, token, newline, rest }

def advance : Reader Unit := do
  moveTo (← get).rest

def current : Reader Token := do
  return (← get).token

/-- The token behind the current one, and whether a line ends before it. -/
def following : Reader (Token × Bool) := do
  match scanAt (← get).rest with
  | .ok (newline, _, token, _) => return (token, newline)
  | .error _ => return (.ended, false)

def atSign (symbol : String) : Reader Bool := do
  match ← current with
  | .sign found => return found == symbol
  | _ => return false

def atWord (name : String) : Reader Bool := do
  match ← current with
  | .word found false => return found == name
  | _ => return false

def accept (symbol : String) : Reader Bool := do
  if ← atSign symbol then
    advance
    return true
  return false

def acceptWord (name : String) : Reader Bool := do
  if ← atWord name then
    advance
    return true
  return false

def expect (symbol : String) : Reader Unit := do
  if !(← accept symbol) then refuse ("expected '" ++ symbol ++ "'")

def expectWord (name : String) : Reader Unit := do
  if !(← acceptWord name) then refuse ("expected '" ++ name ++ "'")

/-- A statement ends at a semicolon, at a brace, at the end, or with the line. -/
def endStatement : Reader Unit := do
  if ← accept ";" then return
  let state ← get
  match state.token with
  | .ended => return
  | .sign "\x7d" => return
  | _ => if state.newline then return else refuse "expected ';'"

def inContext {α : Type} (allowIn : Bool) (read : Reader α) : Reader α := do
  let before := (← get).allowIn
  modify fun state => { state with allowIn := allowIn }
  let result ← read
  modify fun state => { state with allowIn := before }
  return result

/-! ## Names -/

def reserved : List String :=
  ["break", "case", "catch", "class", "const", "continue", "debugger", "default", "delete",
   "do", "else", "enum", "export", "extends", "false", "finally", "for", "function", "if",
   "import", "in", "instanceof", "new", "null", "return", "super", "switch", "this", "throw",
   "true", "try", "typeof", "var", "void", "while", "with"]

def reservedInStrict : List String :=
  ["implements", "interface", "let", "package", "private", "protected", "public", "static",
   "yield"]

def isStrict : Reader Bool := do
  return ((← get).functions.head?.map (·.strict)).getD false

def isName (word : String) : Reader Bool := do
  return !(reserved.contains word) && !((← isStrict) && reservedInStrict.contains word)

/-- A name that can be declared or referred to. -/
def readName : Reader Name := do
  match ← current with
  | .word word _ =>
    if ← isName word then
      advance
      return Units.ofString word
    refuse "unexpected keyword"
  | _ => refuse "expected a name"

/-! ## Scopes -/

def updateFunction (update : FunctionScope → FunctionScope) : Reader Unit :=
  modify fun state =>
    match state.functions with
    | scope :: around => { state with functions := update scope :: around }
    | [] => state

def functionScope : Reader FunctionScope := do
  return (← get).functions.headD (emptyFunction false)

def updateBlock (update : BlockScope → BlockScope) : Reader Unit :=
  updateFunction fun scope =>
    match scope.blocks with
    | block :: around => { scope with blocks := update block :: around }
    | [] => scope

def twice {α : Type} (name : Name) : Reader α :=
  refuse ("redeclaration of '" ++ name.toString ++ "'")

/-- Declares a name for the current block. -/
def declareLexical (name : Name) (mutable : Bool) : Reader Unit := do
  match (← functionScope).blocks with
  | block :: _ =>
    if (block.lexicals.lookup name).isSome || block.vars.contains name then twice name
  | [] => return
  updateBlock fun block => { block with lexicals := block.lexicals ++ [(name, mutable)] }

/-- Declares a name for the current function. -/
def declareVariable (name : Name) : Reader Unit := do
  if (← functionScope).blocks.any fun block => (block.lexicals.lookup name).isSome then twice name
  updateFunction fun scope =>
    { scope with
      blocks := scope.blocks.map fun block => { block with vars := name :: block.vars }
      vars :=
        if scope.vars.contains name then scope.vars else scope.vars ++ [name] }

def declare (kind : DeclarationKind) (name : Name) : Reader Unit :=
  match kind with
  | .variable => declareVariable name
  | .lexical => declareLexical name true
  | .constant => declareLexical name false

/-- Declares a function: for the current function if it stands at its top, else for the block. -/
def declareFunction (code : Function) (name : Name) : Reader Statement := do
  let add := updateBlock fun block =>
    { block with
      functions := (block.functions.filter fun other => other.name != some name) ++ [code] }
  match (← functionScope).blocks with
  | [_] =>
    declareVariable name
    add
    return .empty
  | block :: around =>
    if (block.lexicals.lookup name).isNone then declareLexical name true
    if around.all fun outer => (outer.lexicals.lookup name).isNone then
      updateFunction fun scope => { scope with
        vars :=
          if scope.vars.contains name then scope.vars else scope.vars ++ [name] }
    add
    return .functionHere name
  | [] => return .empty

/-- Reads in a block of its own and gives the names and functions declared there. -/
def inBlock {α : Type} (read : Reader α) : Reader (α × BlockScope) := do
  updateFunction fun scope => { scope with blocks := emptyBlock :: scope.blocks }
  let result ← read
  let block := (← functionScope).blocks.headD emptyBlock
  updateFunction fun scope => { scope with blocks := scope.blocks.drop 1 }
  return (result, block)

/-- Reads a function's parts and gives its scope. -/
def inFunction {α : Type} (read : Reader α) : Reader (α × FunctionScope) := do
  let strict ← isStrict
  modify fun state => { state with functions := emptyFunction strict :: state.functions }
  let result ← read
  let scope ← functionScope
  modify fun state => { state with functions := state.functions.drop 1 }
  return (result, scope)

def inLoop {α : Type} (read : Reader α) : Reader α := do
  updateFunction fun scope => { scope with loops := scope.loops + 1 }
  let result ← read
  updateFunction fun scope => { scope with loops := scope.loops - 1 }
  return result

def inSwitch {α : Type} (read : Reader α) : Reader α := do
  updateFunction fun scope => { scope with switches := scope.switches + 1 }
  let result ← read
  updateFunction fun scope => { scope with switches := scope.switches - 1 }
  return result

def withLabel {α : Type} (label : Name) (read : Reader α) : Reader α := do
  updateFunction fun scope => { scope with labels := label :: scope.labels }
  let result ← read
  updateFunction fun scope => { scope with labels := scope.labels.drop 1 }
  return result

end TemplateBuild.JavaScript.Parser

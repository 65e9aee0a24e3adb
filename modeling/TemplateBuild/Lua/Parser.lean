import TemplateBuild.Lua.Jumps

/-!
# Reading Lua scripts

`Script.parse` reads the statements of a script.  Scopes are followed on the way, so that
every name is bound and no constant is assigned to.  All readers get the depth that is still
allowed, which the number of tokens bounds.
-/

set_option autoImplicit false

namespace TemplateBuild.Lua

namespace Parser

/-- The names that a function has declared so far, the innermost first. -/
structure FunctionScope where
  names : List (Bytes × Attribute)
  variadic : Bool

structure State where
  tokens : List Token.Placed
  /-- The line of the last token that was read. -/
  lastLine : Nat
  /-- The function being read first, then those around it. -/
  scopes : List FunctionScope

abbrev Reader := StateT State (Except SyntaxFault)

def peek : Reader Token := do
  match (← get).tokens with
  | (token, _) :: _ => return token
  | [] => return .ended

def line : Reader Nat := do
  match (← get).tokens with
  | (_, line) :: _ => return line
  | [] => return (← get).lastLine

def lastLine : Reader Nat := do
  return (← get).lastLine

def describe : Token → String
  | .name text => "'" ++ Bytes.toStringLossy text ++ "'"
  | .word text => "'" ++ text ++ "'"
  | .integer value => "'" ++ toString value.toInt ++ "'"
  | .float value => "'" ++ Number.floatText value ++ "'"
  | .text value => "'" ++ Bytes.toStringLossy value ++ "'"
  | .ended => "<eof>"

def refuse {α : Type} (detail : String) : Reader α := do
  throw ⟨← line, detail ++ " near " ++ describe (← peek)⟩

def advance : Reader Unit := do
  modify fun state =>
    match state.tokens with
    | (_, line) :: rest => { state with tokens := rest, lastLine := line }
    | [] => state

def atWord (word : String) : Reader Bool := do
  match ← peek with
  | .word text => return text == word
  | _ => return false

/-- Reads a word if it comes next. -/
def accept (word : String) : Reader Bool := do
  if ← atWord word then
    advance
    return true
  return false

def expect (word : String) : Reader Unit := do
  if !(← accept word) then
    refuse ("'" ++ word ++ "' expected")

def readName : Reader Bytes := do
  match ← peek with
  | .name text =>
    advance
    return text
  | _ => refuse "<name> expected"

/-- Runs a reader and forgets the names that it declared. -/
def inScope {α : Type} (read : Reader α) : Reader α := do
  let before := (← get).scopes
  let result ← read
  modify fun state => { state with scopes := before }
  return result

def declare (name : Bytes) (kind : Attribute) : Reader Unit :=
  modify fun state =>
    match state.scopes with
    | scope :: around =>
      { state with scopes := { scope with names := (name, kind) :: scope.names } :: around }
    | [] => state

def findName (name : Bytes) : List FunctionScope → Bool → Option (Binding × Attribute)
  | [], _ => none
  | scope :: around, outer =>
    match scope.names.lookup name with
    | some kind => some (if outer then .ofOuterFunction else .ofBlock, kind)
    | none => findName name around true

def bind (name : Bytes) : Reader (Binding × Attribute) := do
  return (findName name (← get).scopes false).getD (.ofEnvironment, .plain)

/-- How tightly an operator holds its operands on the left and on the right. -/
def precedence : String → Option (Nat × Nat)
  | "or" => some (1, 1)
  | "and" => some (2, 2)
  | "<" => some (3, 3)
  | ">" => some (3, 3)
  | "<=" => some (3, 3)
  | ">=" => some (3, 3)
  | "~=" => some (3, 3)
  | "==" => some (3, 3)
  | "|" => some (4, 4)
  | "~" => some (5, 5)
  | "&" => some (6, 6)
  | "<<" => some (7, 7)
  | ">>" => some (7, 7)
  | ".." => some (9, 8)
  | "+" => some (10, 10)
  | "-" => some (10, 10)
  | "*" => some (11, 11)
  | "/" => some (11, 11)
  | "//" => some (11, 11)
  | "%" => some (11, 11)
  | "^" => some (14, 13)
  | _ => none

def unaryPrecedence : Nat := 12

def unaryOp? : Token → Option UnaryOp
  | .word "not" => some .not
  | .word "-" => some .negate
  | .word "~" => some .complement
  | .word "#" => some .length
  | _ => none

def combine (op : String) (left right : Expr) (line : Nat) : Expr :=
  let binary := fun op => Expr.binary op left right line
  match op with
  | "or" => .or left right
  | "and" => .and left right
  | "<" => binary .lt
  | ">" => binary .gt
  | "<=" => binary .le
  | ">=" => binary .ge
  | "~=" => binary .ne
  | "==" => binary .eq
  | "|" => binary .bor
  | "~" => binary .bxor
  | "&" => binary .band
  | "<<" => binary .shl
  | ">>" => binary .shr
  | ".." => binary .concat
  | "+" => binary .add
  | "-" => binary .sub
  | "*" => binary .mul
  | "/" => binary .div
  | "//" => binary .idiv
  | "%" => binary .mod
  | _ => binary .pow

/-- Whether a block ends before the next token. -/
def atBlockEnd : Reader Bool := do
  match ← peek with
  | .ended => return true
  | .word word => return ["end", "else", "elseif", "until"].contains word
  | _ => return false

def tooDeep {α : Type} : Reader α := do
  throw ⟨← line, "chunk has too many syntax levels"⟩

def readAttribute : Reader Attribute := do
  if ← accept "<" then
    let name ← readName
    expect ">"
    if name = Bytes.ofString "const" then return .constant
    else if name = Bytes.ofString "close" then return .closing
    else throw ⟨← lastLine, "unknown kind '" ++ Bytes.toStringLossy name ++ "'"⟩
  else return .plain

/-- Only variables and indexed values can be assigned to, and no constants. -/
def checkTarget (target : Expr) : Reader Unit := do
  match target with
  | .index _ _ _ => return ()
  | .variable name _ =>
    match (← bind name).2 with
    | .plain => return ()
    | _ =>
      throw ⟨← lastLine, "attempt to assign to const variable '" ++ Bytes.toStringLossy name ++ "'"⟩
  | _ => refuse "syntax error"

mutual

def readExpr (limit : Nat) : Nat → Reader Expr
  | 0 => tooDeep
  | depth + 1 => do
    match unaryOp? (← peek) with
    | some op =>
      let line ← line
      advance
      let operand ← readExpr unaryPrecedence depth
      readOperators (.unary op operand line) limit depth
    | none =>
      let left ← readSimple depth
      readOperators left limit depth
termination_by structural depth => depth

/-- Goes on behind an operand as long as operators hold it more tightly than `limit`. -/
def readOperators (left : Expr) (limit : Nat) : Nat → Reader Expr
  | 0 => tooDeep
  | depth + 1 => do
    match ← peek with
    | .word op =>
      match precedence op with
      | some (onLeft, onRight) =>
        if onLeft > limit then
          let line ← line
          advance
          let right ← readExpr onRight depth
          readOperators (combine op left right line) limit depth
        else return left
      | none => return left
    | _ => return left
termination_by structural depth => depth

def readSimple : Nat → Reader Expr
  | 0 => tooDeep
  | depth + 1 => do
    match ← peek with
    | .integer value => advance; return .integer value
    | .float value => advance; return .float value
    | .text value => advance; return .text value
    | .word "nil" => advance; return .nil
    | .word "true" => advance; return .boolean true
    | .word "false" => advance; return .boolean false
    | .word "..." =>
      match (← get).scopes with
      | scope :: _ =>
        if scope.variadic then
          advance
          return .rest
        else refuse "cannot use '...' outside a vararg function"
      | [] => refuse "cannot use '...' outside a vararg function"
    | .word "\x7b" => readTable depth
    | .word "function" =>
      let line ← line
      advance
      return .function (← readBody [] line depth)
    | _ => readSuffixed depth
termination_by structural depth => depth

def readPrimary : Nat → Reader Expr
  | 0 => tooDeep
  | depth + 1 => do
    match ← peek with
    | .name name =>
      advance
      let (binding, _) ← bind name
      return .variable name binding
    | .word "(" =>
      advance
      let inner ← readExpr 0 depth
      expect ")"
      return .single inner
    | _ => refuse "unexpected symbol"
termination_by structural depth => depth

def readSuffixed : Nat → Reader Expr
  | 0 => tooDeep
  | depth + 1 => do
    let first ← readPrimary depth
    readSuffixes first depth
termination_by structural depth => depth

def readSuffixes (object : Expr) : Nat → Reader Expr
  | 0 => tooDeep
  | depth + 1 => do
    match ← peek with
    | .word "." =>
      advance
      let line ← line
      let name ← readName
      readSuffixes (.index object (.text name) line) depth
    | .word "[" =>
      advance
      let key ← readExpr 0 depth
      let line ← line
      expect "]"
      readSuffixes (.index object key line) depth
    | .word ":" =>
      advance
      let name ← readName
      let line ← line
      let arguments ← readArguments depth
      readSuffixes (.method object name arguments line) depth
    | .word "(" =>
      let line ← line
      let arguments ← readArguments depth
      readSuffixes (.call object arguments line) depth
    | .word "\x7b" =>
      let line ← line
      let arguments ← readArguments depth
      readSuffixes (.call object arguments line) depth
    | .text _ =>
      let line ← line
      let arguments ← readArguments depth
      readSuffixes (.call object arguments line) depth
    | _ => return object
termination_by structural depth => depth

def readArguments : Nat → Reader (List Expr)
  | 0 => tooDeep
  | depth + 1 => do
    match ← peek with
    | .text value => advance; return [.text value]
    | .word "\x7b" => return [← readTable depth]
    | .word "(" =>
      advance
      if ← accept ")" then return []
      let arguments ← readExprs depth
      expect ")"
      return arguments
    | _ => refuse "function arguments expected"
termination_by structural depth => depth

def readExprs : Nat → Reader (List Expr)
  | 0 => tooDeep
  | depth + 1 => do
    let first ← readExpr 0 depth
    if ← accept "," then return first :: (← readExprs depth)
    return [first]
termination_by structural depth => depth

def readTable : Nat → Reader Expr
  | 0 => tooDeep
  | depth + 1 => do
    let line ← line
    expect "\x7b"
    let items ← readItems depth
    return .table items line
termination_by structural depth => depth

def readItems : Nat → Reader (List Item)
  | 0 => tooDeep
  | depth + 1 => do
    if ← accept "\x7d" then return []
    let item ← readItem depth
    if (← accept ",") || (← accept ";") then return item :: (← readItems depth)
    expect "\x7d"
    return [item]
termination_by structural depth => depth

def readItem : Nat → Reader Item
  | 0 => tooDeep
  | depth + 1 => do
    match (← get).tokens with
    | (.word "[", _) :: _ =>
      advance
      let key ← readExpr 0 depth
      expect "]"
      expect "="
      let value ← readExpr 0 depth
      return .keyed key value (← lastLine)
    | (.name name, _) :: (.word "=", _) :: _ =>
      advance
      advance
      let value ← readExpr 0 depth
      return .keyed (.text name) value (← lastLine)
    | _ => return .positional (← readExpr 0 depth)
termination_by structural depth => depth

/-- Reads parameters and block of a function; `first` are parameters that it has anyway. -/
def readBody (first : List Bytes) (line : Nat) : Nat → Reader Body
  | 0 => tooDeep
  | depth + 1 => inScope do
    expect "("
    let (parameters, variadic) ← readParameters depth
    let parameters := first ++ parameters
    modify fun state => { state with
      scopes := ⟨(parameters.map fun name => (name, Attribute.plain)).reverse, variadic⟩ ::
        state.scopes }
    let block ← readBlock depth
    expect "end"
    match jumpFault? block with
    | some detail => throw ⟨← lastLine, detail⟩
    | none => return .mk parameters variadic block line
termination_by structural depth => depth

def readParameters : Nat → Reader (List Bytes × Bool)
  | 0 => tooDeep
  | depth + 1 => do
    if ← accept ")" then return ([], false)
    if ← accept "..." then
      expect ")"
      return ([], true)
    let name ← readName
    if ← accept "," then
      if ← atWord ")" then refuse "<name> expected"
      let (others, variadic) ← readParameters depth
      return (name :: others, variadic)
    expect ")"
    return ([name], false)
termination_by structural depth => depth

/-- Reads statements up to the end of a block; its names are forgotten behind it. -/
def readBlock : Nat → Reader (List Statement)
  | 0 => tooDeep
  | depth + 1 => inScope (readStatements depth)
termination_by structural depth => depth

def readStatements : Nat → Reader (List Statement)
  | 0 => tooDeep
  | depth + 1 => do
    if ← atBlockEnd then return []
    if ← atWord "return" then return [← readReturn depth]
    if ← accept ";" then readStatements depth
    else
      let statement ← readStatement depth
      return statement :: (← readStatements depth)
termination_by structural depth => depth

def readReturn : Nat → Reader Statement
  | 0 => tooDeep
  | depth + 1 => do
    let line ← line
    expect "return"
    let values ← if (← atBlockEnd) || (← atWord ";") then pure [] else readExprs depth
    let _ ← accept ";"
    if !(← atBlockEnd) then refuse "'<eof>' expected"
    return .returns values line
termination_by structural depth => depth

def readStatement : Nat → Reader Statement
  | 0 => tooDeep
  | depth + 1 => do
    let line ← line
    match ← peek with
    | .word "if" =>
      advance
      readConditional depth
    | .word "while" =>
      advance
      let condition ← readExpr 0 depth
      expect "do"
      let body ← readBlock depth
      expect "end"
      return .whileLoop condition body
    | .word "do" =>
      advance
      let body ← readBlock depth
      expect "end"
      return .block body
    | .word "for" =>
      advance
      readFor line depth
    | .word "repeat" =>
      advance
      inScope do
        let body ← readStatements depth
        expect "until"
        let condition ← readExpr 0 depth
        return .repeatLoop body condition
    | .word "function" =>
      advance
      readFunction line depth
    | .word "local" =>
      advance
      if ← accept "function" then
        let name ← readName
        declare name .plain
        return .localFunction name (← readBody [] line depth)
      readLocals depth
    | .word "::" =>
      advance
      let name ← readName
      expect "::"
      return .label name
    | .word "break" =>
      advance
      return .breaks
    | .word "goto" =>
      advance
      return .goto (← readName)
    | _ => readAssignment depth
termination_by structural depth => depth

/-- Reads a conditional behind its first word. -/
def readConditional : Nat → Reader Statement
  | 0 => tooDeep
  | depth + 1 => do
    let condition ← readExpr 0 depth
    expect "then"
    let body ← readBlock depth
    if ← accept "elseif" then
      match ← readConditional depth with
      | .conditional branches otherwise =>
        return .conditional ((condition, body) :: branches) otherwise
      | other => return .conditional [(condition, body)] [other]
    else if ← accept "else" then
      let otherwise ← readBlock depth
      expect "end"
      return .conditional [(condition, body)] otherwise
    else
      expect "end"
      return .conditional [(condition, body)] []
termination_by structural depth => depth

def readFor (line : Nat) : Nat → Reader Statement
  | 0 => tooDeep
  | depth + 1 => do
    let name ← readName
    if ← accept "=" then
      let first ← readExpr 0 depth
      expect ","
      let last ← readExpr 0 depth
      let step ← if ← accept "," then some <$> readExpr 0 depth else pure none
      expect "do"
      let body ← inScope do
        declare name .plain
        readBlock depth
      expect "end"
      return .numericFor name first last step body line
    else
      let others ← readMoreNames depth
      expect "in"
      let values ← readExprs depth
      expect "do"
      let body ← inScope do
        (name :: others).forM fun name => declare name .plain
        readBlock depth
      expect "end"
      return .genericFor (name :: others) values body line
termination_by structural depth => depth

def readMoreNames : Nat → Reader (List Bytes)
  | 0 => tooDeep
  | depth + 1 => do
    if ← accept "," then
      let name ← readName
      return name :: (← readMoreNames depth)
    return []
termination_by structural depth => depth

/-- Reads a function that is stored under a name, perhaps as a method. -/
def readFunction (line : Nat) : Nat → Reader Statement
  | 0 => tooDeep
  | depth + 1 => do
    let name ← readName
    let (binding, _) ← bind name
    let (target, isMethod) ← readFunctionPath (.variable name binding) depth
    if !isMethod then checkTarget target
    let body ← readBody (if isMethod then [Bytes.ofString "self"] else []) line depth
    return .assign [target] [.function body] line
termination_by structural depth => depth

def readFunctionPath (object : Expr) : Nat → Reader (Expr × Bool)
  | 0 => tooDeep
  | depth + 1 => do
    if ← accept "." then
      let line ← line
      let name ← readName
      readFunctionPath (.index object (.text name) line) depth
    else if ← accept ":" then
      let line ← line
      let name ← readName
      return (.index object (.text name) line, true)
    else return (object, false)
termination_by structural depth => depth

def readLocals : Nat → Reader Statement
  | 0 => tooDeep
  | depth + 1 => do
    let names ← readLocalNames depth
    let values ← if ← accept "=" then readExprs depth else pure []
    if (names.filter fun (_, kind) => kind = .closing).length > 1 then
      throw ⟨← lastLine, "multiple to-be-closed variables in local list"⟩
    names.forM fun (name, kind) => declare name kind
    return .locals names values
termination_by structural depth => depth

def readLocalNames : Nat → Reader (List (Bytes × Attribute))
  | 0 => tooDeep
  | depth + 1 => do
    let name ← readName
    let kind ← readAttribute
    if ← accept "," then return (name, kind) :: (← readLocalNames depth)
    return [(name, kind)]
termination_by structural depth => depth

/-- Reads a statement that begins with an expression: a call, or an assignment. -/
def readAssignment : Nat → Reader Statement
  | 0 => tooDeep
  | depth + 1 => do
    let first ← readSuffixed depth
    if (← atWord "=") || (← atWord ",") then
      checkTarget first
      let others ← readMoreTargets depth
      expect "="
      let values ← readExprs depth
      return .assign (first :: others) values (← lastLine)
    match first with
    | .call _ _ _ => return .call first
    | .method _ _ _ _ => return .call first
    | _ => refuse "syntax error"
termination_by structural depth => depth

def readMoreTargets : Nat → Reader (List Expr)
  | 0 => tooDeep
  | depth + 1 => do
    if ← accept "," then
      let target ← readSuffixed depth
      checkTarget target
      return target :: (← readMoreTargets depth)
    return []
termination_by structural depth => depth

end

end Parser

/-- The statements of a script, as the body of a function without names for its arguments. -/
def parse (source : Bytes) : Except SyntaxFault Body := do
  let tokens ← Token.scan source
  let depth := 16 * tokens.length + 64
  let read : Parser.Reader (List Statement) := do
    let block ← Parser.readBlock depth
    match ← Parser.peek with
    | .ended => return block
    | _ => Parser.refuse "'<eof>' expected"
  let (block, state) ← read.run ⟨tokens, 1, [⟨[], true⟩]⟩
  match jumpFault? block with
  | some detail => .error ⟨state.lastLine, detail⟩
  | none => return .mk [] true block 0

end TemplateBuild.Lua

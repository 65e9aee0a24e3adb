import TemplateBuild.JavaScript.Patterns
import TemplateBuild.JavaScript.Regex.Parser

/-!
# Reading JavaScript

`JavaScript.parse` reads a script.  All readers get the depth that is still allowed, which the
length of the script bounds.
-/

set_option autoImplicit false

namespace TemplateBuild.JavaScript

namespace Parser

def tooDeep {α : Type} : Reader α :=
  refuse "nested too deeply"

def unaryOp? : Token → Option UnaryOp
  | .sign "!" => some .not
  | .sign "-" => some .negate
  | .sign "+" => some .plus
  | .sign "~" => some .complement
  | .word "typeof" false => some .typeOf
  | .word "void" false => some .void
  | .word "delete" false => some .delete
  | _ => none

/-- An operator with two operands, and how tightly it binds. -/
def binaryOp? (allowIn : Bool) : Token → Option (Sum BinaryOp LogicalOp × Nat)
  | .sign "??" => some (.inr .coalesce, 1)
  | .sign "||" => some (.inr .or, 2)
  | .sign "&&" => some (.inr .and, 3)
  | .sign "|" => some (.inl .bitOr, 4)
  | .sign "^" => some (.inl .bitXor, 5)
  | .sign "&" => some (.inl .bitAnd, 6)
  | .sign "==" => some (.inl .equal, 7)
  | .sign "!=" => some (.inl .unequal, 7)
  | .sign "===" => some (.inl .identical, 7)
  | .sign "!==" => some (.inl .distinct, 7)
  | .sign "<" => some (.inl .less, 8)
  | .sign ">" => some (.inl .greater, 8)
  | .sign "<=" => some (.inl .atMost, 8)
  | .sign ">=" => some (.inl .atLeast, 8)
  | .word "instanceof" false => some (.inl .instanceOf, 8)
  | .word "in" false => if allowIn then some (.inl .memberOf, 8) else none
  | .sign "<<" => some (.inl .shiftLeft, 9)
  | .sign ">>" => some (.inl .shiftRight, 9)
  | .sign ">>>" => some (.inl .shiftRightUnsigned, 9)
  | .sign "+" => some (.inl .add, 10)
  | .sign "-" => some (.inl .subtract, 10)
  | .sign "*" => some (.inl .multiply, 11)
  | .sign "/" => some (.inl .divide, 11)
  | .sign "%" => some (.inl .modulo, 11)
  | .sign "**" => some (.inl .power, 12)
  | _ => none

def assignmentOp? : Token → Option (Sum BinaryOp LogicalOp)
  | .sign "+=" => some (.inl .add)
  | .sign "-=" => some (.inl .subtract)
  | .sign "*=" => some (.inl .multiply)
  | .sign "/=" => some (.inl .divide)
  | .sign "%=" => some (.inl .modulo)
  | .sign "**=" => some (.inl .power)
  | .sign "<<=" => some (.inl .shiftLeft)
  | .sign ">>=" => some (.inl .shiftRight)
  | .sign ">>>=" => some (.inl .shiftRightUnsigned)
  | .sign "&=" => some (.inl .bitAnd)
  | .sign "|=" => some (.inl .bitOr)
  | .sign "^=" => some (.inl .bitXor)
  | .sign "&&=" => some (.inr .and)
  | .sign "||=" => some (.inr .or)
  | .sign "??=" => some (.inr .coalesce)
  | _ => none

/-- What can be assigned to without a pattern. -/
def isTarget : Expr → Bool
  | .identifier _ => true
  | .member _ _ false => true
  | .index _ _ false => true
  | .group inner =>
    match inner with
    | .identifier _ => true
    | .member _ _ false => true
    | .index _ _ false => true
    | _ => false
  | _ => false

/-- An arrow function takes no operand behind it. -/
def isArrow : Expr → Bool
  | .function code => code.kind == .arrow
  | _ => false

def isUnary : Expr → Bool
  | .unary _ _ => true
  | _ => false

def checkTarget (target : Expr) : Reader Unit := do
  if !isTarget target then refuse "invalid assignment target"
  match target with
  | .identifier name =>
    if (← isStrict) && [Units.ofString "eval", Units.ofString "arguments"].contains name then
      refuse "assignment to a restricted name"
  | _ => return

def scopeOf (block : BlockScope) (statements : List Statement) : Block :=
  .mk (block.lexicals.filter fun (name, _) =>
    block.functions.all fun code => code.name != some name) block.functions statements

/-- No name of a parameter may be declared again in the body's own block. -/
def checkParameters (parameters : List Name) (scope : FunctionScope) : Reader Unit := do
  match scope.blocks.getLast? with
  | some block =>
    match parameters.find? fun name => (block.lexicals.lookup name).isSome with
    | some name => twice name
    | none => return
  | none => return

def bodyOf (name : Option Name) (kind : FunctionKind) (parameters : List PatternItem)
    (rest : Option Pattern) (scope : FunctionScope) (statements : List Statement) :
    Reader Function := do
  let bound := PatternItem.names parameters ++ (rest.map Pattern.names).getD []
  checkParameters bound scope
  let block := scope.blocks.getLast?.getD emptyBlock
  return .mk name kind scope.strict parameters rest scope.vars (scopeOf block statements)

/-- Where the script says so at its beginning, it is read strictly. -/
def readDirective : Reader Unit := do
  match ← current with
  | .text value _ =>
    if value == Units.ofString "use strict" then
      let (next, newline) ← following
      let ends := match next with
        | .sign ";" => true
        | .sign "\x7d" => true
        | .ended => true
        | _ => newline
      if ends then updateFunction fun scope => { scope with strict := true }
  | _ => return

/-- The elements of an arrow's parentheses as parameters. -/
def toParameters (items : List Element) : Reader (List PatternItem × Option Pattern) := do
  match arrayPattern true deepestPattern items with
  | some (.array items rest) => return (items, rest)
  | _ => refuse "invalid parameters"

def noHoles (items : List Element) : Bool :=
  items.all fun
    | .hole => false
    | _ => true

/-- The elements of parentheses as one expression. -/
def toSequence : List Element → Option Expr
  | [] => none
  | [.value value] => some value
  | .value value :: rest => (toSequence rest).map fun others => .sequence value others
  | _ => none

/-- Whether a word begins a declaration. -/
def letDeclares : Reader Bool := do
  if !(← atWord "let") then return false
  match (← following).1 with
  | .word word false => return word != "in" && word != "instanceof" && word != "of"
  | .word _ true => return true
  | .sign "[" => return true
  | .sign "\x7b" => return true
  | _ => return false

def readRegex : Reader Expr := do
  let (source, flags, rest) ← (Scan.regex ((← get).input.drop 1) : Except SyntaxFault _)
  match Regex.parse source flags with
  | .ok _ => pure ()
  | .error detail => refuse ("invalid regular expression: " ++ detail)
  moveTo rest
  return .regex source flags

/-- Whether a word is a mark and not itself the name of a member. -/
def marksMember : Reader Bool := do
  match (← following).1 with
  | .sign "," => return false
  | .sign ":" => return false
  | .sign "(" => return false
  | .sign "\x7d" => return false
  | .sign "=" => return false
  | .sign ";" => return false
  | .ended => return false
  | _ => return true

/-- A label on the same line. -/
def readLabel : Reader (Option Name) := do
  let state ← get
  match state.token with
  | .word word _ =>
    if state.newline || !(← isName word) then return none
    return some (← readName)
  | _ => return none

mutual

def readExpression : Nat → Reader Expr
  | 0 => tooDeep
  | depth + 1 => do
    let first ← readAssignment depth
    if ← accept "," then return .sequence first (← readExpression depth)
    return first
termination_by structural depth => depth

def readAssignment : Nat → Reader Expr
  | 0 => tooDeep
  | depth + 1 => do
    let left ← readConditional depth
    let state ← get
    match state.token with
    | .sign "=>" =>
      match left with
      | .identifier name =>
        if state.newline then refuse "line break before an arrow"
        readArrow depth [.item (.name name) none] none
      | _ => refuse "unexpected arrow"
    | .sign "=" =>
      if isArrow left then return left
      let pattern ← match left with
        | .array _ | .object _ =>
          match toPattern false deepestPattern left with
          | some pattern => pure pattern
          | none => refuse "invalid assignment target"
        | _ =>
          checkTarget left
          match toPattern false deepestPattern left with
          | some pattern => pure pattern
          | none => refuse "invalid assignment target"
      advance
      let value ← readAssignment depth
      return .assign pattern (namedAfter pattern value)
    | token =>
      match assignmentOp? token with
      | none => return left
      | some op =>
        checkTarget left
        advance
        let value ← readAssignment depth
        match op with
        | .inl op => return .assignWith op left value
        | .inr op =>
          let value := match left with
            | .identifier name => value.nameFunction name
            | _ => value
          return .assignIf op left value
termination_by structural depth => depth

def readConditional : Nat → Reader Expr
  | 0 => tooDeep
  | depth + 1 => do
    let condition ← readUnary depth
    let condition ← readOperators depth condition 0
    if isArrow condition then return condition
    if ← accept "?" then
      let yes ← inContext true (readAssignment depth)
      expect ":"
      let no ← readAssignment depth
      return .conditional condition yes no
    return condition
termination_by structural depth => depth

/-- Goes on with operators that bind more tightly than a given level. -/
def readOperators : Nat → Expr → Nat → Reader Expr
  | 0, _, _ => tooDeep
  | depth + 1, left, level => do
    if isArrow left then return left
    match binaryOp? (← get).allowIn (← current) with
    | none => return left
    | some (op, tightness) =>
      if tightness ≤ level then return left
      if tightness = 12 ∧ isUnary left then refuse "unparenthesized operand of '**'"
      advance
      let operand ← readUnary depth
      let right ← readOperators depth operand (if tightness = 12 then 11 else tightness)
      match op with
      | .inl op => readOperators depth (.binary op left right) level
      | .inr op => readOperators depth (.logical op left right) level
termination_by structural depth => depth

def readUnary : Nat → Reader Expr
  | 0 => tooDeep
  | depth + 1 => do
    let token ← current
    match unaryOp? token with
    | some op =>
      advance
      let operand ← readUnary depth
      match op, operand with
      | .delete, .identifier _ =>
        if ← isStrict then refuse "cannot delete a variable"
      | _, _ => pure ()
      return .unary op operand
    | none =>
      match token with
      | .sign "++" =>
        advance
        let target ← readUnary depth
        checkTarget target
        return .step true true target
      | .sign "--" =>
        advance
        let target ← readUnary depth
        checkTarget target
        return .step false true target
      | _ =>
        let operand ← readPrimary depth
        let operand ← readSuffixes depth operand true false
        let state ← get
        if isArrow operand || state.newline then return operand
        match state.token with
        | .sign "++" =>
          checkTarget operand
          advance
          return .step true false operand
        | .sign "--" =>
          checkTarget operand
          advance
          return .step false false operand
        | _ => return operand
termination_by structural depth => depth

/-- Members, calls and templates behind an operand. -/
def readSuffixes : Nat → Expr → Bool → Bool → Reader Expr
  | 0, _, _, _ => tooDeep
  | depth + 1, object, calls, chained => do
    let finish := fun (value : Expr) => if chained then Expr.chain value else value
    if isArrow object then return object
    match ← current with
    | .sign "." =>
      advance
      match ← current with
      | .word word _ =>
        advance
        readSuffixes depth (.member object (Units.ofString word) false) calls chained
      | _ => refuse "expected a member name"
    | .sign "[" =>
      advance
      let key ← inContext true (readExpression depth)
      expect "]"
      readSuffixes depth (.index object key false) calls chained
    | .sign "(" =>
      if calls then
        let arguments ← readArguments depth
        readSuffixes depth (.call object arguments false) calls chained
      else return finish object
    | .sign "?." =>
      if !calls then refuse "optional access in 'new'"
      advance
      match ← current with
      | .sign "(" =>
        let arguments ← readArguments depth
        readSuffixes depth (.call object arguments true) calls true
      | .sign "[" =>
        advance
        let key ← inContext true (readExpression depth)
        expect "]"
        readSuffixes depth (.index object key true) calls true
      | .word word _ =>
        advance
        readSuffixes depth (.member object (Units.ofString word) true) calls true
      | _ => refuse "expected a member name"
    | .template _ _ => refuse "tagged templates are not supported"
    | _ => return finish object
termination_by structural depth => depth

/-- Arguments in parentheses. -/
def readArguments : Nat → Reader (List Element)
  | 0 => tooDeep
  | depth + 1 => do
    expect "("
    let (items, _) ← inContext true (readElements depth ")")
    if !noHoles items then refuse "missing argument"
    return items
termination_by structural depth => depth

/-- Values up to a closing sign, and whether a comma stands before it. -/
def readElements : Nat → String → Reader (List Element × Bool)
  | 0, _ => tooDeep
  | depth + 1, close => do
    if ← accept close then return ([], false)
    if ← accept "," then
      let (rest, _) ← readElements depth close
      return (.hole :: rest, true)
    let item ←
      if ← accept "..." then pure (Element.spread (← readAssignment depth))
      else pure (Element.value (← readAssignment depth))
    if ← accept close then return ([item], false)
    expect ","
    let (rest, _) ← readElements depth close
    return (item :: rest, rest.isEmpty)
termination_by structural depth => depth

def readPrimary : Nat → Reader Expr
  | 0 => tooDeep
  | depth + 1 => do
    match ← current with
    | .number value legacy =>
      if legacy && (← isStrict) then refuse "octal number in strict mode"
      advance
      return .number value
    | .text value legacy =>
      if legacy && (← isStrict) then refuse "octal escape in strict mode"
      advance
      return .text value
    | .template first ends =>
      if ends then
        advance
        return .template first []
      advance
      return .template first (← readTemplate depth)
    | .sign "(" =>
      advance
      let (items, comma) ← inContext true (readElements depth ")")
      let state ← get
      match state.token with
      | .sign "=>" =>
        if state.newline then refuse "line break before an arrow"
        let (parameters, rest) ← toParameters items
        readArrow depth parameters rest
      | _ =>
        match toSequence items with
        | some inner => if comma then refuse "unexpected ')'" else return .group inner
        | none => refuse "unexpected ')'"
    | .sign "[" =>
      advance
      let (items, _) ← inContext true (readElements depth "]")
      return .array items
    | .sign "\x7b" =>
      advance
      return .object (← inContext true (readMembers depth))
    | .sign "/" => readRegex
    | .sign "/=" => readRegex
    | .word word escaped =>
      if escaped then return .identifier (← readName)
      match word with
      | "function" =>
        advance
        match ← current with
        | .sign "(" => return .function (← readFunction depth none .ordinary)
        | _ =>
          let name ← readName
          return .function (← readFunction depth (some name) .selfNamed)
      | "class" =>
        advance
        return .classOf (← readClass depth)
      | "new" =>
        advance
        if ← accept "." then
          expectWord "target"
          return .newTarget
        let callee ← readNewTarget depth
        let arguments ← if ← atSign "(" then readArguments depth else pure []
        return .new callee arguments
      | "this" =>
        advance
        return .this
      | "super" =>
        advance
        return .superclass
      | "null" =>
        advance
        return .null
      | "true" =>
        advance
        return .boolean true
      | "false" =>
        advance
        return .boolean false
      | _ => return .identifier (← readName)
    | .ended => refuse "abrupt end"
    | _ => refuse "unexpected token"
termination_by structural depth => depth

/-- What `new` constructs: a value with its members but without calls. -/
def readNewTarget : Nat → Reader Expr
  | 0 => tooDeep
  | depth + 1 => do
    let object ← readPrimary depth
    readSuffixes depth object false false
termination_by structural depth => depth

/-- The rest of a template: an inserted expression and the text behind it. -/
def readTemplate : Nat → Reader (List (Expr × Units))
  | 0 => tooDeep
  | depth + 1 => do
    let value ← inContext true (readExpression depth)
    if !(← atSign "\x7d") then refuse "expected a closing brace in a template"
    let (token, rest) ← (Scan.templatePart ((← get).input.drop 1) : Except SyntaxFault _)
    match token with
    | .template text true =>
      moveTo rest
      return [(value, text)]
    | .template text false =>
      moveTo rest
      return (value, text) :: (← readTemplate depth)
    | _ => refuse "unterminated template"
termination_by structural depth => depth

def readKey : Nat → Reader Key
  | 0 => tooDeep
  | depth + 1 => do
    match ← current with
    | .word word _ =>
      advance
      return .name (Units.ofString word)
    | .text value _ =>
      advance
      return .name value
    | .number value _ =>
      advance
      return .name (Units.ofString (Numeral.text value))
    | .sign "[" =>
      advance
      let key ← inContext true (readAssignment depth)
      expect "]"
      return .computed key
    | _ => refuse "expected a property name"
termination_by structural depth => depth

def readMember : Nat → Reader Member
  | 0 => tooDeep
  | depth + 1 => do
    if ← accept "..." then return .spread (← readAssignment depth)
    if (← atWord "get") && (← marksMember) then
      advance
      let key ← readKey depth
      return .getter key (← readFunction depth none .method)
    if (← atWord "set") && (← marksMember) then
      advance
      let key ← readKey depth
      return .setter key (← readFunction depth none .method)
    let token ← current
    let key ← readKey depth
    if ← atSign "(" then
      let name := match key with
        | .name name => some name
        | .computed _ => none
      return .property key (.function (← readFunction depth name .method))
    if ← accept ":" then
      let value ← readAssignment depth
      match key with
      | .name name =>
        if name == Units.ofString "__proto__" then return .proto value
        return .property key (value.nameFunction name)
      | .computed _ => return .property key value
    match token, key with
    | .word word _, .name name =>
      if !(← isName word) then refuse "unexpected keyword"
      if ← accept "=" then
        return .shorthand name (some ((← readAssignment depth).nameFunction name))
      return .shorthand name none
    | _, _ => refuse "expected ':'"
termination_by structural depth => depth

def readMembers : Nat → Reader (List Member)
  | 0 => tooDeep
  | depth + 1 => do
    if ← accept "\x7d" then return []
    let member ← readMember depth
    if ← accept "\x7d" then return [member]
    expect ","
    return member :: (← readMembers depth)
termination_by structural depth => depth

/-- Parameters and body of a function. -/
def readFunction : Nat → Option Name → FunctionKind → Reader Function
  | 0, _, _ => tooDeep
  | depth + 1, name, kind => do
    let read : Reader (List PatternItem × Option Pattern × List Statement) := do
      expect "("
      let (items, _) ← inContext true (readElements depth ")")
      let (parameters, rest) ← toParameters items
      expect "\x7b"
      readDirective
      let statements ← inContext true (readStatements depth)
      expect "\x7d"
      return (parameters, rest, statements)
    let ((parameters, rest, statements), scope) ← inFunction read
    bodyOf name kind parameters rest scope statements
termination_by structural depth => depth

/-- The body of an arrow function, a block or an expression. -/
def readArrow : Nat → List PatternItem → Option Pattern → Reader Expr
  | 0, _, _ => tooDeep
  | depth + 1, parameters, rest => do
    expect "=>"
    let read : Reader (List Statement) := do
      if ← accept "\x7b" then
        readDirective
        let statements ← inContext true (readStatements depth)
        expect "\x7d"
        return statements
      else return [.returns (some (← readAssignment depth))]
    let (statements, scope) ← inFunction read
    return .function (← bodyOf none .arrow parameters rest scope statements)
termination_by structural depth => depth

def readClass : Nat → Reader Class
  | 0 => tooDeep
  | depth + 1 => do
    let strict ← isStrict
    updateFunction fun scope => { scope with strict := true }
    let name ← match ← current with
      | .word "extends" _ => pure none
      | .word _ _ => pure (some (← readName))
      | _ => pure none
    let heritage ←
      if ← acceptWord "extends" then
        let object ← readPrimary depth
        pure (some (← readSuffixes depth object true false))
      else pure none
    expect "\x7b"
    let (constructor, members) ← readClassMembers depth heritage.isSome
    updateFunction fun scope => { scope with strict := strict }
    return .mk name heritage constructor members
termination_by structural depth => depth

def readClassMembers : Nat → Bool → Reader (Option Function × List ClassMember)
  | 0, _ => tooDeep
  | depth + 1, derived => do
    if ← accept "\x7d" then return (none, [])
    if ← accept ";" then return ← readClassMembers depth derived
    let isStatic ←
      if (← atWord "static") && (← marksMember) then
        advance
        pure true
      else pure false
    let mark ← match ← current with
      | .word "get" false => if ← marksMember then pure (some true) else pure none
      | .word "set" false => if ← marksMember then pure (some false) else pure none
      | _ => pure none
    if mark.isSome then advance
    let key ← readKey depth
    let isConstructor := match key with
      | .name name => !isStatic && mark.isNone && name == Units.ofString "constructor"
      | .computed _ => false
    if isConstructor && (← atSign "(") then
      let code ← readFunction depth none (.constructor derived)
      let (other, members) ← readClassMembers depth derived
      if other.isSome then refuse "duplicate constructor"
      return (some code, members)
    let name := match key with
      | .name name => some name
      | .computed _ => none
    let member ← match mark with
      | some true => pure (.getter isStatic key (← readFunction depth name .method))
      | some false => pure (.setter isStatic key (← readFunction depth name .method))
      | none =>
        if ← atSign "(" then
          pure (.method isStatic key (← readFunction depth name .method))
        else
          let value ←
            if ← accept "=" then
              let read : Reader (List Statement) := do
                return [.returns (some (← readAssignment depth))]
              let (statements, scope) ← inFunction read
              pure (some (← bodyOf none .method [] none scope statements))
            else pure none
          endStatement
          pure (.field isStatic key value)
    let (constructor, members) ← readClassMembers depth derived
    return (constructor, member :: members)
termination_by structural depth => depth

/-- Statements up to a closing brace, which is left, or to the end. -/
def readStatements : Nat → Reader (List Statement)
  | 0 => tooDeep
  | depth + 1 => do
    match ← current with
    | .sign "\x7d" => return []
    | .ended => return []
    | _ =>
      let statement ← readStatement depth true
      return statement :: (← readStatements depth)
termination_by structural depth => depth

def readBlock : Nat → Reader Block
  | 0 => tooDeep
  | depth + 1 => do
    expect "\x7b"
    let (statements, block) ← inBlock (readStatements depth)
    expect "\x7d"
    return scopeOf block statements
termination_by structural depth => depth

/-- One or more names or patterns with their values. -/
def readDeclarations : Nat → DeclarationKind → Bool → Reader (List (Pattern × Option Expr))
  | 0, _, _ => tooDeep
  | depth + 1, kind, inHead => do
    let pattern ← readBinding depth
    for name in pattern.names do
      if kind != .variable && name == Units.ofString "let" then refuse "cannot declare 'let'"
      declare kind name
    let value ←
      if ← accept "=" then pure (some (namedAfter pattern (← readAssignment depth)))
      else pure none
    let loopHead := inHead && ((← atWord "of") || (← atWord "in"))
    if value.isNone && !loopHead then
      match pattern with
      | .name _ => if kind == .constant then refuse "constant without a value"
      | _ => refuse "pattern without a value"
    if ← accept "," then
      return (pattern, value) :: (← readDeclarations depth kind inHead)
    return [(pattern, value)]
termination_by structural depth => depth

/-- A name or a pattern of names. -/
def readBinding : Nat → Reader Pattern
  | 0 => tooDeep
  | depth + 1 => do
    match ← current with
    | .sign "[" =>
      advance
      let (items, _) ← inContext true (readElements depth "]")
      match arrayPattern true deepestPattern items with
      | some pattern => return pattern
      | none => refuse "invalid pattern"
    | .sign "\x7b" =>
      advance
      match objectPattern true deepestPattern (← inContext true (readMembers depth)) with
      | some pattern => return pattern
      | none => refuse "invalid pattern"
    | _ => return .name (← readName)
termination_by structural depth => depth

/-- A statement; declarations are allowed among statements, but not as the body of a loop. -/
def readStatement : Nat → Bool → Reader Statement
  | 0, _ => tooDeep
  | depth + 1, declares => do
    match ← current with
    | .sign "\x7b" => return .block (← readBlock depth)
    | .sign ";" =>
      advance
      return .empty
    | .word word false =>
      match word with
      | "var" =>
        advance
        let items ← readDeclarations depth .variable false
        endStatement
        return .declare .variable items
      | "const" =>
        if !declares then refuse "declaration in a single statement"
        advance
        let items ← readDeclarations depth .constant false
        endStatement
        return .declare .constant items
      | "function" =>
        advance
        let name ← readName
        let code ← readFunction depth (some name) .ordinary
        if declares then declareFunction code name
        else if ← isStrict then refuse "function in a single statement"
        else
          let (statement, block) ← inBlock (declareFunction code name)
          return .block (scopeOf block [statement])
      | "class" =>
        if !declares then refuse "declaration in a single statement"
        advance
        let code ← readClass depth
        match code with
        | .mk (some name) _ _ _ =>
          declareLexical name true
          return .classHere name code
        | _ => refuse "expected a name"
      | "if" =>
        advance
        expect "("
        let condition ← inContext true (readExpression depth)
        expect ")"
        let yes ← readStatement depth false
        let no ←
          if ← acceptWord "else" then pure (some (← readStatement depth false)) else pure none
        return .conditional condition yes no
      | "while" =>
        advance
        expect "("
        let condition ← inContext true (readExpression depth)
        expect ")"
        return .whileLoop condition (← inLoop (readStatement depth false))
      | "do" =>
        advance
        let body ← inLoop (readStatement depth false)
        expectWord "while"
        expect "("
        let condition ← inContext true (readExpression depth)
        expect ")"
        let _ ← accept ";"
        return .doLoop body condition
      | "for" =>
        advance
        readFor depth
      | "break" =>
        advance
        let label ← readLabel
        let scope ← functionScope
        match label with
        | none =>
          if scope.loops = 0 ∧ scope.switches = 0 then refuse "break outside of a loop"
        | some name => if !scope.labels.contains name then refuse "unknown label"
        endStatement
        return .breaks label
      | "continue" =>
        advance
        let label ← readLabel
        let scope ← functionScope
        if scope.loops = 0 then refuse "continue outside of a loop"
        match label with
        | none => pure ()
        | some name => if !scope.labels.contains name then refuse "unknown label"
        endStatement
        return .continues label
      | "return" =>
        if (← get).functions.length ≤ 1 then refuse "return outside of a function"
        advance
        let state ← get
        let ends := match state.token with
          | .sign ";" => true
          | .sign "\x7d" => true
          | .ended => true
          | _ => state.newline
        if ends then
          endStatement
          return .returns none
        let value ← inContext true (readExpression depth)
        endStatement
        return .returns (some value)
      | "throw" =>
        advance
        if (← get).newline then refuse "line break after 'throw'"
        let value ← inContext true (readExpression depth)
        endStatement
        return .throws value
      | "try" =>
        advance
        readTry depth
      | "switch" =>
        advance
        expect "("
        let value ← inContext true (readExpression depth)
        expect ")"
        expect "\x7b"
        let (cases, block) ← inBlock (inSwitch (readCases depth))
        if (cases.filter fun (test, _) => test.isNone).length > 1 then
          refuse "more than one default clause"
        match scopeOf block [] with
        | .mk declared functions _ => return .switch value declared functions cases
      | "debugger" =>
        advance
        endStatement
        return .empty
      | "import" => refuse "import in a script"
      | "export" => refuse "export in a script"
      | "with" => refuse "'with' is not supported"
      | _ =>
        if ← letDeclares then
          if !declares then refuse "declaration in a single statement"
          advance
          let items ← readDeclarations depth .lexical false
          endStatement
          return .declare .lexical items
        match (← following).1 with
        | .sign ":" =>
          let label ← readName
          expect ":"
          if (← functionScope).labels.contains label then refuse "duplicate label"
          return .labelled label (← withLabel label (readStatement depth false))
        | _ =>
          let value ← inContext true (readExpression depth)
          endStatement
          return .expression value
    | _ =>
      let value ← inContext true (readExpression depth)
      endStatement
      return .expression value
termination_by structural depth => depth

def readTry : Nat → Reader Statement
  | 0 => tooDeep
  | depth + 1 => do
    let body ← readBlock depth
    let handler ←
      if ← acceptWord "catch" then
        let parameter ←
          if ← accept "(" then
            let pattern ← readBinding depth
            expect ")"
            pure (some pattern)
          else pure none
        pure (some (parameter, ← readBlock depth))
      else pure none
    let finalizer ←
      if ← acceptWord "finally" then pure (some (← readBlock depth)) else pure none
    if handler.isNone && finalizer.isNone then refuse "expected 'catch' or 'finally'"
    return .tries body handler finalizer
termination_by structural depth => depth

def readCases : Nat → Reader (List (Option Expr × List Statement))
  | 0 => tooDeep
  | depth + 1 => do
    if ← accept "\x7d" then return []
    let test ←
      if ← acceptWord "default" then pure none
      else
        expectWord "case"
        pure (some (← inContext true (readExpression depth)))
    expect ":"
    let statements ← readCaseBody depth
    return (test, statements) :: (← readCases depth)
termination_by structural depth => depth

def readCaseBody : Nat → Reader (List Statement)
  | 0 => tooDeep
  | depth + 1 => do
    if (← atWord "case") || (← atWord "default") || (← atSign "\x7d") then return []
    match ← current with
    | .ended => refuse "abrupt end"
    | _ =>
      let statement ← readStatement depth true
      return statement :: (← readCaseBody depth)
termination_by structural depth => depth

def readFor : Nat → Reader Statement
  | 0 => tooDeep
  | depth + 1 => do
    expect "("
    let (statement, _) ← inBlock (readForHead depth)
    return statement
termination_by structural depth => depth

def readForHead : Nat → Reader Statement
  | 0 => tooDeep
  | depth + 1 => do
    let kind ← match ← current with
      | .word "var" false => pure (some DeclarationKind.variable)
      | .word "const" false => pure (some .constant)
      | _ => if ← letDeclares then pure (some .lexical) else pure none
    match kind with
    | some kind =>
      advance
      let items ← inContext false (readDeclarations depth kind true)
      match items with
      | [(pattern, none)] =>
        if ← atWord "of" then return ← readForOf depth (.declare kind pattern)
        else if ← atWord "in" then return ← readForIn depth (.declare kind pattern)
        else readForRest depth (some (.declare kind items))
      | _ => readForRest depth (some (.declare kind items))
    | none =>
      if ← atSign ";" then readForRest depth none
      else
        let first ← inContext false (readExpression depth)
        if ← atWord "of" then
          match toPattern false deepestPattern first with
          | some pattern => readForOf depth (.assign pattern)
          | none => refuse "invalid loop variable"
        else if ← atWord "in" then
          match toPattern false deepestPattern first with
          | some pattern => readForIn depth (.assign pattern)
          | none => refuse "invalid loop variable"
        else readForRest depth (some (.expression first))
termination_by structural depth => depth

def readForOf : Nat → Head → Reader Statement
  | 0, _ => tooDeep
  | depth + 1, head => do
    expectWord "of"
    let values ← inContext true (readAssignment depth)
    expect ")"
    return .forOf head values (← inLoop (readStatement depth false))
termination_by structural depth => depth

def readForIn : Nat → Head → Reader Statement
  | 0, _ => tooDeep
  | depth + 1, head => do
    expectWord "in"
    let object ← inContext true (readExpression depth)
    expect ")"
    return .forIn head object (← inLoop (readStatement depth false))
termination_by structural depth => depth

def readForRest : Nat → Option Statement → Reader Statement
  | 0, _ => tooDeep
  | depth + 1, first => do
    expect ";"
    let condition ←
      if ← atSign ";" then pure none
      else pure (some (← inContext true (readExpression depth)))
    expect ";"
    let step ←
      if ← atSign ")" then pure none
      else pure (some (← inContext true (readExpression depth)))
    expect ")"
    let body ← inLoop (readStatement depth false)
    let declared := ((← functionScope).blocks.headD emptyBlock).lexicals
    return .forLoop declared first condition step body
termination_by structural depth => depth

end

end Parser

/-- A script as a function without parameters. -/
def parse (source : List Char) : Except SyntaxFault Function := do
  let (newline, input, token, rest) ← Parser.scanAt source
  let depth := 24 * source.length + 64
  let read : Parser.Reader (List Statement) := do
    Parser.readDirective
    let statements ← Parser.readStatements depth
    match ← Parser.current with
    | .ended => return statements
    | _ => Parser.refuse "unexpected token"
  let (statements, state) ←
    read.run ⟨input, token, newline, rest, [Parser.emptyFunction false], true⟩
  let scope := state.functions.headD (Parser.emptyFunction false)
  let block := scope.blocks.getLast?.getD Parser.emptyBlock
  return .mk none .ordinary scope.strict [] none scope.vars
    (Parser.scopeOf block statements)

end TemplateBuild.JavaScript

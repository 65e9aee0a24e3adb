import TemplateBuild.Lua.Operators

/-!
# Running expressions and statements

Each function here takes one step into an expression, a statement or a call, and leaves what
lies deeper to the interpreter that it is given.
-/

set_option autoImplicit false

namespace TemplateBuild.Lua

/-- A function of the library: it may call back, it may remember, it takes and gives values. -/
abbrev Builtin := Interpreter → List Nat → List Value → Action (List Value)

namespace Step

open Action

/-- How messages call the value of an expression. -/
def describe : Expr → Option CallName
  | .variable name .ofBlock => some ⟨"local", name⟩
  | .variable name .ofOuterFunction => some ⟨"upvalue", name⟩
  | .variable name .ofEnvironment => some ⟨"global", name⟩
  | .index _ (.text key) _ => some ⟨"field", key⟩
  | .index _ _ _ => some ⟨"field", [0x3F]⟩
  | .text value => some ⟨"constant", value⟩
  | .single inner => describe inner
  | _ => none

/-- The table of global variables, or what the script has put in its place. -/
def environmentName : Bytes := [0x5F, 0x45, 0x4E, 0x56]

def environment (scope : Scope) : Action Value := do
  match scope.names.lookup environmentName with
  | some address => cell address
  | none => return .table (← machine).globals

def readVariable (i : Interpreter) (scope : Scope) (name : Bytes) : Action Value := do
  match scope.names.lookup name with
  | some address => cell address
  | none =>
    if name = environmentName then environment scope
    else
      Operator.index i (← environment scope) (.text name) (some ⟨"upvalue", environmentName⟩)

def writeVariable (i : Interpreter) (scope : Scope) (name : Bytes) (value : Value) :
    Action Unit := do
  match scope.names.lookup name with
  | some address => setCell address value
  | none =>
    Operator.setIndex i (← environment scope) (.text name) value
      (some ⟨"upvalue", environmentName⟩)

/-- The values of expressions in a row; only the last one may have any number of values. -/
def values (i : Interpreter) (scope : Scope) : List Expr → Action (List Value)
  | [] => return []
  | [last] => i.many scope last
  | first :: rest => do
    let value ← i.one scope first
    return value :: (← values i scope rest)

def makeClosure (scope : Scope) (body : Body) : Action Value := do
  let chunk := match (← machine).frames with
    | ⟨some chunk, _, _⟩ :: _ => chunk
    | _ => []
  newFunction (.closure body ⟨scope.names, []⟩ chunk)

def binary (i : Interpreter) (op : BinaryOp) (left right : Value)
    (leftName rightName : Option CallName) : Action Value := do
  match op with
  | .eq => return .boolean (← Operator.equal i left right)
  | .ne => return .boolean (!(← Operator.equal i left right))
  | .lt => return .boolean (← Operator.ordered i false left right)
  | .le => return .boolean (← Operator.ordered i true left right)
  | .gt => return .boolean (← Operator.ordered i false right left)
  | .ge => return .boolean (← Operator.ordered i true right left)
  | .concat => Operator.concatenate i left right leftName rightName
  | _ => Operator.binaryArithmetic i op left right leftName rightName

def unary (i : Interpreter) (op : UnaryOp) (operand : Value) (name : Option CallName) :
    Action Value :=
  match op with
  | .not => return .boolean (!operand.isTrue)
  | .negate => Operator.negate i operand name
  | .length => Operator.length i operand name
  | .complement => Operator.complement i operand name

/-- The items of a table: positional values, and keyed entries with the lines of their keys. -/
def itemValues (i : Interpreter) (scope : Scope) :
    List Item → Action (List Value × List (Value × Value × Nat))
  | [] => return ([], [])
  | [.positional last] => return (← i.many scope last, [])
  | .positional value :: rest => do
    let value ← i.one scope value
    let (positional, keyed) ← itemValues i scope rest
    return (value :: positional, keyed)
  | .keyed key value line :: rest => do
    let key ← i.one scope key
    let value ← i.one scope value
    let (positional, keyed) ← itemValues i scope rest
    return (positional, (key, value, line) :: keyed)

def makeTable (i : Interpreter) (scope : Scope) (items : List Item) : Action Value := do
  let (positional, keyed) ← itemValues i scope items
  let object ← newTable (Table.withRoom positional.length keyed.length)
  match object with
  | .table address =>
    keyed.forM fun (key, value, line) => do
      setLine line
      Operator.rawSet address key value
    change fun machine => { machine with
      tables := machine.tables.modify address fun object =>
        let entries := object.entries
        let array := (positional.map stored).toArray
        { object with entries := { entries with array := array } } }
    return object
  | _ => return object

/-- The single value of an expression. -/
def one (i : Interpreter) (scope : Scope) (expression : Expr) : Action Value := do
  match expression with
  | .nil => return .nil
  | .boolean value => return .boolean value
  | .integer value => return .integer value
  | .float value => return .float value
  | .text value => return .text value
  | .variable name _ => readVariable i scope name
  | .index object key line =>
    let value ← i.one scope object
    let key ← i.one scope key
    setLine line
    Operator.index i value key (describe object)
  | .function body => makeClosure scope body
  | .unary op operand line =>
    let value ← i.one scope operand
    setLine line
    unary i op value (describe operand)
  | .binary op left right line =>
    let leftValue ← i.one scope left
    let rightValue ← i.one scope right
    setLine line
    binary i op leftValue rightValue (describe left) (describe right)
  | .and left right =>
    let value ← i.one scope left
    if value.isTrue then i.one scope right else return value
  | .or left right =>
    let value ← i.one scope left
    if value.isTrue then return value else i.one scope right
  | .table items _ => makeTable i scope items
  | .single inner => i.one scope inner
  | .rest => return Operator.firstOf scope.surplus
  | .call _ _ _ => return Operator.firstOf (← i.many scope expression)
  | .method _ _ _ _ => return Operator.firstOf (← i.many scope expression)

/-- A call that is about to be made. -/
structure PendingCall where
  function : Value
  arguments : List Value
  called : Option CallName

def pendingCall (i : Interpreter) (scope : Scope) (expression : Expr) :
    Action (Option PendingCall) := do
  match expression with
  | .call function arguments line =>
    let value ← i.one scope function
    let arguments ← values i scope arguments
    setLine line
    return some ⟨value, arguments, describe function⟩
  | .method object name arguments line =>
    let value ← i.one scope object
    setLine line
    let function ← Operator.index i value (.text name) (describe object)
    let arguments ← values i scope arguments
    setLine line
    return some ⟨function, value :: arguments, some ⟨"method", name⟩⟩
  | _ => return none

/-- All values of an expression. -/
def many (i : Interpreter) (scope : Scope) (expression : Expr) : Action (List Value) := do
  match expression with
  | .rest => return scope.surplus
  | .call _ _ _ | .method _ _ _ _ =>
    match ← pendingCall i scope expression with
    | some pending => i.call pending.function pending.arguments pending.called
    | none => return []
  | _ => return [← i.one scope expression]

/-! ## Statements -/

/-- Gives names new cells for values; missing values are nil. -/
def bindNames : List Bytes → List Value → List (Bytes × Nat) → Action (List (Bytes × Nat))
  | [], _, names => return names
  | name :: rest, values, names => do
    let address ← newCell (Operator.firstOf values)
    bindNames rest (values.drop 1) ((name, address) :: names)

/-- A label that was passed, with the scope and the statements there. -/
structure Mark where
  label : Bytes
  scope : Scope
  rest : List Statement

structure BlockState where
  scope : Scope
  rest : List Statement
  marks : List Mark

/-- The statements behind a label further on. -/
def afterLabel (label : Bytes) : List Statement → Option (List Statement)
  | [] => none
  | .label name :: rest => if name = label then some rest else afterLabel label rest
  | _ :: rest => afterLabel label rest

def jumpWithin (state : BlockState) (label : Bytes) : Option BlockState :=
  match state.marks.find? fun mark => mark.label = label with
  | some mark => some { state with scope := mark.scope, rest := mark.rest }
  | none => (afterLabel label state.rest).map fun rest => { state with rest := rest }

/-- The value that a declaration asks to be closed at the end of the block. -/
def closingName? : Statement → Option Bytes
  | .locals names _ => (names.find? fun (_, kind) => kind = .closing).map (·.1)
  | _ => none

/-- Runs statements in order, following jumps to labels among them. -/
def blockFrom (i : Interpreter) (state : BlockState) : Action Flow :=
  iterate (fun state => do
    match state.rest with
    | [] => return .inr (.next state.scope)
    | .label name :: rest =>
      return .inl { state with rest, marks := ⟨name, state.scope, rest⟩ :: state.marks }
    | statement :: rest =>
      match ← i.statement state.scope statement with
      | .next scope =>
        match closingName? statement with
        | none => return .inl { state with scope, rest }
        | some name =>
          let value ← match scope.names.lookup name with
            | some address => cell address
            | none => return .inl { state with scope, rest }
          let result ← attempt (i.statement scope (.block rest))
          let found ← handler value "__close"
          match result with
          | .ok flow =>
            if !found.isNil then let _ ← i.call found [value, .nil] none
            match flow with
            | .next _ => return .inr (.next scope)
            | flow => return .inr flow
          | .error error =>
            if !found.isNil then let _ ← i.call found [value, error] none
            raise error
      | .jumped label =>
        match jumpWithin { state with rest } label with
        | some next => return .inl next
        | none => return .inr (.jumped label)
      | flow => return .inr flow) endless state

/-- Runs a block; the names that it declares end with it. -/
def block (i : Interpreter) (scope : Scope) (body : List Statement) : Action Flow := do
  match ← blockFrom i ⟨scope, body, []⟩ with
  | .next _ => return .next scope
  | flow => return flow

/-- What the end of a loop's body means: another round, or the end of the loop. -/
def afterRound {σ : Type} (scope : Scope) (state : σ) : Flow → Sum σ Flow
  | .next _ => .inl state
  | .broke => .inr (.next scope)
  | flow => .inr flow

def loopNumber (value : Value) (part : String) : Action Number := do
  match Operator.coerced? value with
  | some number => return number
  | none =>
    fault ("bad 'for' " ++ part ++ " (number expected, got " ++ (← shownType value) ++ ")")

/-- The last value of a loop that counts with whole numbers, or none if it has no round. -/
def wholeLimit (limit : Number) (step : Int64) : Option Int :=
  match limit with
  | .integer value => some value.toInt
  | .float value =>
    match Binary64.ofFloat (if step < 0 then value.ceil else value.floor) with
    | .nan => none
    | .infinite negative => some (if negative then Int64.minValue else Int64.maxValue).toInt
    | .finite negative mantissa exponent =>
      let ratio := Ratio.ofPower mantissa exponent
      let size : Int := (ratio.numerator / ratio.denominator : Nat)
      some (max Int64.minValue.toInt
        (min Int64.maxValue.toInt (if negative then -size else size)))

def numericRound (i : Interpreter) (scope : Scope) (name : Bytes) (body : List Statement)
    (value : Value) : Action Flow := do
  let names ← bindNames [name] [value] scope.names
  block i { scope with names := names } body

def numericLoop (i : Interpreter) (scope : Scope) (name : Bytes) (body : List Statement)
    (first last step : Number) : Action Flow := do
  match first, step with
  | .integer first, .integer step =>
    if step = 0 then fault "'for' step is zero"
    match wholeLimit last step with
    | none => return .next scope
    | some last =>
      iterate (fun (count : Int) => do
        if (if step < 0 then count < last else count > last) then return .inr (.next scope)
        let flow ← numericRound i scope name body (.integer (Int64.ofInt count))
        return afterRound scope (count + step.toInt) flow) endless first.toInt
  | _, _ =>
    let step := Operator.asFloat step
    let last := Operator.asFloat last
    if step == 0.0 then fault "'for' step is zero"
    iterate (fun (count : Float) => do
      if !(if step > 0.0 then count ≤ last else last ≤ count) then return .inr (.next scope)
      let flow ← numericRound i scope name body (.float count)
      return afterRound scope (count + step) flow) endless (Operator.asFloat first)

def genericLoop (i : Interpreter) (scope : Scope) (names : List Bytes) (body : List Statement)
    (line : Nat) (iterator state control : Value) : Action Flow :=
  iterate (fun control => do
    setLine line
    let results ← i.call iterator [state, control]
      (some ⟨"for iterator", Bytes.ofString "for iterator"⟩)
    let control := Operator.firstOf results
    if control.isNil then return .inr (.next scope)
    let names ← bindNames names results scope.names
    let flow ← block i { scope with names := names } body
    return afterRound scope control flow) endless control

/-- A place that can be assigned to, with its parts already known. -/
inductive Target where
  | variable (name : Bytes)
  | element (object key : Value) (called : Option CallName)

def target (i : Interpreter) (scope : Scope) (expression : Expr) : Action Target := do
  match expression with
  | .index object key _ =>
    let value ← i.one scope object
    let key ← i.one scope key
    return .element value key (describe object)
  | .variable name _ => return .variable name
  | _ => return .variable []

def store (i : Interpreter) (scope : Scope) (place : Target) (value : Value) : Action Unit :=
  match place with
  | .variable name => writeVariable i scope name value
  | .element object key called => Operator.setIndex i object key value called

/-- Pairs places with values, the last one first. -/
def storeAll (i : Interpreter) (scope : Scope) : List Target → List Value → Action Unit
  | [], _ => return ()
  | place :: rest, values => do
    storeAll i scope rest (values.drop 1)
    store i scope place (Operator.firstOf values)

def conditional (i : Interpreter) (scope : Scope) (otherwise : List Statement) :
    List (Expr × List Statement) → Action Flow
  | [] => block i scope otherwise
  | (condition, body) :: rest => do
    if (← i.one scope condition).isTrue then block i scope body
    else conditional i scope otherwise rest

def statement (i : Interpreter) (scope : Scope) (step : Statement) : Action Flow := do
  match step with
  | .call expression =>
    let _ ← i.many scope expression
    return .next scope
  | .locals names expressions =>
    let values ← values i scope expressions
    let names ← bindNames (names.map (·.1)) values scope.names
    return .next { scope with names := names }
  | .assign targets expressions line =>
    let places ← targets.mapM (target i scope)
    let values ← values i scope expressions
    setLine line
    storeAll i scope places values
    return .next scope
  | .block body => block i scope body
  | .whileLoop condition body =>
    iterate (fun (_ : Unit) => do
      if (← i.one scope condition).isTrue then
        return afterRound scope () (← block i scope body)
      else return .inr (.next scope)) endless ()
  | .repeatLoop body condition =>
    iterate (fun (_ : Unit) => do
      match ← blockFrom i ⟨scope, body, []⟩ with
      | .next inner =>
        if (← i.one inner condition).isTrue then return .inr (.next scope) else return .inl ()
      | .broke => return .inr (.next scope)
      | flow => return .inr flow) endless ()
  | .conditional branches otherwise => conditional i scope otherwise branches
  | .numericFor name first last step body line =>
    let first ← i.one scope first
    let last ← i.one scope last
    let step ← match step with
      | some step => i.one scope step
      | none => Action.pure (.integer 1)
    setLine line
    let lastNumber ← loopNumber last "limit"
    let stepNumber ← loopNumber step "step"
    let firstNumber ← loopNumber first "initial value"
    numericLoop i scope name body firstNumber lastNumber stepNumber
  | .genericFor names expressions body line =>
    let values ← values i scope expressions
    genericLoop i scope names body line (Operator.firstOf values)
      (Operator.firstOf (values.drop 1)) (Operator.firstOf (values.drop 2))
  | .localFunction name body =>
    let address ← newCell .nil
    let scope := { scope with names := (name, address) :: scope.names }
    setCell address (← makeClosure scope body)
    return .next scope
  | .returns [expression] line =>
    match ← pendingCall i scope expression with
    | some pending => return .continued pending.function pending.arguments pending.called
    | none =>
      let values ← i.many scope expression
      setLine line
      return .returned values
  | .returns expressions _ => return .returned (← values i scope expressions)
  | .breaks => return .broke
  | .goto name => return .jumped name
  | .label _ => return .next scope

/-! ## Calls -/

def isClosure (value : Value) : Action Bool := do
  match value with
  | .function address =>
    match ← functionAt address with
    | .closure _ _ _ => return true
    | .builtin _ _ => return false
  | _ => return false

/-- Runs the body of a function.  A call in its last step is made from the function's frame
unless it only replaces the function by another one of the script. -/
def runBody (i : Interpreter) (body : Body) (scope : Scope) (arguments : List Value) :
    Action (Sum PendingCall (List Value)) := do
  let names ← bindNames body.parameters arguments scope.names
  let surplus := if body.variadic then arguments.drop body.parameters.length else []
  match ← block i ⟨names, surplus⟩ body.block with
  | .returned values => return .inr values
  | .continued function arguments called =>
    if ← isClosure function then return .inl ⟨function, arguments, called⟩
    return .inr (← i.call function arguments called)
  | _ => return .inr []

/-- Calls a value with arguments. -/
def call (i : Interpreter) (library : String → Option Builtin) (function : Value)
    (arguments : List Value) (called : Option CallName) : Action (List Value) :=
  iterate (fun (pending : PendingCall) => do
    match pending.function with
    | .function address =>
      match ← functionAt address with
      | .builtin name cells =>
        match library name with
        | some builtin =>
          return .inr (← within ⟨none, 0, some (pending.called.getD ⟨"", Bytes.ofString name⟩)⟩
            (builtin i cells pending.arguments))
        | none => Operator.typeFault "call" .nil pending.called
      | .closure body scope chunk =>
        within ⟨some chunk, body.line, pending.called⟩ (runBody i body scope pending.arguments)
    | value =>
      let found ← handler value "__call"
      if found.isNil then Operator.typeFault "call" value pending.called
      return .inl ⟨found, value :: pending.arguments, pending.called⟩)
    endless ⟨function, arguments, called⟩

end Step

end TemplateBuild.Lua

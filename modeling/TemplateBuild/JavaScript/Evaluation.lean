import TemplateBuild.JavaScript.Operators
import TemplateBuild.JavaScript.Parser

/-!
# Running expressions and statements

Each function here takes one step into an expression, a statement or a call, and leaves what
lies deeper to the interpreter that it is given.
-/

set_option autoImplicit false

namespace TemplateBuild.JavaScript

/-- What a function of the library is called with. -/
structure Invocation where
  this : Value
  arguments : List Value
  /-- What `new` names, if the function is constructing. -/
  newTarget : Option Value
  /-- The values that belong to the function. -/
  held : List Value

abbrev Builtin := Interpreter → Invocation → Action Value

namespace Step

open Action hiding pure bind

/-! ## Names that are no identifiers of scripts -/

def thisName : Name := Units.ofString "this"

def targetName : Name := Units.ofString "new.target"

/-- The object of a method, from whose prototype `super` takes its members. -/
def homeName : Name := Units.ofString "super"

def calleeName : Name := Units.ofString "function"

def argumentsName : Name := Units.ofString "arguments"

def prototypeKey : Units := Units.ofString "prototype"

/-! ## Variables -/

def undefinedName {α : Type} (name : Name) : Action α :=
  raiseError .reference (name.toString ++ " is not defined")

def globalProperty? (name : Name) : Action (Option (Nat × Property)) := do
  let machine ← machine
  return Property.find? machine.objects name Access.longestChain machine.globalObject

/-- The value of a name, or none where it is not declared. -/
def readVariable? (i : Interpreter) (context : Context) (name : Name) :
    Action (Option Value) := do
  match ← resolve context name with
  | some (_, ⟨some value, _⟩) => return some value
  | some (_, ⟨none, _⟩) => raiseError .reference "access of uninitialized binding"
  | none =>
    match ← globalProperty? name with
    | some _ => return some (← Access.get i (.object (← machine).globalObject) name)
    | none => return none

def readVariable (i : Interpreter) (context : Context) (name : Name) : Action Value := do
  match ← readVariable? i context name with
  | some value => return value
  | none => undefinedName name

def writeVariable (i : Interpreter) (context : Context) (name : Name) (value : Value) :
    Action Unit := do
  match ← resolve context name with
  | some (scope, ⟨some _, true⟩) => bindIn scope name ⟨some value, true⟩
  | some (_, ⟨some _, false⟩) => typeFault "cannot assign to a constant"
  | some (_, ⟨none, _⟩) => raiseError .reference "access of uninitialized binding"
  | none =>
    let globalObject := (← machine).globalObject
    match ← globalProperty? name with
    | some _ => Access.set i context.strict (.object globalObject) name value
    | none =>
      if context.strict then undefinedName name
      Access.putOwn globalObject name value

def thisValue (context : Context) : Action Value := do
  match ← resolve context thisName with
  | some (_, ⟨some value, _⟩) => return value
  | some (_, ⟨none, _⟩) =>
    raiseError .reference "'this' is not defined before the constructor of the parent has run"
  | none => return .undefined

/-- The value of one of the names that are no identifiers. -/
def hiddenValue (context : Context) (name : Name) : Action Value := do
  match ← resolve context name with
  | some (_, ⟨some value, _⟩) => return value
  | _ => return .undefined

/-! ## Functions -/

def parameterCount (code : Function) : Nat :=
  (code.parameters.takeWhile fun
    | .item _ none => true
    | _ => false).length

def setUp (address : Nat) (code : Function) : Action Unit := do
  storeProperty address Property.lengthKey
    ⟨.value (.ofNat (parameterCount code)) false, false, true⟩
  storeProperty address (Units.ofString "name")
    ⟨.value (.text (code.name.getD #[])) false, false, true⟩
  let constructs := match code.kind with
    | .ordinary => true
    | .selfNamed => true
    | _ => false
  if constructs then
    let prototype ← newPlain
    storeHidden prototype "constructor" (.object address)
    storeProperty address prototypeKey ⟨.value (.object prototype) true, false, false⟩

/-- A function of the script.  One with a name of its own is declared in a scope around it. -/
def makeClosure (context : Context) (code : Function) (home : Option Nat) : Action Value := do
  let inner ← match code.kind, code.name with
    | .selfNamed, some _ => pure { context with scope := ← newScope context.scope [] }
    | _, _ => pure context
  let address ← newObject (.closure code inner home [])
    (some (← machine).prototypes.function)
  setUp address code
  match code.kind, code.name with
  | .selfNamed, some name => bindIn inner.scope name ⟨some (.object address), true⟩
  | _, _ => return .object address
  return .object address

/-- The values that a value lists: the elements of arrays, the characters of texts, and the
entries of collections. -/
def valuesOf (value : Value) : Action (List Value) := do
  match value with
  | .text units => return (Units.codes units.toList).map fun code => .text (Units.ofCode code).toArray
  | .object address =>
    match (← objectAt address).kind with
    | .array elements => return elements.toList.map (·.getD .undefined)
    | .arguments elements => return elements.toList.map (·.getD .undefined)
    | .boxed (.text units) =>
      return (Units.codes units.toList).map fun code => .text (Units.ofCode code).toArray
    | .set entries => return entries.toList.filterMap id
    | .map entries => pairs (entries.toList.filterMap id)
    | _ => typeFault "value is not iterable"
  | _ => typeFault "value is not iterable"
where
  pairs : List (Value × Value) → Action (List Value)
    | [] => return []
    | (key, value) :: rest => do
      let pair ← newArray [key, value]
      return pair :: (← pairs rest)

/-- The values of elements in a row. -/
def elements (i : Interpreter) (context : Context) : List Element → Action (List (Option Value))
  | [] => return []
  | .hole :: rest => do return none :: (← elements i context rest)
  | .value value :: rest => do
    let value ← i.evaluate context value
    return some value :: (← elements i context rest)
  | .spread value :: rest => do
    let values ← valuesOf (← i.evaluate context value)
    return values.map some ++ (← elements i context rest)

def arguments (i : Interpreter) (context : Context) (items : List Element) :
    Action (List Value) := do
  return (← elements i context items).map (·.getD .undefined)

/-! ## Patterns -/

/-- How the names of a pattern get their values. -/
inductive Assigning where
  | assign
  /-- Gives names of the current scope their first value. -/
  | begin (mutable : Bool)

def evaluateKey (i : Interpreter) (context : Context) : Key → Action Units
  | .name name => return name
  | .computed key => do Operator.toKey i (← i.evaluate context key)

/-- A place that can be assigned to, with its parts already known. -/
inductive Target where
  | variable (name : Name)
  | element (object : Value) (key : Units)

def target (i : Interpreter) (context : Context) (expression : Expr) : Action Target := do
  match expression with
  | .identifier name => return .variable name
  | .group (.identifier name) => return .variable name
  | .member .superclass name _ => return .element (← thisValue context) name
  | .member object name _ => return .element (← i.evaluate context object) name
  | .group (.member object name _) => return .element (← i.evaluate context object) name
  | .index object key _ => element object key
  | .group (.index object key _) => element object key
  | _ => raiseError .ofSyntax "invalid assignment target"
where
  element (object key : Expr) : Action Target := do
    let object ← i.evaluate context object
    let key ← i.evaluate context key
    if object.isNothing then Access.nothingFault
    return .element object (← Operator.toKey i key)

def readTarget (i : Interpreter) (context : Context) : Target → Action Value
  | .variable name => readVariable i context name
  | .element object key => Access.get i object key

def writeTarget (i : Interpreter) (context : Context) (place : Target) (value : Value) :
    Action Unit := do
  match place with
  | .variable name => writeVariable i context name value
  | .element object key =>
    if object.isNothing then Access.nothingFault
    Access.set i context.strict object key value

/-- The listed properties of an object apart from some keys, in a new object. -/
def copyWithout (i : Interpreter) (source : Value) (keys : List Units) : Action Value := do
  let address ← newPlain
  if !source.isNothing then
    let from_ ← Operator.toObject source
    let listed := (Property.ownKeys (← objectAt from_)).filter fun (key, enumerable) =>
      enumerable && !keys.contains key
    listed.forM fun (key, _) => do
      storeProperty address key (.plain (← Access.get i source key))
  return .object address

mutual

def assignPattern (i : Interpreter) (context : Context) (how : Assigning) :
    Nat → Pattern → Value → Action Unit
  | 0, _, _ => exhausted
  | depth + 1, pattern, value => do
    match pattern with
    | .name name =>
      match how with
      | .assign => writeVariable i context name value
      | .begin mutable => bindIn context.scope name ⟨some value, mutable⟩
    | .place expression => writeTarget i context (← target i context expression) value
    | .array items rest =>
      let values ← valuesOf value
      assignItems i context how depth items values
      match rest with
      | some pattern =>
        assignPattern i context how depth pattern (← newArray (values.drop items.length))
      | none => return ()
    | .object items rest =>
      if value.isNothing then Access.nothingFault
      let keys ← assignMembers i context how depth items value
      match rest with
      | some pattern =>
        assignPattern i context how depth pattern (← copyWithout i value keys)
      | none => return ()
termination_by structural depth => depth

def assignItem (i : Interpreter) (context : Context) (how : Assigning) :
    Nat → PatternItem → Value → Action Unit
  | 0, _, _ => exhausted
  | depth + 1, item, value => do
    match item with
    | .hole => return ()
    | .item pattern default =>
      match default with
      | some expression =>
        if value.isUndefined then
          assignPattern i context how depth pattern
            (← i.evaluate context (namedAfter pattern expression))
        else assignPattern i context how depth pattern value
      | none => assignPattern i context how depth pattern value
termination_by structural depth => depth

def assignItems (i : Interpreter) (context : Context) (how : Assigning) :
    Nat → List PatternItem → List Value → Action Unit
  | 0, _, _ => exhausted
  | depth + 1, items, values => do
    match items with
    | [] => return ()
    | item :: rest =>
      assignItem i context how depth item (values.headD .undefined)
      assignItems i context how depth rest (values.drop 1)
termination_by structural depth => depth

/-- Assigns properties of an object, and gives their keys. -/
def assignMembers (i : Interpreter) (context : Context) (how : Assigning) :
    Nat → List (Key × PatternItem) → Value → Action (List Units)
  | 0, _, _ => exhausted
  | depth + 1, items, value => do
    match items with
    | [] => return []
    | (key, item) :: rest =>
      let key ← evaluateKey i context key
      assignItem i context how depth item (← Access.get i value key)
      return key :: (← assignMembers i context how depth rest value)
termination_by structural depth => depth

end

def assign (i : Interpreter) (context : Context) (how : Assigning) (pattern : Pattern)
    (value : Value) : Action Unit :=
  assignPattern i context how Parser.deepestPattern pattern value

/-! ## Declaring names -/

def declareFunctions (context : Context) : List Function → Action Unit
  | [] => return ()
  | code :: rest => do
    match code.name with
    | some name =>
      bindIn context.scope name ⟨some (← makeClosure context code none), true⟩
    | none => return ()
    declareFunctions context rest

/-- The context of a block: a scope for its names, if it declares any. -/
def enterBlock (context : Context) (declared : List (Name × Bool)) (functions : List Function) :
    Action Context := do
  if declared.isEmpty && functions.isEmpty then return context
  let scope ← newScope context.scope
    (declared.map fun (name, mutable) => (name, ⟨none, mutable⟩))
  let inner := { context with scope := scope }
  declareFunctions inner functions
  return inner

/-! ## Scripts -/

/-- Runs statements in order. -/
def statements (i : Interpreter) (context : Context) : List Statement → Action Completion
  | [] => return .normal none
  | [last] => i.execute context last
  | first :: rest => do
    match ← i.execute context first with
    | .normal value => return (← statements i context rest).withEarlier value
    | completion => return completion

def block (i : Interpreter) (context : Context) (body : Block) : Action Completion := do
  let inner ← enterBlock context body.declared body.functions
  statements i inner body.statements

/-- The value that a script leaves. -/
def finalValue : Completion → Value
  | .normal value => value.getD .undefined
  | .returned value => value
  | .broke _ value => value.getD .undefined
  | .continued _ value => value.getD .undefined

/-- Declares a variable of all scripts, which is a property of the global object. -/
def declareGlobal (name : Name) (value : Option Value) : Action Unit := do
  let globalObject := (← machine).globalObject
  match value with
  | some value => storeProperty globalObject name (.plain value)
  | none =>
    if !(← Access.hasOwn globalObject name) then
      storeProperty globalObject name (.plain .undefined)

/-- Lexical names of all scripts are declared once, and not as variables too. -/
def checkGlobals (code : Function) : Action Unit := do
  let scope ← scopeAt globalScope
  let globalObject ← objectAt (← machine).globalObject
  let taken := fun (name : Name) => (scope.bindings.lookup name).isSome
  let fixed := fun (name : Name) =>
    match Property.own? globalObject name with
    | some property => !property.configurable
    | none => false
  let clash := code.vars.any taken ||
    code.body.declared.any fun (name, _) => taken name || fixed name
  if clash then raiseError .ofSyntax "redeclaration of a global name"

def declareGlobalFunctions (context : Context) : List Function → Action Unit
  | [] => return ()
  | code :: rest => do
    match code.name with
    | some name => declareGlobal name (some (← makeClosure context code none))
    | none => return ()
    declareGlobalFunctions context rest

def declareGlobals (context : Context) (code : Function) : Action Unit := do
  code.vars.forM fun name => declareGlobal name none
  code.body.declared.forM fun (name, mutable) => bindIn globalScope name ⟨none, mutable⟩
  declareGlobalFunctions context code.body.functions

/-- Runs a script that has been read. -/
def script (i : Interpreter) (code : Function) : Action Value := do
  let context : Context := ⟨globalScope, globalScope, code.strict⟩
  checkGlobals code
  declareGlobals context code
  return finalValue (← statements i context code.body.statements)

/-- Declares a variable of evaluated code where the variables of its caller are. -/
def declareEvaluated (context : Context) (name : Name) (value : Option Value) : Action Unit := do
  if context.vars = globalScope then declareGlobal name value
  else
    let present := ((← scopeAt context.vars).bindings.lookup name).isSome
    match value with
    | some value => bindIn context.vars name ⟨some value, true⟩
    | none => if !present then bindIn context.vars name ⟨some .undefined, true⟩

def declareEvaluatedFunctions (context inner : Context) : List Function → Action Unit
  | [] => return ()
  | code :: rest => do
    match code.name with
    | some name => declareEvaluated context name (some (← makeClosure inner code none))
    | none => return ()
    declareEvaluatedFunctions context inner rest

/-- Runs a text as code where its caller stands. -/
def evaluateText (i : Interpreter) (context : Context) (source : Units) : Action Value := do
  match parse (Operator.charsOf source) with
  | .error fault => raiseError .ofSyntax fault.detail
  | .ok code =>
    let strict := context.strict || code.strict
    let scope ← newScope context.scope
      (code.body.declared.map fun (name, mutable) => (name, ⟨none, mutable⟩))
    let inner : Context :=
      ⟨scope, if strict then scope else context.vars, strict⟩
    let outer := if strict then inner else context
    code.vars.forM fun name => declareEvaluated outer name none
    declareEvaluatedFunctions outer inner code.body.functions
    return finalValue (← statements i inner code.body.statements)

/-! ## Calls -/

/-- The bindings with which the scope of a call begins. -/
def callBindings (code : Function) (callee : Value) (this : Option Value) (newTarget : Value)
    (home : Option Nat) (arguments : Value) : List (Name × Binding) :=
  let parameters := PatternItem.names code.parameters ++ (code.rest.map Pattern.names).getD []
  let own : List (Name × Binding) := match code.kind with
    | .arrow => []
    | _ =>
      [(thisName, ⟨this, true⟩), (targetName, ⟨some newTarget, false⟩),
       (calleeName, ⟨some callee, false⟩)] ++
      (match home with
        | some address => [(homeName, ⟨some (.object address), false⟩)]
        | none => []) ++
      (if parameters.contains argumentsName then [] else [(argumentsName, ⟨some arguments, true⟩)])
  let vars := code.vars.filter fun name =>
    !parameters.contains name && name != argumentsName
  parameters.map (fun name => (name, ⟨none, true⟩)) ++
    vars.map (fun name => (name, ⟨some .undefined, true⟩)) ++
    code.body.declared.map (fun (name, mutable) => (name, ⟨none, mutable⟩)) ++ own

/-- Runs the body of a function. -/
def runBody (i : Interpreter) (code : Function) (outer : Context) (callee : Value)
    (this : Option Value) (newTarget : Value) (home : Option Nat) (given : List Value) :
    Action (Completion × Context) := do
  let arguments ← match code.kind with
    | .arrow => pure Value.undefined
    | _ =>
      let address ← newObject (.arguments (given.map some).toArray)
        (some (← machine).prototypes.object)
      storeHidden address "length" (.ofNat given.length)
      pure (.object address)
  let scope ← newScope outer.scope (callBindings code callee this newTarget home arguments)
  let context : Context := ⟨scope, scope, code.strict⟩
  assignItems i context (.begin true) Parser.deepestPattern code.parameters given
  match code.rest with
  | some pattern =>
    assign i context (.begin true) pattern (← newArray (given.drop code.parameters.length))
  | none => pure ()
  declareFunctions context code.body.functions
  let completion ← statements i context code.body.statements
  return (completion, context)

/-- Outside of strict code `this` is always an object. -/
def boundThis (code : Function) (this : Value) : Action Value := do
  if code.strict then return this
  match this with
  | .undefined => return .object (← machine).globalObject
  | .null => return .object (← machine).globalObject
  | .object address => return .object address
  | value => return .object (← Operator.toObject value)

def returnedValue : Completion → Value
  | .returned value => value
  | _ => .undefined

def notCallable {α : Type} : Action α :=
  typeFault "not a callable function"

/-- Calls a value. -/
def call (i : Interpreter) (library : String → Option Builtin) (function this : Value)
    (given : List Value) : Action Value := do
  match function with
  | .object address =>
    match (← objectAt address).kind with
    | .builtin name held =>
      match library name with
      | some builtin => builtin i ⟨this, given, none, held⟩
      | none => notCallable
    | .closure code context home _ =>
      match code.kind with
      | .constructor _ => typeFault "class constructor cannot be called without 'new'"
      | _ =>
        let this ← boundThis code this
        deeper do
          let (completion, _) ←
            runBody i code context function (some this) .undefined home given
          return returnedValue completion
    | _ => notCallable
  | _ => notCallable

/-- Gives a new object the fields of its class. -/
def giveFields (i : Interpreter) (function this : Value) : Action Unit := do
  match function, this with
  | .object address, .object object =>
    match (← objectAt address).kind with
    | .closure _ context home fields =>
      fields.forM fun (key, code) => do
        let value ← match code with
          | none => pure Value.undefined
          | some code => i.call (← makeClosure context code home) this []
        storeProperty object key (.plain value)
    | _ => return ()
  | _, _ => return ()

/-- The object that a new one inherits from, as the function that `new` names has it. -/
def prototypeFor (i : Interpreter) (newTarget : Value) (fallback : Nat) : Action Nat := do
  match ← Access.get i newTarget prototypeKey with
  | .object address => return address
  | _ => return fallback

def notConstructor {α : Type} : Action α :=
  typeFault "not a constructor"

/-- Constructs with a function. -/
def construct (i : Interpreter) (library : String → Option Builtin)
    (constructs : String → Bool) (function : Value) (given : List Value) (newTarget : Value) :
    Action Value := do
  match function with
  | .object address =>
    match (← objectAt address).kind with
    | .builtin "bound" (inner :: _ :: first) =>
      i.construct inner (first ++ given) (if Operator.identical newTarget function then inner else newTarget)
    | .builtin name held =>
      if !constructs name then notConstructor
      match library name with
      | some builtin => builtin i ⟨.undefined, given, some newTarget, held⟩
      | none => notConstructor
    | .closure code context home _ =>
      match code.kind with
      | .arrow => notConstructor
      | .method => notConstructor
      | .constructor true =>
        deeper do
          let (completion, inner) ← runBody i code context function none newTarget home given
          match returnedValue completion with
          | .object result => return .object result
          | _ => thisValue inner
      | _ =>
        let prototype ← prototypeFor i newTarget (← machine).prototypes.object
        let this := Value.object (← newObject .plain (some prototype))
        giveFields i function this
        deeper do
          let (completion, _) ← runBody i code context function (some this) newTarget home given
          match returnedValue completion with
          | .object result => return .object result
          | _ => return this
    | _ => notConstructor
  | _ => notConstructor

/-- Constructs the parent's part of a new object. -/
def superCall (i : Interpreter) (context : Context) (given : List Value) : Action Value := do
  let callee ← hiddenValue context calleeName
  let newTarget ← hiddenValue context targetName
  let parent ← match callee with
    | .object address => pure ((← objectAt address).prototype.map Value.object)
    | _ => pure none
  let this ← i.construct (parent.getD .undefined) given newTarget
  match ← resolve context thisName with
  | some (scope, ⟨none, _⟩) => bindIn scope thisName ⟨some this, true⟩
  | _ => raiseError .reference "the constructor of the parent has run already"
  giveFields i callee this
  return this

/-- Where the members of `super` are looked up. -/
def superObject (context : Context) : Action Value := do
  match ← hiddenValue context homeName with
  | .object address =>
    match (← objectAt address).prototype with
    | some parent => return .object parent
    | none => return .undefined
  | _ => raiseError .ofSyntax "'super' outside of a method"

/-- The value of a property of an object, for another value as `this`. -/
def getFor (i : Interpreter) (object this : Value) (key : Units) : Action Value := do
  match ← Access.lookup object key with
  | some (_, ⟨.accessor getter _, _, _⟩) =>
    if getter.isUndefined then return .undefined else i.call getter this []
  | some (_, ⟨.value value _, _, _⟩) => return value
  | none => return .undefined

/-- The name under which the library knows the function that runs text as code. -/
def evaluatorName : String := "eval"

def isEvaluator (value : Value) : Action Bool := do
  match value with
  | .object address =>
    match (← objectAt address).kind with
    | .builtin name _ => return name == evaluatorName
    | _ => return false
  | _ => return false

/-- Chains of accesses and calls are not longer than this. -/
def longestAccess : Nat := 1000000

/-- What an access or a call gives, behind the value that it belongs to; none where an optional
access on the way found nothing. -/
def reference (i : Interpreter) (context : Context) :
    Nat → Expr → Action (Option (Value × Value))
  | 0, _ => exhausted
  | depth + 1, expression => do
    match expression with
    | .member .superclass name _ =>
      let this ← thisValue context
      return some (this, ← getFor i (← superObject context) this name)
    | .index .superclass key _ =>
      let this ← thisValue context
      let key ← Operator.toKey i (← i.evaluate context key)
      return some (this, ← getFor i (← superObject context) this key)
    | .member object name optional_ =>
      match ← reference i context depth object with
      | none => return none
      | some (_, value) =>
        if optional_ && value.isNothing then return none
        return some (value, ← Access.get i value name)
    | .index object key optional_ =>
      match ← reference i context depth object with
      | none => return none
      | some (_, value) =>
        if optional_ && value.isNothing then return none
        let key ← i.evaluate context key
        if value.isNothing then Access.nothingFault
        return some (value, ← Access.get i value (← Operator.toKey i key))
    | .call .superclass given _ =>
      return some (.undefined, ← superCall i context (← arguments i context given))
    | .call function given optional_ =>
      match ← reference i context depth function with
      | none => return none
      | some (this, value) =>
        if optional_ && value.isNothing then return none
        let given ← arguments i context given
        let direct ← match function with
          | .identifier _ => isEvaluator value
          | _ => pure false
        if direct then
          match given with
          | .text source :: _ => return some (.undefined, ← evaluateText i context source)
          | other :: _ => return some (.undefined, other)
          | [] => return some (.undefined, .undefined)
        return some (.undefined, ← i.call value this given)
    | .group inner => reference i context depth inner
    | other => return some (.undefined, ← i.evaluate context other)

def access (i : Interpreter) (context : Context) (expression : Expr) : Action Value := do
  match ← reference i context longestAccess expression with
  | some (_, value) => return value
  | none => return .undefined

/-! ## Objects and classes -/

/-- A function as the method of an object. -/
def methodValue (i : Interpreter) (context : Context) (home : Nat) (value : Expr) :
    Action Value :=
  match value with
  | .function code =>
    if code.kind == .method then makeClosure context code (some home)
    else i.evaluate context value
  | value => i.evaluate context value

/-- Adds a getter or a setter and keeps the other one. -/
def storeAccessor (address : Nat) (key : Units) (getter setter : Option Value)
    (enumerable : Bool) : Action Unit := do
  let (oldGetter, oldSetter) := match Property.own? (← objectAt address) key with
    | some ⟨.accessor getter setter, _, _⟩ => (getter, setter)
    | _ => (.undefined, .undefined)
  storeProperty address key
    ⟨.accessor (getter.getD oldGetter) (setter.getD oldSetter), enumerable, true⟩

def storeMember (i : Interpreter) (context : Context) (address : Nat) (member : Member) :
    Action Unit := do
  match member with
  | .property key value =>
    let key ← evaluateKey i context key
    storeProperty address key
      (.plain (← methodValue i context address (value.nameFunction key)))
  | .shorthand name _ => storeProperty address name (.plain (← readVariable i context name))
  | .getter key code =>
    let key ← evaluateKey i context key
    storeAccessor address key (some (← makeClosure context (code.named key) (some address))) none
      true
  | .setter key code =>
    let key ← evaluateKey i context key
    storeAccessor address key none (some (← makeClosure context (code.named key) (some address)))
      true
  | .spread value =>
    let source ← i.evaluate context value
    if !source.isNothing then
      let from_ ← Operator.toObject source
      (Property.ownKeys (← objectAt from_)).forM fun (key, enumerable) => do
        if enumerable then storeProperty address key (.plain (← Access.get i source key))
  | .proto value =>
    match ← i.evaluate context value with
    | .object parent => changeObject address fun object => { object with prototype := some parent }
    | .null => changeObject address fun object => { object with prototype := none }
    | _ => return ()

/-- The constructor of a class that does not give one. -/
def defaultConstructor (derived : Bool) : Function :=
  if derived then
    .mk none (.constructor true) true [] (some (.name argumentsName)) []
      (.mk [] []
        [.expression (.call .superclass [.spread (.identifier argumentsName)] false)])
  else .mk none (.constructor false) true [] none [] (.mk [] [] [])

/-- The constructor's parent, and the object from which instances inherit. -/
def heritage (i : Interpreter) (context : Context) (expression : Option Expr) :
    Action (Nat × Option Nat) := do
  let prototypes := (← machine).prototypes
  match expression with
  | none => return (prototypes.function, some prototypes.object)
  | some expression =>
    match ← i.evaluate context expression with
    | .null => return (prototypes.function, none)
    | .object address =>
      if !(← Access.isCallable (.object address)) then typeFault "superclass must be a constructor"
      match ← Access.get i (.object address) prototypeKey with
      | .object parent => return (address, some parent)
      | .null => return (address, none)
      | _ => typeFault "superclass must have a prototype"
    | _ => typeFault "superclass must be a constructor"

/-- Adds the members of a class, and gives its fields for instances and for the class. -/
def classMembers (i : Interpreter) (context : Context) (function prototype : Nat) :
    List ClassMember → Action (List (Units × Option Function) × List (Units × Option Function))
  | [] => return ([], [])
  | member :: rest => do
    match member with
    | .method isStatic key code =>
      let key ← evaluateKey i context key
      let owner := if isStatic then function else prototype
      storeProperty owner key
        (.hidden (← makeClosure context (code.named key) (some owner)))
      classMembers i context function prototype rest
    | .getter isStatic key code =>
      let key ← evaluateKey i context key
      let owner := if isStatic then function else prototype
      storeAccessor owner key (some (← makeClosure context (code.named key) (some owner))) none
        false
      classMembers i context function prototype rest
    | .setter isStatic key code =>
      let key ← evaluateKey i context key
      let owner := if isStatic then function else prototype
      storeAccessor owner key none (some (← makeClosure context (code.named key) (some owner)))
        false
      classMembers i context function prototype rest
    | .field isStatic key value =>
      let key ← evaluateKey i context key
      let (own, ofClass) ← classMembers i context function prototype rest
      return if isStatic then (own, (key, value) :: ofClass) else ((key, value) :: own, ofClass)

def makeClass (i : Interpreter) (context : Context) (code : Class) : Action Value := do
  match code with
  | .mk name extends_ constructor members =>
    let inner := { context with
      scope := ← newScope context.scope
        (match name with
          | some name => [(name, ⟨none, false⟩)]
          | none => [])
      strict := true }
    let (parent, prototypeParent) ← heritage i inner extends_
    let prototype ← newObject .plain prototypeParent
    let body := (constructor.getD (defaultConstructor extends_.isSome)).named (name.getD #[])
    let function ← newObject (.closure body inner (some prototype) []) (some parent)
    setUp function body
    storeProperty function prototypeKey (.fixed (.object prototype))
    storeHidden prototype "constructor" (.object function)
    let (fields, ofClass) ← classMembers i inner function prototype members
    changeObject function fun object =>
      match object.kind with
      | .closure code context home _ => { object with kind := .closure code context home fields }
      | _ => object
    if let some name := name then bindIn inner.scope name ⟨some (.object function), false⟩
    ofClass.forM fun (key, code) => do
      let value ← match code with
        | none => pure Value.undefined
        | some code => i.call (← makeClosure inner code (some function)) (.object function) []
      storeProperty function key (.plain value)
    return .object function

/-! ## Expressions -/

def newRegex (source flags : Units) : Action Value := do
  match Regex.parse source flags with
  | .error detail => raiseError .ofSyntax ("invalid regular expression: " ++ detail)
  | .ok pattern =>
    let address ← newObject (.regex source flags pattern) (some (← machine).prototypes.regex)
    storeProperty address (Units.ofString "lastIndex") ⟨.value (.number 0.0) true, false, false⟩
    return .object address

def deleteAt (i : Interpreter) (context : Context) (operand : Expr) : Action Value := do
  match operand with
  | .member _ _ _ | .index _ _ _ =>
    match ← target i context operand with
    | .element object key =>
      if object.isNothing then Access.nothingFault
      let gone ← Access.delete (← Operator.toObject object) key
      if !gone && context.strict then typeFault "cannot delete property"
      return .boolean gone
    | .variable _ => return .boolean true
  | .identifier name =>
    match ← resolve context name with
    | some _ => return .boolean false
    | none => return .boolean (← Access.delete (← machine).globalObject name)
  | operand =>
    let _ ← i.evaluate context operand
    return .boolean true

def unary (i : Interpreter) (context : Context) (op : UnaryOp) (operand : Expr) :
    Action Value := do
  match op, operand with
  | .delete, operand => deleteAt i context operand
  | .typeOf, .identifier name =>
    match ← readVariable? i context name with
    | some value => return .string (← Operator.typeName value)
    | none => return .string "undefined"
  | .typeOf, operand => return .string (← Operator.typeName (← i.evaluate context operand))
  | .void, operand =>
    let _ ← i.evaluate context operand
    return .undefined
  | .not, operand => return .boolean (!Operator.toBoolean (← i.evaluate context operand))
  | .negate, operand => return .number (-(← Operator.toNumber i (← i.evaluate context operand)))
  | .plus, operand => return .number (← Operator.toNumber i (← i.evaluate context operand))
  | .complement, operand =>
    let number ← Operator.toNumber i (← i.evaluate context operand)
    return .number (Numeral.ofSignedWord (~~~ Numeral.word number).toInt32)

/-- Whether the left operand decides. -/
def decides (op : LogicalOp) (value : Value) : Bool :=
  match op with
  | .and => !Operator.toBoolean value
  | .or => Operator.toBoolean value
  | .coalesce => !value.isNothing

def templateParts (i : Interpreter) (context : Context) : List (Expr × Units) → Action Units
  | [] => return #[]
  | (value, text) :: rest => do
    let shown ← Operator.toText i (← i.evaluate context value)
    return shown ++ text ++ (← templateParts i context rest)

/-- The value of an expression. -/
def evaluate (i : Interpreter) (context : Context) (expression : Expr) : Action Value := do
  match expression with
  | .null => return .null
  | .boolean value => return .boolean value
  | .number value => return .number value
  | .text value => return .text value
  | .template first rest => return .text (first ++ (← templateParts i context rest))
  | .regex source flags => newRegex source flags
  | .identifier name => readVariable i context name
  | .this => thisValue context
  | .superclass => raiseError .ofSyntax "unexpected 'super'"
  | .newTarget => hiddenValue context targetName
  | .array items =>
    let elements ← elements i context items
    return .object (← newObject (.array elements.toArray) (some (← machine).prototypes.array))
  | .object members =>
    let address ← newPlain
    members.forM (storeMember i context address)
    return .object address
  | .function code => makeClosure context code none
  | .classOf code => makeClass i context code
  | .unary op operand => unary i context op operand
  | .step up before operand =>
    let place ← target i context operand
    let old ← Operator.toNumber i (← readTarget i context place)
    let new := if up then old + 1.0 else old - 1.0
    writeTarget i context place (.number new)
    return .number (if before then new else old)
  | .binary op left right =>
    let left ← i.evaluate context left
    let right ← i.evaluate context right
    Operator.binary i op left right
  | .logical op left right =>
    let value ← i.evaluate context left
    if decides op value then return value else i.evaluate context right
  | .assign (.place expression) value =>
    let place ← target i context expression
    let value ← i.evaluate context value
    writeTarget i context place value
    return value
  | .assign pattern value =>
    let value ← i.evaluate context value
    assign i context .assign pattern value
    return value
  | .assignWith op expression value =>
    let place ← target i context expression
    let old ← readTarget i context place
    let value ← i.evaluate context value
    let new ← Operator.binary i op old value
    writeTarget i context place new
    return new
  | .assignIf op expression value =>
    let place ← target i context expression
    let old ← readTarget i context place
    if decides op old then return old
    let value ← i.evaluate context value
    writeTarget i context place value
    return value
  | .conditional condition yes no =>
    if Operator.toBoolean (← i.evaluate context condition) then i.evaluate context yes
    else i.evaluate context no
  | .call _ _ _ => access i context expression
  | .member _ _ _ => access i context expression
  | .index _ _ _ => access i context expression
  | .chain inner => access i context inner
  | .new function given =>
    let function ← i.evaluate context function
    let given ← arguments i context given
    i.construct function given function
  | .sequence first second =>
    let _ ← i.evaluate context first
    i.evaluate context second
  | .group inner => i.evaluate context inner

/-! ## Statements -/

/-- What the end of a loop's body means: another round with the value so far, or the end. -/
def afterRound (labels : List Name) (value : Option Value) (completion : Completion) :
    Sum (Option Value) Completion :=
  match completion with
  | .normal later => .inl (Completion.laterValue value later)
  | .continued none later => .inl (Completion.laterValue value later)
  | .continued (some label) later =>
    if labels.contains label then .inl (Completion.laterValue value later)
    else .inr (.continued (some label) (Completion.laterValue value later))
  | .broke none later => .inr (.normal (Completion.laterValue value later))
  | completion => .inr (completion.withEarlier value)

def loopValue (value : Option Value) : Completion :=
  .normal (some (value.getD .undefined))

/-- A scope for the next round, with the values that the names have now. -/
def nextRound (context : Context) (declared : List (Name × Bool)) : Action Context := do
  if declared.isEmpty then return context
  let scope ← scopeAt context.scope
  return { context with
    scope := ← newScope (scope.parent.getD globalScope) scope.bindings }

def forLoop (i : Interpreter) (context : Context) (labels : List Name)
    (declared : List (Name × Bool)) (first : Option Statement) (condition step : Option Expr)
    (body : Statement) : Action Completion := do
  let inner ← enterBlock context declared []
  if let some first := first then let _ ← i.execute inner first
  let inner ← nextRound inner declared
  iterate (fun (state : Context × Option Value) => do
    let (inner, value) := state
    let goesOn ← match condition with
      | some condition => pure (Operator.toBoolean (← i.evaluate inner condition))
      | none => pure true
    if !goesOn then return .inr (loopValue value)
    match afterRound labels value (← i.execute inner body) with
    | .inr completion => return .inr completion
    | .inl value =>
      let inner ← nextRound inner declared
      if let some step := step then let _ ← i.evaluate inner step
      return .inl (inner, value)) endless (inner, none)

/-- Binds the value of a round. -/
def bindHead (i : Interpreter) (context : Context) (head : Head) (value : Value) :
    Action Context := do
  match head with
  | .assign pattern =>
    assign i context .assign pattern value
    return context
  | .declare .variable pattern =>
    assign i context .assign pattern value
    return context
  | .declare kind pattern =>
    let inner := { context with
      scope := ← newScope context.scope (pattern.names.map fun name => (name, ⟨none, true⟩)) }
    assign i inner (.begin (kind == .lexical)) pattern value
    return inner

def valueLoop (i : Interpreter) (context : Context) (labels : List Name) (head : Head)
    (body : Statement) (values : List Value) : Action Completion :=
  iterate (fun (state : List Value × Option Value) => do
    match state with
    | ([], value) => return .inr (loopValue value)
    | (next :: rest, value) =>
      let inner ← bindHead i context head next
      match afterRound labels value (← i.execute inner body) with
      | .inr completion => return .inr completion
      | .inl value => return .inl (rest, value)) endless (values, none)

/-- The listed keys of an object and of those that it inherits from, every key once. -/
def listedKeys (objects : Array Object) : Nat → Option Nat → List Units → List Units
  | 0, _, _ => []
  | _, none, _ => []
  | fuel + 1, some address, seen =>
    match objects[address]? with
    | none => []
    | some object =>
      let keys := Property.ownKeys object
      let fresh := keys.filter fun (key, enumerable) => enumerable && !seen.contains key
      fresh.map (·.1) ++
        listedKeys objects fuel object.prototype (keys.map (·.1) ++ seen)

/-- Keys that are gone when their turn comes are passed over. -/
def keyLoop (i : Interpreter) (context : Context) (labels : List Name) (head : Head)
    (body : Statement) (address : Nat) (keys : List Units) : Action Completion :=
  iterate (fun (state : List Units × Option Value) => do
    match state with
    | ([], value) => return .inr (loopValue value)
    | (next :: rest, value) =>
      if !(← Access.has address next) then return .inl (rest, value)
      let inner ← bindHead i context head (.text next)
      match afterRound labels value (← i.execute inner body) with
      | .inr completion => return .inr completion
      | .inl value => return .inl (rest, value)) endless (keys, none)

/-- A loop, with the labels by which its body may refer to it. -/
def loop (i : Interpreter) (context : Context) (labels : List Name) (statement : Statement) :
    Action Completion := do
  match statement with
  | .whileLoop condition body =>
    iterate (fun (value : Option Value) => do
      if !Operator.toBoolean (← i.evaluate context condition) then return .inr (loopValue value)
      return afterRound labels value (← i.execute context body)) endless none
  | .doLoop body condition =>
    iterate (fun (value : Option Value) => do
      match afterRound labels value (← i.execute context body) with
      | .inr completion => return .inr completion
      | .inl value =>
        if Operator.toBoolean (← i.evaluate context condition) then return .inl value
        return .inr (loopValue value)) endless none
  | .forLoop declared first condition step body =>
    forLoop i context labels declared first condition step body
  | .forOf head values body =>
    let values ← valuesOf (← i.evaluate context values)
    valueLoop i context labels head body values
  | .forIn head object body =>
    let value ← i.evaluate context object
    if value.isNothing then return .normal (some .undefined)
    let address ← Operator.toObject value
    let objects := (← machine).objects
    keyLoop i context labels head body address
      (listedKeys objects Access.longestChain (some address) [])
  | statement => i.execute context statement

def declarations (i : Interpreter) (context : Context) (kind : DeclarationKind) :
    List (Pattern × Option Expr) → Action Unit
  | [] => return ()
  | (pattern, value) :: rest => do
    match value, kind with
    | some value, .variable => assign i context .assign pattern (← i.evaluate context value)
    | none, .variable => return ← declarations i context kind rest
    | some value, kind =>
      assign i context (.begin (kind == .lexical)) pattern (← i.evaluate context value)
    | none, _ => assign i context (.begin true) pattern .undefined
    declarations i context kind rest

/-- Runs a handler with what was thrown. -/
def handle (i : Interpreter) (context : Context) (error : Value)
    (handler : Option Pattern × Block) : Action Completion := do
  match handler with
  | (none, body) => block i context body
  | (some pattern, body) =>
    let inner := { context with
      scope := ← newScope context.scope (pattern.names.map fun name => (name, ⟨none, true⟩)) }
    assign i inner (.begin true) pattern error
    block i inner body

def tries (i : Interpreter) (context : Context) (body : Block)
    (handler : Option (Option Pattern × Block)) (finalizer : Option Block) :
    Action Completion := do
  let handled : Action Completion := do
    match handler with
    | none => block i context body
    | some handler =>
      match ← attempt (block i context body) with
      | .ok completion => return completion
      | .error error => handle i context error handler
  match finalizer with
  | none => return (← handled).withEarlier (some .undefined)
  | some finalizer =>
    let result ← attempt handled
    match ← block i context finalizer with
    | .normal _ =>
      match result with
      | .ok completion => return completion.withEarlier (some .undefined)
      | .error error => throwValue error
    | completion => return completion.withEarlier (some .undefined)

/-- The place of the first case that matches. -/
def findCase (i : Interpreter) (context : Context) (value : Value) :
    List (Option Expr × List Statement) → Nat → Action (Option Nat)
  | [], _ => return none
  | (none, _) :: rest, place => findCase i context value rest (place + 1)
  | (some test, _) :: rest, place => do
    if Operator.identical value (← i.evaluate context test) then return some place
    findCase i context value rest (place + 1)

def switch (i : Interpreter) (context : Context) (value : Value)
    (declared : List (Name × Bool)) (functions : List Function)
    (cases : List (Option Expr × List Statement)) : Action Completion := do
  let inner ← enterBlock context declared functions
  let place ← match ← findCase i inner value cases 0 with
    | some place => pure (some place)
    | none => pure (cases.findIdx? fun (test, _) => test.isNone)
  match place with
  | none => return .normal (some .undefined)
  | some place =>
    match ← statements i inner ((cases.drop place).flatMap (·.2)) with
    | .broke none value => return .normal (some (value.getD .undefined))
    | completion => return completion.withEarlier (some .undefined)

/-- The labels in front of a statement. -/
def labelsOf : Nat → Statement → List Name × Statement
  | fuel + 1, .labelled label body =>
    let (labels, inner) := labelsOf fuel body
    (label :: labels, inner)
  | _, statement => ([], statement)

/-- How a statement ends. -/
def execute (i : Interpreter) (context : Context) (step : Statement) : Action Completion := do
  match step with
  | .empty => return .normal none
  | .expression value => return .normal (some (← i.evaluate context value))
  | .declare kind items =>
    declarations i context kind items
    return .normal none
  | .functionHere name =>
    match (← scopeAt context.scope).bindings.lookup name with
    | some ⟨some value, _⟩ =>
      if !context.strict then declareEvaluated context name (some value)
    | _ => pure ()
    return .normal none
  | .classHere name code =>
    let value ← makeClass i context code
    bindIn context.scope name ⟨some value, true⟩
    return .normal none
  | .block body => block i context body
  | .conditional condition yes no =>
    if Operator.toBoolean (← i.evaluate context condition) then
      return (← i.execute context yes).withEarlier (some .undefined)
    else
      match no with
      | some no => return (← i.execute context no).withEarlier (some .undefined)
      | none => return .normal (some .undefined)
  | .whileLoop _ _ => loop i context [] step
  | .doLoop _ _ => loop i context [] step
  | .forLoop _ _ _ _ _ => loop i context [] step
  | .forIn _ _ _ => loop i context [] step
  | .forOf _ _ _ => loop i context [] step
  | .breaks label => return .broke label none
  | .continues label => return .continued label none
  | .returns none => return .returned .undefined
  | .returns (some value) => return .returned (← i.evaluate context value)
  | .throws value => throwValue (← i.evaluate context value)
  | .tries body handler finalizer => tries i context body handler finalizer
  | .switch value declared functions cases =>
    switch i context (← i.evaluate context value) declared functions cases
  | .labelled _ _ =>
    let (labels, inner) := labelsOf 1000 step
    match ← loop i context labels inner with
    | .broke (some label) value =>
      if labels.contains label then return .normal value
      return .broke (some label) value
    | completion => return completion

end Step

end TemplateBuild.JavaScript

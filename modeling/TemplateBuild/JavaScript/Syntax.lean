import TemplateBuild.Text.Units

/-!
# Syntax of JavaScript

Expressions, patterns and statements as read.  Blocks and functions know the names that they
declare, so that running them can declare the names first.
-/

set_option autoImplicit false

namespace TemplateBuild.JavaScript

abbrev Name := Units

inductive BinaryOp where
  | add | subtract | multiply | divide | modulo | power
  | less | greater | atMost | atLeast
  | equal | unequal | identical | distinct
  | bitAnd | bitOr | bitXor | shiftLeft | shiftRight | shiftRightUnsigned
  | memberOf | instanceOf
deriving DecidableEq, Repr

/-- The right operand is looked at only if the left one does not decide. -/
inductive LogicalOp where
  | and
  | or
  | coalesce
deriving DecidableEq, Repr

inductive UnaryOp where
  | not
  | negate
  | plus
  | complement
  | typeOf
  | void
  | delete
deriving DecidableEq, Repr

inductive DeclarationKind where
  | variable
  | lexical
  | constant
deriving DecidableEq, Repr

inductive FunctionKind where
  | ordinary
  /-- An expression with a name of its own, by which the body can refer to the function. -/
  | selfNamed
  | arrow
  | method
  /-- The constructor of a class, and whether the class extends another one. -/
  | constructor (derived : Bool)
deriving DecidableEq, Repr

mutual

inductive Expr where
  | null
  | boolean (value : Bool)
  | number (value : Float)
  | text (value : Units)
  | template (first : Units) (rest : List (Expr × Units))
  | regex (source flags : Units)
  | identifier (name : Name)
  | this
  | superclass
  | newTarget
  | array (items : List Element)
  | object (members : List Member)
  | function (code : Function)
  | classOf (code : Class)
  | unary (op : UnaryOp) (operand : Expr)
  /-- Adds one or takes one off; the result is the old or the new value. -/
  | step (up before : Bool) (target : Expr)
  | binary (op : BinaryOp) (left right : Expr)
  | logical (op : LogicalOp) (left right : Expr)
  | assign (target : Pattern) (value : Expr)
  | assignWith (op : BinaryOp) (target value : Expr)
  | assignIf (op : LogicalOp) (target value : Expr)
  | conditional (condition yes no : Expr)
  | call (function : Expr) (arguments : List Element) (optional_ : Bool)
  | new (function : Expr) (arguments : List Element)
  | member (object : Expr) (name : Name) (optional_ : Bool)
  | index (object key : Expr) (optional_ : Bool)
  /-- Where an optional access gives nothing, so does everything up to here. -/
  | chain (inner : Expr)
  | sequence (first second : Expr)
  | group (inner : Expr)

inductive Element where
  | value (value : Expr)
  | spread (value : Expr)
  | hole

inductive Key where
  | name (name : Name)
  | computed (key : Expr)

inductive Member where
  | property (key : Key) (value : Expr)
  /-- A name for both; a default is allowed where the object is turned into a pattern. -/
  | shorthand (name : Name) (default : Option Expr)
  | getter (key : Key) (code : Function)
  | setter (key : Key) (code : Function)
  | spread (value : Expr)
  | proto (value : Expr)

inductive Pattern where
  | name (name : Name)
  | place (target : Expr)
  | array (items : List PatternItem) (rest : Option Pattern)
  | object (items : List (Key × PatternItem)) (rest : Option Pattern)

/-- A pattern with a default, or a hole. -/
inductive PatternItem where
  | item (pattern : Pattern) (default : Option Expr)
  | hole

inductive Function where
  | mk (name : Option Name) (kind : FunctionKind) (strict : Bool) (parameters : List PatternItem)
      (rest : Option Pattern) (vars : List Name) (body : Block)

/-- The names that a block declares, whether they can change, and its functions. -/
inductive Block where
  | mk (declared : List (Name × Bool)) (functions : List Function) (statements : List Statement)

inductive Class where
  | mk (name : Option Name) (heritage : Option Expr) (constructor : Option Function)
      (members : List ClassMember)

inductive ClassMember where
  | method (isStatic : Bool) (key : Key) (code : Function)
  | getter (isStatic : Bool) (key : Key) (code : Function)
  | setter (isStatic : Bool) (key : Key) (code : Function)
  | field (isStatic : Bool) (key : Key) (value : Option Function)

/-- What a loop over members or values binds in each round. -/
inductive Head where
  | declare (kind : DeclarationKind) (pattern : Pattern)
  | assign (pattern : Pattern)

inductive Statement where
  | empty
  | expression (value : Expr)
  | declare (kind : DeclarationKind) (items : List (Pattern × Option Expr))
  /-- A function that its block has declared already. -/
  | functionHere (name : Name)
  | classHere (name : Name) (code : Class)
  | block (body : Block)
  | conditional (condition : Expr) (yes : Statement) (no : Option Statement)
  | whileLoop (condition : Expr) (body : Statement)
  | doLoop (body : Statement) (condition : Expr)
  | forLoop (declared : List (Name × Bool)) (first : Option Statement)
      (condition step : Option Expr) (body : Statement)
  | forIn (head : Head) (object : Expr) (body : Statement)
  | forOf (head : Head) (values : Expr) (body : Statement)
  | breaks (label : Option Name)
  | continues (label : Option Name)
  | returns (value : Option Expr)
  | throws (value : Expr)
  | tries (body : Block) (handler : Option (Option Pattern × Block)) (finalizer : Option Block)
  | switch (value : Expr) (declared : List (Name × Bool)) (functions : List Function)
      (cases : List (Option Expr × List Statement))
  | labelled (label : Name) (body : Statement)

end

instance : Inhabited Expr := ⟨.null⟩
instance : Inhabited Statement := ⟨.empty⟩
instance : Inhabited Block := ⟨.mk [] [] []⟩
instance : Inhabited Function := ⟨.mk none .ordinary false [] none [] default⟩

namespace Function

def name : Function → Option Name
  | .mk name _ _ _ _ _ _ => name

def kind : Function → FunctionKind
  | .mk _ kind _ _ _ _ _ => kind

def strict : Function → Bool
  | .mk _ _ strict _ _ _ _ => strict

def parameters : Function → List PatternItem
  | .mk _ _ _ parameters _ _ _ => parameters

def rest : Function → Option Pattern
  | .mk _ _ _ _ rest _ _ => rest

def vars : Function → List Name
  | .mk _ _ _ _ _ vars _ => vars

def body : Function → Block
  | .mk _ _ _ _ _ _ body => body

def named (function : Function) (name : Name) : Function :=
  match function with
  | .mk none kind strict parameters rest vars body =>
    .mk (some name) kind strict parameters rest vars body
  | function => function

end Function

namespace Block

def declared : Block → List (Name × Bool)
  | .mk declared _ _ => declared

def functions : Block → List Function
  | .mk _ functions _ => functions

def statements : Block → List Statement
  | .mk _ _ statements => statements

end Block

end TemplateBuild.JavaScript

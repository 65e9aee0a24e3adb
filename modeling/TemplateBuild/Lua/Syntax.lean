import TemplateBuild.Text.Utf8

/-!
# Syntax of Lua

Expressions and statements as read.  Wherever running a piece can fail, the line that the
message names is kept with it, and every variable knows what it is bound to.
-/

set_option autoImplicit false

namespace TemplateBuild.Lua

inductive BinaryOp where
  | add | sub | mul | div | idiv | mod | pow
  | band | bor | bxor | shl | shr
  | concat
  | eq | ne | lt | le | gt | ge
deriving DecidableEq, Repr

inductive UnaryOp where
  | negate
  | not
  | length
  | complement
deriving DecidableEq, Repr

/-- What a name refers to where it stands. -/
inductive Binding where
  | ofBlock
  | ofOuterFunction
  | ofEnvironment
deriving DecidableEq, Repr

inductive Attribute where
  | plain
  | constant
  | closing
deriving DecidableEq, Repr

mutual

inductive Expr where
  | nil
  | boolean (value : Bool)
  | integer (value : Int64)
  | float (value : Float)
  | text (value : Bytes)
  | rest
  | variable (name : Bytes) (binding : Binding)
  | index (object key : Expr) (line : Nat)
  | call (function : Expr) (arguments : List Expr) (line : Nat)
  | method (object : Expr) (name : Bytes) (arguments : List Expr) (line : Nat)
  | function (body : Body)
  | unary (op : UnaryOp) (operand : Expr) (line : Nat)
  | binary (op : BinaryOp) (left right : Expr) (line : Nat)
  | and (left right : Expr)
  | or (left right : Expr)
  | table (items : List Item) (line : Nat)
  | single (inner : Expr)

inductive Item where
  | positional (value : Expr)
  | keyed (key value : Expr) (line : Nat)

inductive Body where
  | mk (parameters : List Bytes) (variadic : Bool) (block : List Statement) (line : Nat)

inductive Statement where
  | call (expression : Expr)
  | locals (names : List (Bytes × Attribute)) (values : List Expr)
  | assign (targets : List Expr) (values : List Expr) (line : Nat)
  | block (body : List Statement)
  | whileLoop (condition : Expr) (body : List Statement)
  | repeatLoop (body : List Statement) (condition : Expr)
  | conditional (branches : List (Expr × List Statement)) (otherwise : List Statement)
  | numericFor (name : Bytes) (first last : Expr) (step : Option Expr) (body : List Statement)
      (line : Nat)
  | genericFor (names : List Bytes) (values : List Expr) (body : List Statement) (line : Nat)
  | localFunction (name : Bytes) (body : Body)
  | returns (values : List Expr) (line : Nat)
  | breaks
  | goto (label : Bytes)
  | label (name : Bytes)

end

instance : Inhabited Expr := ⟨.nil⟩

namespace Body

def parameters : Body → List Bytes
  | .mk parameters _ _ _ => parameters

def variadic : Body → Bool
  | .mk _ variadic _ _ => variadic

def block : Body → List Statement
  | .mk _ _ block _ => block

def line : Body → Nat
  | .mk _ _ _ line => line

end Body

end TemplateBuild.Lua

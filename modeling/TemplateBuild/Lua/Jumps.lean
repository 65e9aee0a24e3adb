import TemplateBuild.Lua.Syntax
import TemplateBuild.Lua.Token

/-!
# Jumps

Every jump has to find its label in a block around it, within the same function, and must not
enter the scope of a local variable.  Only a label at the very end of a block may stand
behind the declarations that a jump passes over.
-/

set_option autoImplicit false

namespace TemplateBuild.Lua

namespace Statement

def isLabel : Statement → Bool
  | .label _ => true
  | _ => false

def isDeclaration : Statement → Bool
  | .locals _ _ => true
  | .localFunction _ _ => true
  | _ => false

def labelName? : Statement → Option Bytes
  | .label name => some name
  | _ => none

/-- The labels that a jump from before these statements may go to. -/
def reachable (declared : Bool) : List Statement → List Bytes
  | [] => []
  | statement :: rest =>
    match statement with
    | .label name =>
      if !declared || rest.all isLabel then name :: reachable declared rest
      else reachable declared rest
    | _ => reachable (declared || statement.isDeclaration) rest

mutual

/-- The first fault in a statement, given the labels that it may jump to, all labels of the
blocks around it, and whether a loop is around it. -/
def jumpFault (targets around : List Bytes) (inLoop : Bool) : Statement → Option String
  | .block body => statementsFault targets [] around inLoop body
  | .whileLoop _ body => statementsFault targets [] around true body
  | .repeatLoop body _ => statementsFault targets [] around true body
  | .numericFor _ _ _ _ body _ => statementsFault targets [] around true body
  | .genericFor _ _ body _ => statementsFault targets [] around true body
  | .conditional branches otherwise =>
    (branchFault targets around inLoop branches).or
      (statementsFault targets [] around inLoop otherwise)
  | .breaks => if inLoop then none else some "break outside a loop"
  | .goto wanted =>
    if targets.contains wanted then none
    else some ("no visible label '" ++ Bytes.toStringLossy wanted ++ "' for goto")
  | _ => none

def branchFault (targets around : List Bytes) (inLoop : Bool) :
    List (Expr × List Statement) → Option String
  | [] => none
  | (_, body) :: rest =>
    (statementsFault targets [] around inLoop body).or (branchFault targets around inLoop rest)

/-- `earlier` are the labels passed already; a jump back to them is always possible. -/
def statementsFault (targets earlier around : List Bytes) (inLoop : Bool) :
    List Statement → Option String
  | [] => none
  | statement :: rest =>
    match statement with
    | .label name =>
      if around.contains name then
        some ("label '" ++ Bytes.toStringLossy name ++ "' already defined")
      else statementsFault targets (name :: earlier) (name :: around) inLoop rest
    | _ =>
      let visible := earlier ++ reachable statement.isDeclaration rest ++ targets
      (jumpFault visible around inLoop statement).or
        (statementsFault targets earlier around inLoop rest)

end

end Statement

/-- The fault in the jumps of a function's block, if there is one. -/
def jumpFault? (block : List Statement) : Option String :=
  Statement.statementsFault [] [] [] false block

end TemplateBuild.Lua

import TemplateBuild.JavaScript.Reader

/-!
# Patterns

An array or an object turns out to be a pattern once an assignment or an arrow follows it.
-/

set_option autoImplicit false

namespace TemplateBuild.JavaScript

/-- A function or a class without a name takes that of what it is assigned to. -/
def Expr.nameFunction (name : Name) : Expr → Expr
  | .function (.mk none kind strict parameters rest vars body) =>
    .function (.mk (some name) kind strict parameters rest vars body)
  | .classOf (.mk none heritage constructor members) =>
    .classOf (.mk (some name) heritage constructor members)
  | expression => expression

/-- A value that is assigned to a name, or a default for one. -/
def namedAfter (pattern : Pattern) (value : Expr) : Expr :=
  match pattern with
  | .name target => value.nameFunction target
  | _ => value

namespace Parser

mutual

/-- The pattern that an expression spells.  Only names may be bound where one is declared. -/
def toPattern (binds : Bool) : Nat → Expr → Option Pattern
  | 0, _ => none
  | depth + 1, expression =>
    match expression with
    | .identifier name => some (.name name)
    | .member object name false => if binds then none else some (.place (.member object name false))
    | .index object key false => if binds then none else some (.place (.index object key false))
    | .group inner =>
      if binds then none
      else
        match inner with
        | .array _ => none
        | .object _ => none
        | inner => toPattern binds depth inner
    | .array items => arrayPattern binds depth items
    | .object members => objectPattern binds depth members
    | _ => none
termination_by structural depth => depth

def toItem (binds : Bool) : Nat → Expr → Option PatternItem
  | 0, _ => none
  | depth + 1, expression =>
    match expression with
    | .assign pattern default => some (.item pattern (some default))
    | expression => (toPattern binds depth expression).map fun pattern => .item pattern none
termination_by structural depth => depth

def arrayPattern (binds : Bool) : Nat → List Element → Option Pattern
  | 0, _ => none
  | depth + 1, items =>
    match items with
    | [] => some (.array [] none)
    | [.spread value] =>
      (toPattern binds depth value).map fun pattern => .array [] (some pattern)
    | item :: rest =>
      match arrayPattern binds depth rest with
      | some (.array others last) =>
        match item with
        | .hole => some (.array (.hole :: others) last)
        | .value value =>
          (toItem binds depth value).map fun item => .array (item :: others) last
        | .spread _ => none
      | _ => none
termination_by structural depth => depth

def objectPattern (binds : Bool) : Nat → List Member → Option Pattern
  | 0, _ => none
  | depth + 1, members =>
    match members with
    | [] => some (.object [] none)
    | [.spread value] =>
      (toPattern binds depth value).map fun pattern => .object [] (some pattern)
    | member :: rest =>
      match objectPattern binds depth rest with
      | some (.object others last) =>
        match member with
        | .property key value =>
          (toItem binds depth value).map fun item => .object ((key, item) :: others) last
        | .proto value =>
          (toItem binds depth value).map fun item =>
            .object ((.name (Units.ofString "__proto__"), item) :: others) last
        | .shorthand name default =>
          some (.object ((.name name, .item (.name name) default) :: others) last)
        | _ => none
      | _ => none
termination_by structural depth => depth

end

/-- Expressions are not nested deeper than this. -/
def deepestPattern : Nat := 100000

mutual

/-- The names that a pattern binds. -/
def namesOf : Nat → Pattern → List Name
  | 0, _ => []
  | depth + 1, pattern =>
    match pattern with
    | .name name => [name]
    | .place _ => []
    | .array items rest => namesOfItems depth items ++ (rest.map (namesOf depth)).getD []
    | .object items rest =>
      namesOfItems depth (items.map (·.2)) ++ (rest.map (namesOf depth)).getD []
termination_by structural depth => depth

def namesOfItems : Nat → List PatternItem → List Name
  | 0, _ => []
  | depth + 1, items =>
    match items with
    | [] => []
    | .hole :: rest => namesOfItems depth rest
    | .item pattern _ :: rest => namesOf depth pattern ++ namesOfItems depth rest
termination_by structural depth => depth

end

end Parser

/-- The names that a pattern binds. -/
def Pattern.names (pattern : Pattern) : List Name :=
  Parser.namesOf Parser.deepestPattern pattern

def PatternItem.names (items : List PatternItem) : List Name :=
  Parser.namesOfItems Parser.deepestPattern items

end TemplateBuild.JavaScript

import TemplateBuild.Text.Units

/-!
# Regular expressions

A pattern as a tree.  Groups that capture are numbered from one, in the order in which they
open.
-/

set_option autoImplicit false

namespace TemplateBuild.JavaScript.Regex

inductive Kind where
  | digit
  | word
  | space
deriving DecidableEq, Repr

/-- A member of a class: codes between two, or all of a kind, or all but those. -/
inductive Member where
  | range (low high : Nat)
  | kind (kind : Kind) (negated : Bool)
deriving DecidableEq, Repr

inductive Node where
  | code (code : Nat)
  | any
  | members (negated : Bool) (members : List Member)
  | start
  | finish
  | boundary (negated : Bool)
  | capture (number : Nat) (inner : Node)
  | same (number : Nat)
  /-- The group with a name; its number is known once the whole pattern is. -/
  | sameNamed (name : Units)
  | look (ahead negated : Bool) (inner : Node)
  | sequence (nodes : List Node)
  | choice (nodes : List Node)
  /-- `first` is the number of the first group inside and `count` how many there are. -/
  | repeated (inner : Node) (least : Nat) (most : Option Nat) (greedy : Bool) (first count : Nat)

instance : Inhabited Node := ⟨.any⟩

structure Flags where
  isGlobal : Bool
  ignoreCase : Bool
  multiline : Bool
  dotAll : Bool
  unicode : Bool
  sticky : Bool
deriving DecidableEq, Repr

structure Pattern where
  node : Node
  flags : Flags
  groups : Nat
  names : List (Units × Nat)

namespace Flags

def none : Flags := ⟨false, false, false, false, false, false⟩

/-- Every flag stands at most once. -/
def read : List UInt16 → Flags → Option Flags
  | [], flags => some flags
  | unit :: rest, flags =>
    match Char.ofNat unit.toNat with
    | 'g' => if flags.isGlobal then Option.none else read rest { flags with isGlobal := true }
    | 'i' => if flags.ignoreCase then Option.none else read rest { flags with ignoreCase := true }
    | 'm' => if flags.multiline then Option.none else read rest { flags with multiline := true }
    | 's' => if flags.dotAll then Option.none else read rest { flags with dotAll := true }
    | 'u' => if flags.unicode then Option.none else read rest { flags with unicode := true }
    | 'y' => if flags.sticky then Option.none else read rest { flags with sticky := true }
    | 'd' => read rest flags
    | _ => Option.none

end Flags

end TemplateBuild.JavaScript.Regex

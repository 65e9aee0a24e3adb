import TemplateBuild.Text.Utf8

/-!
# Indexes

An index assigns code points to pointers, the numbers that the byte sequences of an encoding
stand for.  It is a list of runs in which both count up together.  Reading goes from pointer
to code point, writing from code point to the first pointer that has it.
-/

set_option autoImplicit false

namespace TemplateBuild.Encoding

/-- The pointers from `pointer` on stand for the code points from `code` on, `length` of them. -/
structure Run where
  pointer : Nat
  code : Nat
  length : Nat
deriving DecidableEq, Repr

abbrev Index := List Run

namespace Index

def code? (index : Index) (pointer : Nat) : Option Nat :=
  index.findSome? fun run =>
    if run.pointer ≤ pointer ∧ pointer < run.pointer + run.length then
      some (run.code + (pointer - run.pointer))
    else none

def pointer? (index : Index) (code : Nat) : Option Nat :=
  index.findSome? fun run =>
    if run.code ≤ code ∧ code < run.code + run.length then
      some (run.pointer + (code - run.code))
    else none

def char? (index : Index) (pointer : Nat) : Option Char :=
  (index.code? pointer).map Char.ofNat

end Index

end TemplateBuild.Encoding

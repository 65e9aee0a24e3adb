/-!
# Upper and lower case

The letters of the Latin, Greek and Cyrillic alphabets in the other case.  A sharp s has no
single capital letter and becomes two.
-/

set_option autoImplicit false

namespace TemplateBuild.Text

/-- In these ranges a capital letter and its small letter follow one another; the flag tells
whether the capital letters have even codes. -/
def alternating (code : Nat) : Option Bool :=
  if (0x100 ≤ code ∧ code ≤ 0x12F) ∨ (0x132 ≤ code ∧ code ≤ 0x137) ∨
      (0x14A ≤ code ∧ code ≤ 0x177) ∨ (0x1DE ≤ code ∧ code ≤ 0x1EF) ∨
      (0x1F8 ≤ code ∧ code ≤ 0x21F) ∨ (0x222 ≤ code ∧ code ≤ 0x233) ∨
      (0x3D8 ≤ code ∧ code ≤ 0x3EF) ∨ (0x460 ≤ code ∧ code ≤ 0x481) ∨
      (0x48A ≤ code ∧ code ≤ 0x4BF) ∨ (0x4D0 ≤ code ∧ code ≤ 0x52F) ∨
      (0x1E00 ≤ code ∧ code ≤ 0x1E95) ∨ (0x1EA0 ≤ code ∧ code ≤ 0x1EFF) then some true
  else if (0x139 ≤ code ∧ code ≤ 0x148) ∨ (0x179 ≤ code ∧ code ≤ 0x17E) ∨
      (0x1CD ≤ code ∧ code ≤ 0x1DC) ∨ (0x4C1 ≤ code ∧ code ≤ 0x4CE) then some false
  else none

def upperCode (code : Nat) : Nat :=
  if 0x61 ≤ code ∧ code ≤ 0x7A then code - 0x20
  else if code = 0xB5 then 0x39C
  else if 0xE0 ≤ code ∧ code ≤ 0xFE ∧ code ≠ 0xF7 then code - 0x20
  else if code = 0xFF then 0x178
  else if code = 0x131 then 0x49
  else if code = 0x17F then 0x53
  else
    match alternating code with
    | some evenUpper => if (code % 2 = 0) = evenUpper then code else code - 1
    | none =>
      if code = 0x3AC then 0x386
      else if 0x3AD ≤ code ∧ code ≤ 0x3AF then code - 37
      else if code = 0x3C2 then 0x3A3
      else if 0x3B1 ≤ code ∧ code ≤ 0x3CB then code - 0x20
      else if code = 0x3CC then 0x38C
      else if code = 0x3CD ∨ code = 0x3CE then code - 63
      else if 0x430 ≤ code ∧ code ≤ 0x44F then code - 0x20
      else if 0x450 ≤ code ∧ code ≤ 0x45F then code - 0x50
      else if 0x561 ≤ code ∧ code ≤ 0x586 then code - 0x30
      else code

def lowerCode (code : Nat) : Nat :=
  if 0x41 ≤ code ∧ code ≤ 0x5A then code + 0x20
  else if 0xC0 ≤ code ∧ code ≤ 0xDE ∧ code ≠ 0xD7 then code + 0x20
  else if code = 0x178 then 0xFF
  else if code = 0x130 then 0x69
  else
    match alternating code with
    | some evenUpper => if (code % 2 = 0) = evenUpper then code + 1 else code
    | none =>
      if code = 0x386 then 0x3AC
      else if 0x388 ≤ code ∧ code ≤ 0x38A then code + 37
      else if code = 0x38C then 0x3CC
      else if code = 0x38E ∨ code = 0x38F then code + 63
      else if 0x391 ≤ code ∧ code ≤ 0x3AB ∧ code ≠ 0x3A2 then code + 0x20
      else if 0x410 ≤ code ∧ code ≤ 0x42F then code + 0x20
      else if 0x400 ≤ code ∧ code ≤ 0x40F then code + 0x50
      else if 0x531 ≤ code ∧ code ≤ 0x556 then code + 0x30
      else code

/-- The codes that stand for a code in capital letters. -/
def upperCodes (code : Nat) : List Nat :=
  if code = 0xDF then [0x53, 0x53] else [upperCode code]

end TemplateBuild.Text

/-!
# Punycode

Text with characters outside of ASCII is written in ASCII: its ASCII characters first, then
for every other character, in increasing order, how far it lies from the one before.  The
distances are numbers with digits of varying weight, and the weights adapt to their sizes.
-/

set_option autoImplicit false

namespace TemplateBuild.Url.Punycode

/-- Letters are the digits below 26. -/
def digit (value : Nat) : Char :=
  if value < 26 then Char.ofNat (0x61 + value) else Char.ofNat (0x30 + value - 26)

def threshold (position bias : Nat) : Nat :=
  if position ≤ bias then 1 else if bias + 26 ≤ position then 26 else position - bias

def adaptBelow : Nat → Nat → Nat → Nat
  | 0, distance, position => position + 36 * distance / (distance + 38)
  | fuel + 1, distance, position =>
    if 455 < distance then adaptBelow fuel (distance / 35) (position + 36)
    else position + 36 * distance / (distance + 38)

/-- The bias after a distance, which many characters share. -/
def adapt (distance count : Nat) (isFirst : Bool) : Nat :=
  let start := if isFirst then distance / 700 else distance / 2
  adaptBelow start (start + start / count) 0

/-- The digits of a distance; `fuel` is at least their number. -/
def digits (bias : Nat) : Nat → Nat → Nat → List Char
  | 0, _, _ => []
  | fuel + 1, position, distance =>
    let limit := threshold position bias
    if distance < limit then [digit distance]
    else
      digit (limit + (distance - limit) % (36 - limit)) ::
        digits bias fuel (position + 36) ((distance - limit) / (36 - limit))

structure State where
  code : Nat
  distance : Nat
  bias : Nat
  handled : Nat
  written : List Char

/-- One pass over the text for the next code. -/
def pass (basic : Nat) (state : State) (text : List Nat) : State :=
  text.foldl (fun state code =>
    if code < state.code then { state with distance := state.distance + 1 }
    else if code = state.code then
      { state with
        written := state.written ++ digits state.bias (state.distance + 1) 36 state.distance
        bias := adapt state.distance (state.handled + 1) (state.handled = basic)
        distance := 0
        handled := state.handled + 1 }
    else state) state

def least (codes : List Nat) : Option Nat :=
  codes.foldl (fun found code => some (match found with
    | some found => min found code
    | none => code)) none

def encodeFrom (basic : Nat) (text : List Nat) : Nat → State → List Char
  | 0, state => state.written
  | fuel + 1, state =>
    match least (text.filter fun code => state.code ≤ code) with
    | none => state.written
    | some next =>
      let start := { state with
        distance := state.distance + (next - state.code) * (state.handled + 1)
        code := next }
      let after := pass basic start text
      encodeFrom basic text fuel
        { after with distance := after.distance + 1, code := after.code + 1 }

def encode (text : List Char) : List Char :=
  let codes := text.map Char.toNat
  let basic := text.filter fun character => character.toNat < 0x80
  let written := if basic.isEmpty then [] else basic ++ ['-']
  encodeFrom basic.length codes codes.length ⟨0x80, 0, 72, basic.length, written⟩

end TemplateBuild.Url.Punycode

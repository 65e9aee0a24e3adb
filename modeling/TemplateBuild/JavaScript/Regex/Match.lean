import TemplateBuild.JavaScript.Regex.Parser
import TemplateBuild.Text.LetterCase

/-!
# Matching regular expressions

A match tries its alternatives in order and comes back to the next one where the rest does not
match.  What is to be matched behind a node is given along as a function.
-/

set_option autoImplicit false

namespace TemplateBuild.JavaScript.Regex

/-- A piece of the input, from a place up to another one. -/
abbrev Capture := Option (Nat × Nat)

structure State where
  place : Nat
  captures : Array Capture

structure Input where
  text : Units
  flags : Flags

namespace Input

/-- The code that begins at a place, and its length. -/
def codeAt? (input : Input) (place : Nat) : Option (Nat × Nat) :=
  match input.text[place]? with
  | none => none
  | some unit =>
    if input.flags.unicode && Units.isHigh unit then
      match input.text[place + 1]? with
      | some low =>
        if Units.isLow low then
          some (0x10000 + (unit.toNat - 0xD800) * 0x400 + (low.toNat - 0xDC00), 2)
        else some (unit.toNat, 1)
      | none => some (unit.toNat, 1)
    else some (unit.toNat, 1)

/-- The code that ends at a place, and its length. -/
def codeBefore? (input : Input) (place : Nat) : Option (Nat × Nat) :=
  if place = 0 then none
  else if input.flags.unicode && 2 ≤ place then
    match input.codeAt? (place - 2) with
    | some (code, 2) => some (code, 2)
    | _ => input.codeAt? (place - 1)
  else input.codeAt? (place - 1)

/-- Whether case counts or not. -/
def same (input : Input) (left right : Nat) : Bool :=
  left == right ||
    (input.flags.ignoreCase && Text.upperCode left == Text.upperCode right &&
      (left < 0x80) == (right < 0x80))

end Input

def isWordCode (code : Nat) : Bool :=
  (0x30 ≤ code && code ≤ 0x39) || (0x41 ≤ code && code ≤ 0x5A) ||
    (0x61 ≤ code && code ≤ 0x7A) || code == 0x5F

def isLineEndCode (code : Nat) : Bool :=
  code == 0x0A || code == 0x0D || code == 0x2028 || code == 0x2029

def Kind.contains (kind : Kind) (code : Nat) : Bool :=
  match kind with
  | .digit => 0x30 ≤ code && code ≤ 0x39
  | .word => isWordCode code
  | .space => Numeral.isSpace (Char.ofNat code) && code != 0 && !Units.isSurrogate code

def Member.contains (input : Input) (code : Nat) : Member → Bool
  | .range low high =>
    (low ≤ code && code ≤ high) ||
      (input.flags.ignoreCase &&
        (let upper := Text.upperCode code
         let lower := Text.lowerCode code
         (low ≤ upper && upper ≤ high) || (low ≤ lower && lower ≤ high)))
  | .kind wanted negated => wanted.contains code != negated

/-- Whether a node that stands for one code takes a code. -/
def takes (input : Input) (node : Node) (code : Nat) : Bool :=
  match node with
  | .code wanted => input.same wanted code
  | .any => input.flags.dotAll || !isLineEndCode code
  | .members negated members => members.any (Member.contains input code) != negated
  | _ => false

def isWordAt (input : Input) (place : Nat) : Bool :=
  match input.text[place]? with
  | some unit => isWordCode unit.toNat
  | none => false

def atBoundary (input : Input) (place : Nat) : Bool :=
  (place != 0 && isWordAt input (place - 1)) != isWordAt input place

def atLineEnd (input : Input) (place : Nat) : Bool :=
  match input.text[place]? with
  | some unit => isLineEndCode unit.toNat
  | none => true

/-- Forgets the captures of some groups. -/
def forget (captures : Array Capture) (first count : Nat) : Array Capture :=
  (List.range' first count).foldl (fun captures number => captures.set! number none) captures

/-- Whether the units of two pieces are the same. -/
def samePiece (input : Input) (first second length : Nat) : Bool :=
  (List.range length).all fun offset =>
    match input.text[first + offset]?, input.text[second + offset]? with
    | some left, some right => input.same left.toNat right.toNat
    | _, _ => false

abbrev Continuation := State → Option State

/-- Matches a node and then what follows it, ahead or backwards. -/
def run (input : Input) : Nat → Bool → Node → State → Continuation → Option State
  | 0, _, _, _, _ => none
  | fuel + 1, ahead, node, state, next =>
    let single := fun (node : Node) =>
      match if ahead then input.codeAt? state.place else input.codeBefore? state.place with
      | some (code, length) =>
        if takes input node code then
          next { state with place := if ahead then state.place + length else state.place - length }
        else none
      | none => none
    match node with
    | .code code => single (.code code)
    | .any => single .any
    | .members negated members => single (.members negated members)
    | .start =>
      if state.place = 0 || (input.flags.multiline && atLineEnd input (state.place - 1)) then
        next state
      else none
    | .finish =>
      if state.place = input.text.size ||
          (input.flags.multiline && atLineEnd input state.place) then next state
      else none
    | .boundary negated =>
      if atBoundary input state.place != negated then next state else none
    | .capture number inner =>
      run input fuel ahead inner state fun after =>
        let piece := if ahead then (state.place, after.place) else (after.place, state.place)
        next { after with captures := after.captures.set! number (some piece) }
    | .same number =>
      match state.captures[number]? with
      | some (some (first, last)) =>
        let length := last - first
        if ahead then
          if samePiece input first state.place length && state.place + length ≤ input.text.size then
            next { state with place := state.place + length }
          else none
        else if length ≤ state.place && samePiece input first (state.place - length) length then
          next { state with place := state.place - length }
        else none
      | _ => next state
    | .sameNamed _ => next state
    | .look forward negated inner =>
      match run input fuel forward inner state some with
      | some found =>
        if negated then none else next { found with place := state.place }
      | none => if negated then next state else none
    | .sequence [] => next state
    | .sequence (first :: rest) =>
      if ahead then
        run input fuel ahead first state fun after =>
          run input fuel ahead (.sequence rest) after next
      else
        run input fuel ahead (.sequence rest) state fun after =>
          run input fuel ahead first after next
    | .choice [] => none
    | .choice (first :: rest) =>
      match run input fuel ahead first state next with
      | some found => some found
      | none => run input fuel ahead (.choice rest) state next
    | .repeated inner least most greedy first count =>
      let again := fun (_ : Unit) =>
        let cleared := { state with captures := forget state.captures first count }
        run input fuel ahead inner cleared fun after =>
          if least = 0 ∧ after.place = state.place then none
          else
            run input fuel ahead
              (.repeated inner (least - 1) (most.map (· - 1)) greedy first count) after next
      if most = some 0 then next state
      else if least > 0 then again ()
      else if greedy then
        match again () with
        | some found => some found
        | none => next state
      else
        match next state with
        | some found => some found
        | none => again ()

/-- A match is given up after so many nested steps. -/
def deepest : Nat := 1 <<< 40

/-- The captures of a match that begins at a place; the first one is the whole match. -/
def matchAt (pattern : Pattern) (text : Units) (place : Nat) : Option (Array Capture) :=
  let state : State := ⟨place, Array.replicate (pattern.groups + 1) none⟩
  (run ⟨text, pattern.flags⟩ deepest true pattern.node state some).map fun found =>
    found.captures.set! 0 (some (place, found.place))

/-- The first match from a place on. -/
def search (pattern : Pattern) (text : Units) : Nat → Nat → Option (Array Capture)
  | 0, _ => none
  | fuel + 1, place =>
    match matchAt pattern text place with
    | some captures => some captures
    | none =>
      if place < text.size then search pattern text fuel (place + 1) else none

end TemplateBuild.JavaScript.Regex

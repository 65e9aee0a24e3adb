import TemplateBuild.Lua.Library.Basic
import TemplateBuild.Lua.Library.Format
import TemplateBuild.Lua.Library.Pattern

/-!
# Functions on texts

Texts are bytes, counted from one; negative places count from the end.
-/

set_option autoImplicit false

namespace TemplateBuild.Lua.Library.Texts

open Action

/-- A first place as a count of bytes before it. -/
def startAt (place : Int) (length : Nat) : Nat :=
  if place > 0 then (place - 1).toNat
  else if place = 0 then 0
  else if -place > length then 0
  else length - (-place).toNat

/-- A last place as a count of bytes up to it. -/
def endAt (place : Int) (length : Nat) : Nat :=
  if place > length then length
  else if place ≥ 0 then place.toNat
  else if -place > length then 0
  else length - (-place).toNat + 1

def slice (text : Bytes) (first last : Nat) : Bytes :=
  (text.drop first).take (last - first)

def sub : Builtin := fun _ _ arguments => do
  let text ← Argument.text arguments 1
  let first := startAt (← Argument.integer arguments 2) text.length
  let last := endAt (← Argument.integerOr arguments 3 (-1)) text.length
  return [.text (slice text first last)]

def len : Builtin := fun _ _ arguments => do
  return [.integer (Int64.ofNat (← Argument.text arguments 1).length)]

def upperByte (byte : UInt8) : UInt8 :=
  if Pattern.isLower byte then byte - 0x20 else byte

def lower : Builtin := fun _ _ arguments => do
  return [.text ((← Argument.text arguments 1).map Pattern.lowered)]

def upper : Builtin := fun _ _ arguments => do
  return [.text ((← Argument.text arguments 1).map upperByte)]

def reverse : Builtin := fun _ _ arguments => do
  return [.text (← Argument.text arguments 1).reverse]

def longestText : Nat := 1 <<< 31

def rep : Builtin := fun _ _ arguments => do
  let text ← Argument.text arguments 1
  let count ← Argument.integer arguments 2
  let separator ← Argument.textOr arguments 3 []
  if count ≤ 0 then return [.text []]
  if (text.length + separator.length) * count.toNat > longestText then
    callerFault "resulting string too large"
  return [.text (List.intercalate separator (List.replicate count.toNat text))]

def byte : Builtin := fun _ _ arguments => do
  let text ← Argument.text arguments 1
  let place ← Argument.integerOr arguments 2 1
  let first := startAt place text.length
  let last := endAt (← Argument.integerOr arguments 3 (first + 1 : Nat)) text.length
  return (slice text first last).map fun byte => .integer (Int64.ofNat byte.toNat)

def charsFrom (arguments : List Value) : Nat → Nat → Action Bytes
  | 0, _ => return []
  | count + 1, number => do
    let code ← Argument.integer arguments number
    if code < 0 ∨ 255 < code then Argument.refuse number "value out of range"
    return UInt8.ofNat code.toNat :: (← charsFrom arguments count (number + 1))

def char : Builtin := fun _ _ arguments => do
  return [.text (← charsFrom arguments arguments.length 1)]

/-! ## Searching -/

def capturedValue (text : Array UInt8) : Pattern.Capture → Action Value
  | .unfinished _ => callerFault "unfinished capture"
  | .place start => return .integer (Int64.ofNat (start + 1))
  | .piece start length => return .text (text.extract start (start + length)).toList

/-- The captures of a match, or the whole match where there are none. -/
def capturedValues (text : Array UInt8) (start ending : Nat) (captures : Pattern.Captures) :
    Action (List Value) :=
  if captures.isEmpty then return [.text (text.extract start ending).toList]
  else captures.mapM (capturedValue text)

/-- An anchor, if the pattern begins with one, and the place behind it. -/
def anchorOf (pattern : Bytes) : Bool × Nat :=
  match pattern with
  | 0x5E :: _ => (true, 1)
  | _ => (false, 0)

def specialBytes : Bytes :=
  Bytes.ofString "^$*+?.([%-"

/-- The first place of a piece of text from a place on. -/
def findPlain (piece : Bytes) : Nat → Bytes → Nat → Option Nat
  | 0, _, _ => none
  | fuel + 1, text, place =>
    if piece.isPrefixOf text then some place
    else
      match text with
      | [] => none
      | _ :: rest => findPlain piece fuel rest (place + 1)

def searchFrom (text pattern : Bytes) (start : Nat) : Option Nat × Pattern.Result :=
  let (anchored, item) := anchorOf pattern
  Pattern.search ⟨text.toArray, pattern.toArray⟩ item anchored (text.length + 2) start

def find : Builtin := fun _ _ arguments => do
  let text ← Argument.text arguments 1
  let pattern ← Argument.text arguments 2
  let start := startAt (← Argument.integerOr arguments 3 1) text.length
  if start > text.length then return [.nil]
  let plain := (Argument.value arguments 4).isTrue || !pattern.any specialBytes.contains
  if plain then
    match findPlain pattern (text.length + 2) (text.drop start) start with
    | some place =>
      return [.integer (Int64.ofNat (place + 1)), .integer (Int64.ofNat (place + pattern.length))]
    | none => return [.nil]
  match searchFrom text pattern start with
  | (some place, .matched ending captures) =>
    let values ← captures.mapM (capturedValue text.toArray)
    return .integer (Int64.ofNat (place + 1)) :: .integer (Int64.ofNat ending) :: values
  | (_, .fault message) => callerFault message
  | _ => return [.nil]

def matchOnce : Builtin := fun _ _ arguments => do
  let text ← Argument.text arguments 1
  let pattern ← Argument.text arguments 2
  let start := startAt (← Argument.integerOr arguments 3 1) text.length
  if start > text.length then return [.nil]
  match searchFrom text pattern start with
  | (some place, .matched ending captures) =>
    capturedValues text.toArray place ending captures
  | (_, .fault message) => callerFault message
  | _ => return [.nil]

/-- The iterator keeps text, pattern, the next place, and where the last match ended. -/
def gmatch : Builtin := fun _ _ arguments => do
  let text ← Argument.text arguments 1
  let pattern ← Argument.text arguments 2
  let start := startAt (← Argument.integerOr arguments 3 1) text.length
  let textCell ← newCell (.text text)
  let patternCell ← newCell (.text pattern)
  let placeCell ← newCell (.integer (Int64.ofNat start))
  let lastCell ← newCell (.integer (-1))
  return [← newBuiltin "string gmatch next" [textCell, patternCell, placeCell, lastCell]]

/-- Matches that are empty and end where the last one ended are passed over. -/
def gmatchNext : Builtin := fun _ cells _ => do
  match cells with
  | [textCell, patternCell, placeCell, lastCell] =>
    match ← cell textCell, ← cell patternCell, ← cell placeCell, ← cell lastCell with
    | .text text, .text pattern, .integer place, .integer last =>
      let input : Pattern.Input := ⟨text.toArray, pattern.toArray⟩
      let result ← iterate (fun (place : Nat) => do
        if place > text.length then return .inr none
        match Pattern.matchAt input place 0 with
        | .fault message => callerFault message
        | .failed => return .inl (place + 1)
        | .matched ending captures =>
          if last.toInt = ending then return .inl (place + 1)
          return .inr (some (place, ending, captures))) endless place.toInt.toNat
      match result with
      | none =>
        setCell placeCell (.integer (Int64.ofNat (text.length + 1)))
        return [.nil]
      | some (start, ending, captures) =>
        setCell placeCell (.integer (Int64.ofNat ending))
        setCell lastCell (.integer (Int64.ofNat ending))
        capturedValues input.text start ending captures
    | _, _, _, _ => return [.nil]
  | _ => return [.nil]

/-! ## Replacing -/

/-- A replacement text with its references to captures. -/
def expand (whole : Bytes) (captured : List Value) : Nat → Bytes → Action Bytes
  | 0, _ => return []
  | fuel + 1, replacement => do
    match replacement with
    | [] => return []
    | 0x25 :: mark :: rest =>
      let others ← expand whole captured fuel rest
      if mark = 0x25 then return 0x25 :: others
      else if mark = 0x30 then return whole ++ others
      else if Numeral.isDigit mark then
        match captured[mark.toNat - 0x31]? with
        | some value =>
          match Operator.textOf? value with
          | some text => return text ++ others
          | none => return others
        | none =>
          callerFault ("invalid capture index %" ++ toString (mark.toNat - 0x30) ++
            " in replacement string")
      else callerFault "invalid use of '%' in replacement string"
    | [0x25] => callerFault "invalid use of '%' in replacement string"
    | byte :: rest => return byte :: (← expand whole captured fuel rest)

/-- What stands for one match.  Nil and false leave it as it is. -/
def replacement (i : Interpreter) (with_ : Value) (text : Array UInt8) (start ending : Nat)
    (captures : Pattern.Captures) : Action Bytes := do
  let whole := (text.extract start ending).toList
  let captured ← capturedValues text start ending captures
  let result ← match with_ with
    | .table _ => Operator.index i with_ (Operator.firstOf captured) none
    | .function _ => Operator.callOne i with_ captured
    | value =>
      let pattern := (Operator.textOf? value).getD []
      Action.pure (.text (← expand whole captured (pattern.length + 1) pattern))
  match result with
  | .nil => return whole
  | .boolean false => return whole
  | value =>
    match Operator.textOf? value with
    | some text => return text
    | none => callerFault ("invalid replacement value (a " ++ value.typeName ++ ")")

structure Replacing where
  place : Nat
  count : Nat
  last : Option Nat
  /-- The pieces of the result so far, the last one first. -/
  pieces : List Bytes

def gsub : Builtin := fun i _ arguments => do
  let text ← Argument.text arguments 1
  let pattern ← Argument.text arguments 2
  let with_ := Argument.value arguments 3
  match with_ with
  | .text _ | .integer _ | .float _ | .table _ | .function _ => Action.pure ()
  | _ => Argument.expected arguments 3 "string/function/table"
  let limit ← Argument.integerOr arguments 4 (text.length + 1 : Nat)
  let (anchored, item) := anchorOf pattern
  let input : Pattern.Input := ⟨text.toArray, pattern.toArray⟩
  let finish := fun (state : Replacing) =>
    let rest := (input.text.extract state.place input.text.size).toList
    [Value.text (rest :: state.pieces).reverse.flatten, .integer (Int64.ofNat state.count)]
  iterate (fun (state : Replacing) => do
    if state.count ≥ limit then return .inr (finish state)
    let skip : Replacing → Sum Replacing (List Value) := fun state =>
      match input.text[state.place]? with
      | some byte =>
        let next := { state with place := state.place + 1, pieces := [byte] :: state.pieces }
        if anchored then .inr (finish next) else .inl next
      | none => .inr (finish state)
    match Pattern.matchAt input state.place item with
    | .fault message => callerFault message
    | .failed => return skip state
    | .matched ending captures =>
      if state.last = some ending then return skip state
      let piece ← replacement i with_ input.text state.place ending captures
      let next : Replacing := ⟨ending, state.count + 1, some ending, piece :: state.pieces⟩
      if anchored then return .inr (finish next) else return .inl next)
    endless ⟨0, 0, none, []⟩

def unavailable (name : String) : Builtin := fun _ _ _ =>
  callerFault ("unable to " ++ name)

def functions : Functions :=
  [("byte", byte), ("char", char), ("dump", unavailable "dump given function"), ("find", find),
   ("format", Format.format), ("gmatch", gmatch), ("gsub", gsub), ("len", len),
   ("lower", lower), ("match", matchOnce), ("pack", unavailable "pack"),
   ("packsize", unavailable "pack"), ("rep", rep), ("reverse", reverse), ("sub", sub),
   ("unpack", unavailable "unpack"), ("upper", upper)]

end TemplateBuild.Lua.Library.Texts

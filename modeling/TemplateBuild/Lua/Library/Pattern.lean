import TemplateBuild.Lua.Numeral

/-!
# Patterns

Patterns are tried at a place of a text with backtracking.  Each recursive step goes on in
the pattern or in the text, so that the sum of their lengths bounds the depth.
-/

set_option autoImplicit false

namespace TemplateBuild.Lua.Pattern

/-- A capture that is still open, one that only marks a place, or a piece of the text. -/
inductive Capture where
  | unfinished (start : Nat)
  | place (start : Nat)
  | piece (start length : Nat)

/-- In the order in which they open. -/
abbrev Captures := List Capture

inductive Result where
  | failed
  | matched (ending : Nat) (captures : Captures)
  | fault (message : String)

structure Input where
  text : Array UInt8
  pattern : Array UInt8

def percent : UInt8 := 0x25

def isLetter (byte : UInt8) : Bool :=
  (0x41 ≤ byte && byte ≤ 0x5A) || (0x61 ≤ byte && byte ≤ 0x7A)

def isLower (byte : UInt8) : Bool :=
  0x61 ≤ byte && byte ≤ 0x7A

def isUpper (byte : UInt8) : Bool :=
  0x41 ≤ byte && byte ≤ 0x5A

def isVisible (byte : UInt8) : Bool :=
  0x21 ≤ byte && byte ≤ 0x7E

def isControl (byte : UInt8) : Bool :=
  byte < 0x20 || byte = 0x7F

def isAlphanumeric (byte : UInt8) : Bool :=
  isLetter byte || Numeral.isDigit byte

def lowered (byte : UInt8) : UInt8 :=
  if isUpper byte then byte + 0x20 else byte

/-- Whether a byte is in the class that a letter names; a capital letter names the rest. -/
def inClass (byte letter : UInt8) : Bool :=
  let within : Option Bool :=
    if lowered letter = 0x61 then some (isLetter byte)
    else if lowered letter = 0x63 then some (isControl byte)
    else if lowered letter = 0x64 then some (Numeral.isDigit byte)
    else if lowered letter = 0x67 then some (isVisible byte)
    else if lowered letter = 0x6C then some (isLower byte)
    else if lowered letter = 0x70 then some (isVisible byte && !isAlphanumeric byte)
    else if lowered letter = 0x73 then some (Numeral.isSpace byte)
    else if lowered letter = 0x75 then some (isUpper byte)
    else if lowered letter = 0x77 then some (isAlphanumeric byte)
    else if lowered letter = 0x78 then some (Numeral.isHexDigit byte)
    else none
  match within with
  | some answer => if isUpper letter then !answer else answer
  | none => letter = byte

/-- The end of a set, searched from behind its opening and its first member. -/
def setEnd (pattern : Array UInt8) : Nat → Nat → Except String Nat
  | 0, _ => .error "malformed pattern (missing ']')"
  | fuel + 1, place =>
    match pattern[place]? with
    | none => .error "malformed pattern (missing ']')"
    | some byte =>
      if byte = percent then setEnd pattern fuel (place + 2)
      else if byte = 0x5D then .ok (place + 1)
      else setEnd pattern fuel (place + 1)

/-- Where the single-byte item that begins at a place ends. -/
def itemEnd (pattern : Array UInt8) (place : Nat) : Except String Nat :=
  match pattern[place]? with
  | none => .ok place
  | some byte =>
    if byte = percent then
      if place + 1 < pattern.size then .ok (place + 2)
      else .error "malformed pattern (ends with '%')"
    else if byte = 0x5B then
      let inner := if pattern[place + 1]? = some 0x5E then place + 2 else place + 1
      let behind := if pattern[inner]? = some percent then inner + 2 else inner + 1
      setEnd pattern (pattern.size + 1) behind
    else .ok (place + 1)

/-- Whether a byte is among the members between two places of a set. -/
def inMembers (pattern : Array UInt8) (byte : UInt8) (ending : Nat) : Nat → Nat → Bool
  | 0, _ => false
  | fuel + 1, place =>
    if place ≥ ending then false
    else
      match pattern[place]? with
      | none => false
      | some member =>
        if member = percent then
          inClass byte (pattern[place + 1]?.getD 0) || inMembers pattern byte ending fuel (place + 2)
        else if pattern[place + 1]? = some 0x2D ∧ place + 2 < ending then
          (member ≤ byte && byte ≤ pattern[place + 2]?.getD 0) ||
            inMembers pattern byte ending fuel (place + 3)
        else member = byte || inMembers pattern byte ending fuel (place + 1)

/-- Whether a byte matches the item between two places. -/
def matchesItem (pattern : Array UInt8) (byte : UInt8) (place ending : Nat) : Bool :=
  match pattern[place]? with
  | none => false
  | some item =>
    if item = 0x2E then true
    else if item = percent then inClass byte (pattern[place + 1]?.getD 0)
    else if item = 0x5B then
      let negated := pattern[place + 1]? = some 0x5E
      let start := if negated then place + 2 else place + 1
      let found := inMembers pattern byte (ending - 1) (pattern.size + 1) start
      if negated then !found else found
    else item = byte

def matchesAt (input : Input) (place : Nat) (item ending : Nat) : Bool :=
  match input.text[place]? with
  | some byte => matchesItem input.pattern byte item ending
  | none => false

/-- How often an item matches in a row. -/
def countMatches (input : Input) (item ending : Nat) : Nat → Nat → Nat
  | 0, _ => 0
  | fuel + 1, place =>
    if matchesAt input place item ending then countMatches input item ending fuel (place + 1) + 1
    else 0

/-- The end of a balanced stretch, searched with the depth of what is open. -/
def balancedEnd (text : Array UInt8) (opening closing : UInt8) : Nat → Nat → Nat → Option Nat
  | 0, _, _ => none
  | fuel + 1, place, depth =>
    match text[place]? with
    | none => none
    | some byte =>
      if byte = closing then
        if depth = 1 then some (place + 1) else balancedEnd text opening closing fuel (place + 1) (depth - 1)
      else if byte = opening then balancedEnd text opening closing fuel (place + 1) (depth + 1)
      else balancedEnd text opening closing fuel (place + 1) depth

/-- Closes the last capture that is open. -/
def closeCapture (captures : Captures) (place : Nat) : Option Captures :=
  let rec close : Captures → Option Captures
    | [] => none
    | .unfinished start :: rest => some (.piece start (place - start) :: rest)
    | capture :: rest => (close rest).map (capture :: ·)
  (close captures.reverse).map List.reverse

def capturedBytes (text : Array UInt8) (start length : Nat) : Array UInt8 :=
  text.extract start (start + length)

def isFrontier (input : Input) (place item ending : Nat) : Bool :=
  let before := if place = 0 then 0 else input.text[place - 1]?.getD 0
  let behind := input.text[place]?.getD 0
  !matchesItem input.pattern before item ending && matchesItem input.pattern behind item ending

/-- Tries smaller and smaller counts of an item. -/
def tryDown (attempt : Nat → Result) : Nat → Result
  | 0 => attempt 0
  | count + 1 =>
    match attempt (count + 1) with
    | .failed => tryDown attempt count
    | result => result

/-- Tries larger and larger counts of an item, as far as it matches. -/
def tryUp (attempt : Nat → Result) (more : Nat → Bool) : Nat → Nat → Result
  | 0, count => attempt count
  | fuel + 1, count =>
    match attempt count with
    | .failed => if more count then tryUp attempt more fuel (count + 1) else .failed
    | result => result

/-- Matches the pattern from one place on with the text from another place on. -/
def matchFrom (input : Input) : Nat → Nat → Nat → Captures → Result
  | 0, _, _, _ => .fault "pattern too complex"
  | depth + 1, place, item, captures =>
    let pattern := input.pattern
    match pattern[item]? with
    | none => .matched place captures
    | some byte =>
      if byte = 0x28 then
        if pattern[item + 1]? = some 0x29 then
          matchFrom input depth place (item + 2) (captures ++ [.place place])
        else matchFrom input depth place (item + 1) (captures ++ [.unfinished place])
      else if byte = 0x29 then
        match closeCapture captures place with
        | some captures => matchFrom input depth place (item + 1) captures
        | none => .fault "invalid pattern capture"
      else if byte = 0x24 ∧ item + 1 = pattern.size then
        if place = input.text.size then .matched place captures else .failed
      else if byte = percent ∧ pattern[item + 1]? = some 0x62 then
        match pattern[item + 2]?, pattern[item + 3]? with
        | some opening, some closing =>
          if input.text[place]? = some opening then
            match balancedEnd input.text opening closing (input.text.size + 1) (place + 1) 1 with
            | some place => matchFrom input depth place (item + 4) captures
            | none => .failed
          else .failed
        | _, _ => .fault "malformed pattern (missing arguments to '%b')"
      else if byte = percent ∧ pattern[item + 1]? = some 0x66 then
        if pattern[item + 2]? = some 0x5B then
          match itemEnd pattern (item + 2) with
          | .error message => .fault message
          | .ok ending =>
            if isFrontier input place (item + 2) ending then
              matchFrom input depth place ending captures
            else .failed
        else .fault "missing '[' after '%f' in pattern"
      else if byte = percent ∧ (pattern[item + 1]?.any Numeral.isDigit) then
        let number := (pattern[item + 1]?.getD 0).toNat - 0x30
        match (if number = 0 then none else captures[number - 1]?) with
        | some (.piece start length) =>
          if capturedBytes input.text start length = capturedBytes input.text place length ∧
              place + length ≤ input.text.size then
            matchFrom input depth (place + length) (item + 2) captures
          else .failed
        | _ => .fault ("invalid capture index %" ++ toString number)
      else
        match itemEnd pattern item with
        | .error message => .fault message
        | .ok ending =>
          let follow := pattern[ending]?
          if follow = some 0x3F then
            let skipped := fun (_ : Unit) => matchFrom input depth place (ending + 1) captures
            if matchesAt input place item ending then
              match matchFrom input depth (place + 1) (ending + 1) captures with
              | .failed => skipped ()
              | result => result
            else skipped ()
          else if follow = some 0x2A ∨ follow = some 0x2B then
            let count := countMatches input item ending (input.text.size + 1) place
            if follow = some 0x2B then
              if count = 0 then .failed
              else
                tryDown (fun more =>
                  matchFrom input depth (place + 1 + more) (ending + 1) captures) (count - 1)
            else
              tryDown (fun more => matchFrom input depth (place + more) (ending + 1) captures)
                count
          else if follow = some 0x2D then
            tryUp (fun more => matchFrom input depth (place + more) (ending + 1) captures)
              (fun more => matchesAt input (place + more) item ending) (input.text.size + 1) 0
          else if matchesAt input place item ending then
            matchFrom input depth (place + 1) ending captures
          else .failed

def depthFor (input : Input) : Nat :=
  2 * (input.text.size + input.pattern.size) + 16

def matchAt (input : Input) (place item : Nat) : Result :=
  matchFrom input (depthFor input) place item []

/-- The first match from a place on, with where it begins. -/
def search (input : Input) (item : Nat) (anchored : Bool) : Nat → Nat → Option Nat × Result
  | 0, _ => (none, .failed)
  | fuel + 1, place =>
    match matchAt input place item with
    | .failed =>
      if anchored || place ≥ input.text.size then (none, .failed)
      else search input item anchored fuel (place + 1)
    | result => (some place, result)

end TemplateBuild.Lua.Pattern

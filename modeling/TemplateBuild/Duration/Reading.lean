import TemplateBuild.Duration
import TemplateBuild.Text.Blank

/-!
# Reading durations

A duration is written as amounts with units, such as `1m 30s`.  An amount may have a fraction
if what it stands for is a whole number of nanoseconds, or of seconds from an hour up.  Blanks
may stand anywhere but inside a unit, and a lone zero needs none.
-/

set_option autoImplicit false

namespace TemplateBuild

inductive DurationFault where
  /-- Offsets count bytes. -/
  | unexpectedCharacter (offset : Nat)
  | numberExpected (offset : Nat)
  /-- A unit that is not known, or missing, and the amount before it. -/
  | unknownUnit (unit : String) (amount : Nat)
  /-- Too large, or not a whole number of what can be held. -/
  | notRepresentable
  | empty
deriving DecidableEq, Repr

def DurationFault.message : DurationFault → String
  | .unexpectedCharacter offset => "invalid character at " ++ toString offset
  | .numberExpected offset => "expected number at " ++ toString offset
  | .unknownUnit unit amount =>
    if unit = "" then
      "time unit needed, for example " ++ toString amount ++ "sec or " ++ toString amount ++ "ms"
    else
      "unknown time unit \"" ++ unit ++ "\", supported units: ns, us/µs, ms, sec, min, hours, " ++
        "days, weeks, months, years (and few variations)"
  | .notRepresentable =>
    "number is too large or cannot be represented without a lack of precision " ++
      "(values below 1ns are not supported)"
  | .empty => "value was empty"

inductive TimeUnit where
  | nanosecond
  | microsecond
  | millisecond
  | second
  | minute
  | hour
  | day
  | week
  | month
  | year
deriving DecidableEq, Repr

namespace TimeUnit

def names : TimeUnit → List String
  | .nanosecond => ["nanos", "nsec", "ns"]
  | .microsecond => ["usec", "us", "µs"]
  | .millisecond => ["millis", "msec", "ms"]
  | .second => ["seconds", "second", "secs", "sec", "s"]
  | .minute => ["minutes", "minute", "min", "mins", "m"]
  | .hour => ["hours", "hour", "hr", "hrs", "h"]
  | .day => ["days", "day", "d"]
  | .week => ["weeks", "week", "wk", "wks", "w"]
  | .month => ["months", "month", "M"]
  | .year => ["years", "year", "yr", "yrs", "y"]

def all : List TimeUnit :=
  [.nanosecond, .microsecond, .millisecond, .second, .minute, .hour, .day, .week, .month, .year]

def ofName? (name : String) : Option TimeUnit :=
  all.find? fun unit => unit.names.contains name

/-- The length of a unit that is counted in nanoseconds, or else in seconds. -/
inductive Length where
  | nanos (count : Nat)
  | seconds (count : Nat)

/-- Months have 30.44 days and years 365.25. -/
def length : TimeUnit → Length
  | .nanosecond => .nanos 1
  | .microsecond => .nanos 1000
  | .millisecond => .nanos 1000000
  | .second => .seconds 1
  | .minute => .seconds 60
  | .hour => .seconds 3600
  | .day => .seconds 86400
  | .week => .seconds 604800
  | .month => .seconds 2630016
  | .year => .seconds 31557600

/-- The length that fractions are taken of: whole nanoseconds up to minutes.  A nanosecond
has no fractions. -/
def fractionLength : TimeUnit → Option Length
  | .nanosecond => none
  | .second => some (.nanos 1000000000)
  | .minute => some (.nanos 60000000000)
  | unit => some unit.length

end TimeUnit

namespace Duration

/-- Numbers stay below this one. -/
def wordLimit : Nat := UInt64.size

def inWord (value : Nat) : Except DurationFault Nat :=
  if value < wordLimit then .ok value else .error .notRepresentable

/-- A fraction as the digits behind the point and their power of ten. -/
structure DecimalFraction where
  digits : Nat
  scale : Nat

/-- So many units of a length, divided by a scale that has to go into them. -/
def portion (count scale : Nat) : TimeUnit.Length → Except DurationFault Duration
  | .nanos length => do
    let nanos ← inWord (count * length)
    if nanos % scale = 0 then return ⟨0, nanos / scale⟩ else throw .notRepresentable
  | .seconds length => do
    let seconds ← inWord (count * length)
    if seconds % scale = 0 then return ⟨seconds / scale, 0⟩ else throw .notRepresentable

/-- The sum, with less than a second of nanoseconds. -/
def add (total part : Duration) : Except DurationFault Duration := do
  let nanos ← inWord (total.nanos + part.nanos)
  let carried := part.seconds + nanos / 1000000000
  let seconds ← inWord (total.seconds + carried)
  return ⟨seconds, nanos % 1000000000⟩

/-- Adds an amount of a unit. -/
def addAmount (total : Duration) (whole : Nat) (fraction : Option DecimalFraction)
    (unit : String) : Except DurationFault Duration := do
  match TimeUnit.ofName? unit with
  | none => throw (.unknownUnit unit whole)
  | some unit =>
    let total ← add total (← portion whole 1 unit.length)
    match fraction with
    | none => return total
    | some fraction =>
      match unit.fractionLength with
      | none => throw .notRepresentable
      | some length => add total (← portion fraction.digits fraction.scale length)

/-! ## The written form -/

def isUnitLetter (character : Char) : Bool :=
  character.isAlpha || character == 'µ'

def digitValue (digit : Char) : Nat :=
  digit.toNat - '0'.toNat

/-- What the next character belongs to. -/
inductive Position where
  /-- Before a number; the offset is where the search for it began. -/
  | start (offset : Nat)
  | whole (value : Nat)
  /-- Behind the point; faults are placed at the point, or after the last character taken. -/
  | fraction (whole : Nat) (fraction : DecimalFraction) (reached : Nat)
  | unit (whole : Nat) (fraction : Option DecimalFraction) (letters : List Char)

/-- A point needs a digit behind it. -/
def finishedFraction (fraction : DecimalFraction) (offset : Nat) :
    Except DurationFault DecimalFraction :=
  if fraction.scale = 1 then .error (.unexpectedCharacter offset) else .ok fraction

/-- Takes a character; the offset is where it begins. -/
def advance (position : Position) (total : Duration) (character : Char) (offset : Nat) :
    Except DurationFault (Position × Duration) :=
  match position with
  | .start searched =>
    if character.isDigit then .ok (.whole (digitValue character), total)
    else if Text.isBlank character then .ok (.start searched, total)
    else .error (.numberExpected searched)
  | .whole value =>
    if character.isDigit then do
      return (.whole (← inWord (value * 10 + digitValue character)), total)
    else if Text.isBlank character then .ok (.whole value, total)
    else if isUnitLetter character then .ok (.unit value none [character], total)
    else if character = '.' then .ok (.fraction value ⟨0, 1⟩ offset, total)
    else .error (.unexpectedCharacter offset)
  | .fraction value fraction reached =>
    let next := offset + character.utf8Size
    if character.isDigit then do
      let scale ← inWord (fraction.scale * 10)
      return (.fraction value ⟨fraction.digits * 10 + digitValue character, scale⟩ next, total)
    else if Text.isBlank character then .ok (.fraction value fraction next, total)
    else if isUnitLetter character then do
      return (.unit value (some (← finishedFraction fraction reached)) [character], total)
    else .error (.unexpectedCharacter reached)
  | .unit value fraction letters =>
    if isUnitLetter character then .ok (.unit value fraction (letters ++ [character]), total)
    else if character.isDigit then do
      let total ← addAmount total value fraction (String.ofList letters)
      return (.whole (digitValue character), total)
    else if Text.isBlank character then do
      let total ← addAmount total value fraction (String.ofList letters)
      return (.start (offset + character.utf8Size), total)
    else .error (.unexpectedCharacter offset)

/-- What the end of the text means; `begun` tells whether a number came before. -/
def finish (position : Position) (total : Duration) (begun : Bool) :
    Except DurationFault Duration :=
  match position with
  | .start _ => if begun then .ok total else .error .empty
  | .whole value => addAmount total value none ""
  | .fraction value fraction reached => do
    addAmount total value (some (← finishedFraction fraction reached)) ""
  | .unit value fraction letters => addAmount total value fraction (String.ofList letters)

def isStart : Position → Bool
  | .start _ => true
  | _ => false

def readFrom (position : Position) (total : Duration) (begun : Bool) (offset : Nat) :
    List Char → Except DurationFault Duration
  | [] => finish position total begun
  | character :: rest => do
    let (position, total) ← advance position total character offset
    readFrom position total (begun || !isStart position) (offset + character.utf8Size) rest

/-- The duration that a text stands for. -/
def read (text : String) : Except DurationFault Duration :=
  if text = "0" then .ok ⟨0, 0⟩ else readFrom (.start 0) ⟨0, 0⟩ false 0 text.toList

end Duration

end TemplateBuild

/-!
# Durations

Whole seconds and nanoseconds below one second, and the short form in which the command line
reports how long it took.
-/

set_option autoImplicit false

namespace TemplateBuild

structure Duration where
  seconds : Nat
  nanos : Nat
deriving DecidableEq, Repr

namespace Duration

def ofSeconds (seconds : Nat) : Duration :=
  ⟨seconds, 0⟩

/-- A whole number of nanoseconds. -/
def ofNanos (nanos : Nat) : Duration :=
  ⟨nanos / 1000000000, nanos % 1000000000⟩

def isZero (duration : Duration) : Bool :=
  duration.seconds == 0 && duration.nanos == 0

def twoDigits (value : Nat) : String :=
  if value < 10 then "0" ++ toString value else toString value

/-- Minutes and seconds from a minute up, hundredths from a second up, milliseconds below.
What is left over is cut off. -/
def brief (duration : Duration) : String :=
  let millis := duration.nanos / 1000000
  if duration.seconds ≥ 60 then
    toString (duration.seconds / 60) ++ "m " ++ toString (duration.seconds % 60) ++ "s"
  else if duration.seconds > 0 then
    toString duration.seconds ++ "." ++ twoDigits (millis / 10) ++ "s"
  else toString millis ++ "ms"

end Duration

end TemplateBuild

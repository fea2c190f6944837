import ServerProbe.Number.Notation

/-! Lengths of time in whole nanoseconds. -/

set_option autoImplicit false

namespace ServerProbe

structure Duration where
  nanoseconds : Nat
  deriving DecidableEq

namespace Duration

def zero : Duration := ⟨0⟩

def perSecond : Nat := 1000000000

def ofSeconds (seconds : Nat) : Duration := ⟨seconds * perSecond⟩

def ofMilliseconds (milliseconds : Nat) : Duration := ⟨milliseconds * 1000000⟩

def wholeSeconds (duration : Duration) : Nat := duration.nanoseconds / perSecond

def subsecond (duration : Duration) : Nat := duration.nanoseconds % perSecond

def wholeMilliseconds (duration : Duration) : Nat := duration.nanoseconds / 1000000

def longer (left right : Duration) : Duration :=
  ⟨max left.nanoseconds right.nanoseconds⟩

/-- A duration is representable when its seconds fit in a 64-bit word. -/
def fits (duration : Duration) : Bool :=
  duration.wholeSeconds < Text.wordLimit

/-- The length in seconds: the whole seconds and the fraction are rounded, then their sum. -/
def toSeconds (duration : Duration) : Binary64 :=
  (Binary64.ofNat duration.wholeSeconds).addMagnitudes
    ((Binary64.ofNat duration.subsecond).divideMagnitudes (Binary64.ofNat perSecond))

-- The nearest nanosecond to a number of seconds, a half to the even neighbour. There is none for
-- what is no number, for negative numbers and from `2 ^ 64` seconds on; minus zero is zero.
def ofSeconds? (seconds : Binary64) : Option Duration :=
  match seconds.shape with
  | .nan => none
  | .infinite _ => none
  | .finite negative mantissa exponent =>
    let (numerator, denominator) := Binary64.scaled mantissa 1 exponent
    if negative ∧ mantissa ≠ 0 then none
    else if Text.wordLimit * denominator ≤ numerator then none
    else
      let duration : Duration := ⟨Binary64.divideToEven (numerator * perSecond) denominator⟩
      if duration.fits then some duration else none

def sum? (durations : List Duration) : Option Duration :=
  let total : Duration := ⟨durations.foldl (fun total duration => total + duration.nanoseconds) 0⟩
  if total.fits then some total else none

/-- A count of `unit`s with the digits of its fraction, of which `places` are known. -/
def inUnit (count fraction places : Nat) (unit : String) : String :=
  let digits := (Text.padded places fraction).toList.reverse.dropWhile (· == '0')
  let tail := if digits.isEmpty then "" else "." ++ String.ofList digits.reverse
  toString count ++ tail ++ unit

/-- The length in the largest unit of which it holds one, with all digits of its fraction. -/
def describe (duration : Duration) : String :=
  let nanos := duration.nanoseconds
  if 1000000000 ≤ nanos then inUnit (nanos / 1000000000) (nanos % 1000000000) 9 "s"
  else if 1000000 ≤ nanos then inUnit (nanos / 1000000) (nanos % 1000000) 6 "ms"
  else if 1000 ≤ nanos then inUnit (nanos / 1000) (nanos % 1000) 3 "µs"
  else inUnit nanos 0 0 "ns"

end Duration

end ServerProbe

import ServerProbe.Number.Binary64

/-! The shortest decimal that reads back as a given binary number.

The reals that round to a number form an interval around it, whose ends belong
to it when the mantissa is even. For one digit, two digits and so on, the two
decimals next to the number are tried; the first count of digits with a decimal
in the interval wins, and of two such decimals the nearer.
-/

set_option autoImplicit false

namespace ServerProbe

/-- The value `digits * 10 ^ exponent`. -/
structure Decimal where
  digits : Nat
  exponent : Int
  deriving DecidableEq

namespace Decimal

/-- The same value with up to `count` zeros moved from the digits to the exponent. -/
def dropZeros : Nat → Decimal → Decimal
  | 0, value => value
  | count + 1, value =>
    if value.digits % 10 = 0 ∧ value.digits ≠ 0 then
      dropZeros count ⟨value.digits / 10, value.exponent + 1⟩
    else value

/-- The power of ten that a quotient is below, while it is not below the one before. -/
def pointOf (numerator denominator : Nat) : Int :=
  let estimate : Int := ((toString numerator).length : Int) - (toString denominator).length
  let power := Nat.pow 10 estimate.natAbs
  let reaches :=
    if estimate < 0 then denominator ≤ numerator * power else denominator * power ≤ numerator
  if reaches then estimate + 1 else estimate

def powerOfTen (exponent : Int) : Nat × Nat :=
  if exponent < 0 then (1, Nat.pow 10 exponent.natAbs) else (Nat.pow 10 exponent.natAbs, 1)

/-- The interval of reals that round to one number, measured in units of `unit`. -/
structure Interval where
  low : Nat
  center : Nat
  high : Nat
  closed : Bool
  unit : Nat × Nat

/-- The interval of the number `mantissa * 2 ^ exponent`, in quarters of its last place. -/
def Interval.ofNumber (mantissa : Nat) (exponent : Int) : Interval where
  low :=
    if mantissa = Binary64.leadingWeight ∧ -1074 < exponent then 4 * mantissa - 1
    else 4 * mantissa - 2
  center := 4 * mantissa
  high := 4 * mantissa + 2
  closed := mantissa % 2 = 0
  unit := Binary64.scaled 1 1 (exponent - 2)

def Interval.holds (interval : Interval) (digits : Nat) (grid : Nat × Nat) : Bool :=
  let value := digits * grid.1 * interval.unit.2
  let low := interval.low * interval.unit.1 * grid.2
  let high := interval.high * interval.unit.1 * grid.2
  if interval.closed then low ≤ value && value ≤ high else low < value && value < high

/-- The decimal next to the center on the grid of a power of ten, if one is in the interval. -/
def Interval.nearest? (interval : Interval) (exponent : Int) : Option Decimal :=
  let grid := powerOfTen exponent
  let center := interval.center * interval.unit.1 * grid.2
  let step := grid.1 * interval.unit.2
  let below := center / step
  let above := below + 1
  match interval.holds below grid, interval.holds above grid with
  | true, true => if center - below * step ≤ above * step - center then some ⟨below, exponent⟩
    else some ⟨above, exponent⟩
  | true, false => some ⟨below, exponent⟩
  | false, true => some ⟨above, exponent⟩
  | false, false => none

def Interval.search (interval : Interval) : Nat → Int → Option Decimal
  | 0, _ => none
  | count + 1, exponent =>
    match interval.nearest? exponent with
    | some value => some value
    | none => interval.search count (exponent - 1)

/-- The shortest decimal for `mantissa * 2 ^ exponent`; seventeen digits always suffice. -/
def shortest (mantissa : Nat) (exponent : Int) : Decimal :=
  if mantissa = 0 then ⟨0, 0⟩
  else
    let (numerator, denominator) := Binary64.scaled mantissa 1 exponent
    let interval := Interval.ofNumber mantissa exponent
    let found := interval.search 17 (pointOf numerator denominator - 1)
    dropZeros 18 (found.getD ⟨0, 0⟩)

end Decimal

end ServerProbe

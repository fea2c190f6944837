/-! Binary floating point numbers of 64 bits, worked on exactly.

A word has a sign bit, eleven exponent bits and fifty-two fraction bits. Its
finite values are whole multiples of powers of two, so rounding and comparing
are done on whole numbers and no machine arithmetic is involved.
-/

set_option autoImplicit false

namespace ServerProbe

/-- A floating point number, given by its word. -/
structure Binary64 where
  bits : UInt64
  deriving DecidableEq

namespace Binary64

inductive Shape where
  | nan
  | infinite (negative : Bool)
  /-- The value `mantissa * 2 ^ exponent` with a sign, which zero has too. -/
  | finite (negative : Bool) (mantissa : Nat) (exponent : Int)
  deriving DecidableEq

def signWeight : Nat := 0x8000000000000000

/-- The weight of the lowest exponent bit, which is also the leading bit of a normal mantissa. -/
def leadingWeight : Nat := 0x10000000000000

def isNegative (x : Binary64) : Bool :=
  signWeight ≤ x.bits.toNat

def exponentField (x : Binary64) : Nat :=
  x.bits.toNat / leadingWeight % 2048

def fraction (x : Binary64) : Nat :=
  x.bits.toNat % leadingWeight

def shape (x : Binary64) : Shape :=
  if x.exponentField = 2047 then
    if x.fraction = 0 then .infinite x.isNegative else .nan
  else if x.exponentField = 0 then .finite x.isNegative x.fraction (-1074)
  else .finite x.isNegative (leadingWeight + x.fraction) ((x.exponentField : Int) - 1075)

def isNaN (x : Binary64) : Bool :=
  x.exponentField == 2047 && x.fraction != 0

def isFinite (x : Binary64) : Bool :=
  x.exponentField != 2047

/-- Puts a word together; `magnitude` is the word without its sign. -/
def ofMagnitude (negative : Bool) (magnitude : Nat) : Binary64 :=
  ⟨UInt64.ofNat (magnitude + if negative then signWeight else 0)⟩

def infinity (negative : Bool) : Binary64 :=
  ofMagnitude negative (2047 * leadingWeight)

def nan : Binary64 :=
  ofMagnitude false (2047 * leadingWeight + leadingWeight / 2)

def zero : Binary64 := ⟨0⟩

/-- The quotient rounded to a whole number, a half to the even neighbour. -/
def divideToEven (numerator denominator : Nat) : Nat :=
  let quotient := numerator / denominator
  let twice := 2 * (numerator % denominator)
  if twice > denominator ∨ (twice = denominator ∧ quotient % 2 = 1) then quotient + 1 else quotient

def scaled (numerator denominator : Nat) (exponent : Int) : Nat × Nat :=
  if exponent < 0 then (numerator, denominator * Nat.pow 2 exponent.natAbs)
  else (numerator * Nat.pow 2 exponent.natAbs, denominator)

/-- The word without sign whose value is nearest to a quotient of positive numbers.

The exponent is chosen so that the rounded mantissa has 53 bits, or the fewest
that the smallest exponent allows. A mantissa that rounds up to 54 bits carries
into the exponent field by itself. -/
def nearestMagnitude (numerator denominator : Nat) : Nat :=
  let guess : Int := (Nat.log2 numerator : Int) - Nat.log2 denominator - 52
  let (top, bottom) := scaled numerator denominator (-guess)
  let exponent := max (if top < leadingWeight * bottom then guess - 1 else guess) (-1074)
  let (top, bottom) := scaled numerator denominator (-exponent)
  let mantissa := divideToEven top bottom
  let field := (exponent + 1074).toNat
  min (field * leadingWeight + mantissa) (2047 * leadingWeight)

/-- The number nearest to a quotient; a tie goes to the even mantissa. -/
def ofRatio (negative : Bool) (numerator denominator : Nat) : Binary64 :=
  if numerator = 0 then ofMagnitude negative 0
  else ofMagnitude negative (nearestMagnitude numerator denominator)

def ofNat (value : Nat) : Binary64 :=
  ofRatio false value 1

def ofInt (value : Int) : Binary64 :=
  ofRatio (value < 0) value.natAbs 1

-- The number nearest to `digits * 10 ^ exponent`. Exponents far outside the range of the numbers
-- give zero or infinity without computing the power.
def ofDecimal (negative : Bool) (digits : Nat) (exponent : Int) : Binary64 :=
  let length : Int := (toString digits).length
  if digits = 0 then ofMagnitude negative 0
  else if 310 < length + exponent then infinity negative
  else if length + exponent < -330 then ofMagnitude negative 0
  else if exponent < 0 then ofRatio negative digits (Nat.pow 10 exponent.natAbs)
  else ofRatio negative (digits * Nat.pow 10 exponent.natAbs) 1

/-- The absolute value of a finite number as numerator and denominator; zero for the others. -/
def magnitudeRatio (x : Binary64) : Nat × Nat :=
  match x.shape with
  | .finite _ mantissa exponent => scaled mantissa 1 exponent
  | _ => (0, 1)

def addMagnitudes (x y : Binary64) : Binary64 :=
  let (top, bottom) := x.magnitudeRatio
  let (otherTop, otherBottom) := y.magnitudeRatio
  ofRatio false (top * otherBottom + otherTop * bottom) (bottom * otherBottom)

/-- The quotient of two numbers that are finite and not negative, the second not zero. -/
def divideMagnitudes (x y : Binary64) : Binary64 :=
  let (top, bottom) := x.magnitudeRatio
  let (otherTop, otherBottom) := y.magnitudeRatio
  ofRatio false (top * otherBottom) (bottom * otherTop)

/-- The place of a number in the order; both zeros have the same place. -/
def place (x : Binary64) : Int :=
  let magnitude : Int := x.bits.toNat % signWeight
  if x.isNegative then -magnitude else magnitude

-- The order of numbers. No number is below or above one that is not a number.
def le (x y : Binary64) : Bool :=
  !x.isNaN && !y.isNaN && x.place ≤ y.place

end Binary64

end ServerProbe

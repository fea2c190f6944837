import ServerProbe.Number.Shortest
import ServerProbe.Text.Numeral

/-! How numbers with a fraction are written and read.

`positional` never uses an exponent and drops a fraction of zero. `inJson` keeps
a fraction of at least one digit and uses an exponent for very small and very
large values. `fixedSix` has six places. `Binary64.ofText?` reads all of these
and more.
-/

set_option autoImplicit false

namespace ServerProbe

def signText (negative : Bool) : String :=
  if negative then "-" else ""

def zeros (count : Nat) : String :=
  String.ofList (List.replicate count '0')

/-- A decimal without exponent; `whole` is put behind a value without a fraction. -/
def Decimal.positional (value : Decimal) (whole : String) : String :=
  let digits := toString value.digits
  let point : Int := digits.length + value.exponent
  if 0 ≤ value.exponent then digits ++ zeros value.exponent.toNat ++ whole
  else if 0 < point then
    String.ofList (digits.toList.take point.toNat) ++ "." ++
      String.ofList (digits.toList.drop point.toNat)
  else "0." ++ zeros point.natAbs ++ digits

def Decimal.scientific (value : Decimal) : String :=
  let digits := (toString value.digits).toList
  let exponent : Int := digits.length + value.exponent - 1
  let fraction := if digits.length ≤ 1 then "" else "." ++ String.ofList (digits.drop 1)
  String.ofList (digits.take 1) ++ fraction ++ "e" ++
    (if exponent < 0 then "-" else "+") ++ toString exponent.natAbs

namespace Binary64

/-- The shortest digits, never an exponent, no point in a whole number. -/
def positional (x : Binary64) : String :=
  match x.shape with
  | .nan => "NaN"
  | .infinite negative => signText negative ++ "inf"
  | .finite negative mantissa exponent =>
    signText negative ++ (Decimal.shortest mantissa exponent).positional ""

-- The shortest digits as a JSON number; there is none for infinities and for what is no number.
-- Values from `10 ^ -5` to below `10 ^ 16` have no exponent.
def inJson? (x : Binary64) : Option String :=
  match x.shape with
  | .nan => none
  | .infinite _ => none
  | .finite negative mantissa exponent =>
    let value := Decimal.shortest mantissa exponent
    let point : Int := (toString value.digits).length + value.exponent
    let text :=
      if mantissa = 0 ∨ (-5 < point ∧ point ≤ 16) then value.positional ".0" else value.scientific
    some (signText negative ++ text)

/-- The exact value rounded to six places, a half to the even neighbour. -/
def fixedSix (x : Binary64) : String :=
  match x.shape with
  | .nan => "NaN"
  | .infinite negative => signText negative ++ "inf"
  | .finite negative mantissa exponent =>
    let (numerator, denominator) := scaled mantissa 1 exponent
    let millionths := divideToEven (numerator * 1000000) denominator
    signText negative ++ toString (millionths / 1000000) ++ "." ++
      Text.padded 6 (millionths % 1000000)

def digitRun (text : List Char) : List Char × List Char :=
  (text.takeWhile Char.isDigit, text.dropWhile Char.isDigit)

def digitsValue (digits : List Char) : Nat :=
  digits.foldl (fun value c => value * 10 + (c.toNat - '0'.toNat)) 0

def ofParts (negative : Bool) (whole fraction : List Char) (power : Int) : Binary64 :=
  ofDecimal negative (digitsValue (whole ++ fraction)) (power - fraction.length)

def exponentOf? : List Char → Option Int
  | [] => some 0
  | mark :: rest =>
    if mark = 'e' ∨ mark = 'E' then
      let (negative, digits) :=
        match rest with
        | '-' :: digits => (true, digits)
        | '+' :: digits => (false, digits)
        | digits => (false, digits)
      (Text.natOfDigits? 10 digits).map fun value =>
        if negative then -(value : Int) else (value : Int)
    else none

def ofUnsignedText? (negative : Bool) (text : List Char) : Option Binary64 :=
  let name := String.ofList (text.map Char.toLower)
  if name = "inf" ∨ name = "infinity" then some (infinity negative)
  else if name = "nan" then some nan
  else
    let (whole, rest) := digitRun text
    let (fraction, rest) :=
      match rest with
      | '.' :: rest => digitRun rest
      | rest => ([], rest)
    if whole.isEmpty ∧ fraction.isEmpty then none
    else (exponentOf? rest).map (ofParts negative whole fraction)

-- Reads a number: `inf`, `infinity`, `nan` in any case, or digits with an optional point and
-- exponent, where one side of the point may be empty. A sign may stand in front.
def ofText? (text : List Char) : Option Binary64 :=
  match text with
  | '-' :: rest => ofUnsignedText? true rest
  | '+' :: rest => ofUnsignedText? false rest
  | _ => ofUnsignedText? false text

end Binary64

end ServerProbe

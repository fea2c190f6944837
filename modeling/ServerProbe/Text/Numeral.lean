import ServerProbe.Text.AsciiCase

/-! Whole numbers written in ASCII digits.

A numeral may have one sign and any number of leading zeros. It has at least
one digit, no blank and no separator, and its value must be in range.
-/

set_option autoImplicit false

namespace ServerProbe.Text

def natOfDigitsFrom? (base : Nat) (value : Nat) : List Char → Option Nat
  | [] => some value
  | c :: rest =>
    match digitValue? base c with
    | some digit => natOfDigitsFrom? base (value * base + digit) rest
    | none => none

/-- The value of a text that consists of digits, at least one. -/
def natOfDigits? (base : Nat) (text : List Char) : Option Nat :=
  if text.isEmpty then none else natOfDigitsFrom? base 0 text

-- An unsigned numeral below `limit`. A plus sign may stand in front, a minus sign may not.
def unsigned? (base limit : Nat) (text : List Char) : Option Nat :=
  let digits :=
    match text with
    | '+' :: rest => rest
    | _ => text
  (natOfDigits? base digits).filter (· < limit)

/-- A signed numeral between `-limit` and `limit - 1`. -/
def signed? (limit : Nat) (text : List Char) : Option Int :=
  match text with
  | '-' :: rest => ((natOfDigits? 10 rest).filter (· ≤ limit)).map fun value => -(value : Int)
  | _ => (unsigned? 10 limit text).map fun value => (value : Int)

/-- One more than the largest 64-bit word: the sizes and counts of this library stay below it. -/
def wordLimit : Nat := UInt64.size

def shortLimit : Nat := UInt16.size

def int32? (value : Int) : Option Int32 :=
  if -0x80000000 ≤ value ∧ value < 0x80000000 then some (Int32.ofInt value) else none

/-- Digits of a number with zeros in front up to `width`. -/
def padded (width value : Nat) : String :=
  let digits := toString value
  String.ofList (List.replicate (width - digits.length) '0') ++ digits

def hexNumeral (value : Nat) : String :=
  String.ofList (Nat.toDigits 16 value)

end ServerProbe.Text

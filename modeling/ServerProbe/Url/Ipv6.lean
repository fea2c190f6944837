import ServerProbe.Text.Numeral
import ServerProbe.Url.Ipv4

/-! IPv6 addresses: eight numbers of sixteen bits.

One run of zeros may be written `::`, and the last two numbers may be written
as an IPv4 address.
-/

set_option autoImplicit false

namespace ServerProbe.Url.Ipv6

-- Reads up to `count` hexadecimal digits. Returns the value, the number of digits and the rest.
def hexRun : Nat → Nat → Nat → List Char → Nat × Nat × List Char
  | 0, value, length, text => (value, length, text)
  | count + 1, value, length, text =>
    match text with
    | [] => (value, length, [])
    | c :: rest =>
      match Text.digitValue? 16 c with
      | some digit => hexRun count (16 * value + digit) (length + 1) rest
      | none => (value, length, c :: rest)

/-- One part of an IPv4 address in strict form: no leading zero, at most 255. -/
def strictPart? (digits : List Char) : Option Nat :=
  if 1 < digits.length ∧ digits.head? = some '0' then none
  else (Text.natOfDigits? 10 digits).filter (· < 256)

def embedded? (text : List Char) : Option (List Nat) :=
  match (Text.fields '.' text).mapM strictPart? with
  | some [a, b, c, d] => some [a * 256 + b, c * 256 + d]
  | _ => none

/-- The numbers read so far, latest first, and how many of them stand before the gap. -/
structure Progress where
  latest : List Nat
  gap : Option Nat

/-- Puts zeros into the gap, or checks that eight numbers are there. -/
def Progress.complete? (progress : Progress) : Option (List Nat) :=
  let numbers := progress.latest.reverse
  match progress.gap with
  | some before =>
    if 8 ≤ numbers.length then none
    else some (numbers.take before ++ List.replicate (8 - numbers.length) 0 ++ numbers.drop before)
  | none => if numbers.length = 8 then some numbers else none

-- Reads the numbers. Each round takes at least one of the characters, at most `fuel` in all.
def readNumbers : Nat → Progress → List Char → Option (List Nat)
  | 0, progress, text => if text.isEmpty then progress.complete? else none
  | fuel + 1, progress, text =>
    match text with
    | [] => progress.complete?
    | ':' :: rest =>
      if progress.gap.isSome ∨ 8 ≤ progress.latest.length then none
      else readNumbers fuel ⟨progress.latest, some progress.latest.length⟩ rest
    | c :: rest =>
      let (value, length, after) := hexRun 4 0 0 (c :: rest)
      match after with
      | '.' :: _ =>
        if length = 0 ∨ 6 < progress.latest.length then none
        else
          (embedded? (c :: rest)).bind fun pair =>
            Progress.complete? ⟨pair.reverse ++ progress.latest, progress.gap⟩
      | ':' :: next =>
        if length = 0 ∨ next.isEmpty ∨ 8 ≤ progress.latest.length then none
        else readNumbers fuel ⟨value :: progress.latest, progress.gap⟩ next
      | [] =>
        if length = 0 ∨ 8 ≤ progress.latest.length then none
        else Progress.complete? ⟨value :: progress.latest, progress.gap⟩
      | _ => none

def ofText? (text : List Char) : Option (List Nat) :=
  match text with
  | ':' :: ':' :: rest => readNumbers rest.length ⟨[], some 0⟩ rest
  | ':' :: _ => none
  | [] => none
  | _ => readNumbers text.length ⟨[], none⟩ text

def zeroRun (numbers : List Nat) : Nat :=
  (numbers.takeWhile (· == 0)).length

/-- Start and length of the first longest run of zeros, given the best run so far. -/
def longestRun (best : Nat × Nat) (start : Nat) : List Nat → Nat × Nat
  | [] => best
  | number :: rest =>
    let length := zeroRun (number :: rest)
    longestRun (if best.2 < length then (start, length) else best) (start + 1) rest

def joined (numbers : List Nat) : String :=
  String.intercalate ":" (numbers.map Text.hexNumeral)

/-- The numbers in hexadecimal; the first longest run of two or more zeros is written `::`. -/
def hexText (numbers : List Nat) : String :=
  let (start, length) := longestRun (0, 0) 0 numbers
  if length < 2 then joined numbers
  else joined (numbers.take start) ++ "::" ++ joined (numbers.drop (start + length))

/-- As `hexText`, but an embedded IPv4 address is written in its own form. -/
def socketText (numbers : List Nat) : String :=
  match numbers with
  | [0, 0, 0, 0, 0, 0xFFFF, high, low] => "::ffff:" ++ Ipv4.text (high * 65536 + low)
  | _ => hexText numbers

end ServerProbe.Url.Ipv6

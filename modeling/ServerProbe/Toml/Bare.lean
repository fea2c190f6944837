import ServerProbe.Json.Basic
import ServerProbe.Number.Notation
import ServerProbe.Text.Blank
import ServerProbe.Time.Calendar

/-! Values of TOML that stand without quotes: booleans, numbers, dates and times.

A date or time has no counterpart in the data model of documents. It becomes an
empty object, which no setting accepts.
-/

set_option autoImplicit false

namespace ServerProbe.Toml

/-- Digits of a base where single underscores may stand between two digits. -/
def digitsOf? (isDigit : Char → Bool) : List Char → Option (List Char)
  | [] => none
  | [c] => if isDigit c then some [c] else none
  | c :: '_' :: rest => if isDigit c then (digitsOf? isDigit rest).map (c :: ·) else none
  | c :: rest => if isDigit c then (digitsOf? isDigit rest).map (c :: ·) else none

def wholeNumber? (value : Int) : Option Json :=
  if -0x8000000000000000 ≤ value ∧ value < 0x8000000000000000 then some (.int value) else none

def based? (base : Nat) (text : List Char) : Option Json := do
  let digits ← digitsOf? (fun c => (Text.digitValue? base c).isSome) text
  wholeNumber? (← Text.natOfDigits? base digits)

def decimalDigits? (text : List Char) : Option (List Char) :=
  (digitsOf? Char.isDigit text).filter fun digits => digits.length ≤ 1 || digits.head? != some '0'

def signed? (negative : Bool) (digits : List Char) : Option Json := do
  let digits ← decimalDigits? digits
  let value : Int := Binary64.digitsValue digits
  wholeNumber? (if negative then -value else value)

/-- The power of ten after `e`: an optional sign and digits, perhaps with zeros in front. -/
def power? (text : List Char) : Option Int :=
  match text with
  | '-' :: digits => (digitsOf? Char.isDigit digits).map fun d => -(Binary64.digitsValue d : Int)
  | '+' :: digits => (digitsOf? Char.isDigit digits).map fun d => (Binary64.digitsValue d : Int)
  | digits => (digitsOf? Char.isDigit digits).map fun d => (Binary64.digitsValue d : Int)

def isExponentMark (c : Char) : Bool :=
  c == 'e' || c == 'E'

-- A number with a fraction or an exponent. One that is too large is no value.
def fractional? (negative : Bool) (text : List Char) : Option Json := do
  let mantissa := text.takeWhile fun c => !isExponentMark c
  let exponent := text.drop mantissa.length
  let whole := mantissa.takeWhile (· != '.')
  let fraction := mantissa.drop whole.length
  let power ←
    match exponent with
    | [] => some 0
    | _ :: digits => power? digits
  let wholeDigits ← decimalDigits? whole
  let fractionDigits ←
    match fraction with
    | [] => some []
    | _ :: digits => digitsOf? Char.isDigit digits
  if exponent.isEmpty ∧ fraction.isEmpty then none
  else
    let value := Binary64.ofParts negative wholeDigits fractionDigits power
    if value.isFinite then some (.double value) else none

def afterSign? (negative : Bool) (text : List Char) : Option Json :=
  if text = "inf".toList then some (.double (Binary64.infinity negative))
  else if text = "nan".toList then some (.double Binary64.nan)
  else (signed? negative text).or (fractional? negative text)

def number? (text : List Char) : Option Json :=
  match text with
  | '+' :: rest => afterSign? false rest
  | '-' :: rest => afterSign? true rest
  | '0' :: 'x' :: digits => based? 16 digits
  | '0' :: 'o' :: digits => based? 8 digits
  | '0' :: 'b' :: digits => based? 2 digits
  | _ => afterSign? false text

def fixed? (width : Nat) (digits : List Char) : Option Nat :=
  if digits.length = width ∧ digits.all Char.isDigit then some (Binary64.digitsValue digits)
  else none

def isBelow (limit : Nat) (digits : List Char) : Bool :=
  match fixed? 2 digits with
  | some value => value < limit
  | none => false

def isDate (text : List Char) : Bool :=
  match Text.fields '-' text with
  | [year, month, day] =>
    match fixed? 4 year, fixed? 2 month, fixed? 2 day with
    | some year, some month, some day =>
      1 ≤ month && month ≤ 12 && 1 ≤ day && day ≤ CivilTime.daysInMonth year month
    | _, _, _ => false
  | _ => false

/-- A second with an optional fraction; second 60 is a leap second. -/
def isSecond (text : List Char) : Bool :=
  match Text.fields '.' text with
  | [whole] => isBelow 61 whole
  | [whole, fraction] =>
    isBelow 61 whole && !fraction.isEmpty && fraction.all Char.isDigit
  | _ => false

def isHourMinute (hour minute : List Char) : Bool :=
  isBelow 24 hour && isBelow 60 minute

def isTime (text : List Char) : Bool :=
  match Text.fields ':' text with
  | [hour, minute] => isHourMinute hour minute
  | [hour, minute, second] => isHourMinute hour minute && isSecond second
  | _ => false

def isZonedTime (text : List Char) : Bool :=
  let time := text.takeWhile fun c => c != 'Z' && c != 'z' && c != '+' && c != '-'
  isTime time &&
    match text.drop time.length with
    | [] => true
    | ['Z'] => true
    | ['z'] => true
    | _ :: zone =>
      match Text.fields ':' zone with
      | [hour, minute] => isHourMinute hour minute
      | _ => false

def isDateTime (text : List Char) : Bool :=
  if isTime text ∨ isDate text then true
  else
    match text.drop 10 with
    | mark :: time =>
      isDate (text.take 10) && (mark == 'T' || mark == 't' || mark == ' ') && isZonedTime time
    | [] => false

def bare? (text : List Char) : Option Json :=
  if text = "true".toList then some (.bool true)
  else if text = "false".toList then some (.bool false)
  else if isDateTime text then some (.obj [])
  else number? text

end ServerProbe.Toml

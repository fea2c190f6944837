import ServerProbe.Text.Blank
import ServerProbe.Text.Numeral

/-! IPv4 addresses in the lenient forms that addresses of resources allow.

An address has one to four parts in decimal, in octal after a leading zero, or
in hexadecimal after `0x`. The last part fills all bytes that are left.
-/

set_option autoImplicit false

namespace ServerProbe.Url.Ipv4

def part? (text : List Char) : Option Nat :=
  let (base, digits) :=
    match text with
    | '0' :: 'x' :: digits => (16, digits)
    | '0' :: 'X' :: digits => (16, digits)
    | '0' :: d :: digits => (8, d :: digits)
    | _ => (10, text)
  if text.isEmpty then none
  else if digits.isEmpty then some 0
  else Text.natOfDigits? base digits

/-- The parts of a domain, without an empty one at the end. -/
def parts (domain : List Char) : List (List Char) :=
  let all := Text.fields '.' domain
  if 1 < all.length ∧ all.getLast? = some [] then all.dropLast else all

/-- Whether a domain must be read as an address, because its last part is a number. -/
def endsInNumber (domain : List Char) : Bool :=
  match (parts domain).getLast? with
  | some last => (!last.isEmpty && last.all Char.isDigit) || (part? last).isSome
  | none => false

def join? (values : List Nat) : Option Nat :=
  match values.reverse with
  | [] => none
  | last :: before =>
    if 3 < before.length ∨ before.any (255 < ·) ∨ Nat.pow 256 (4 - before.length) ≤ last then none
    else
      let high := before.reverse.foldl (fun total value => total * 256 + value) 0
      some (high * Nat.pow 256 (4 - before.length) + last)

def ofDomain? (domain : List Char) : Option Nat :=
  ((parts domain).mapM part?).bind join?

def text (address : Nat) : String :=
  toString (address / 16777216 % 256) ++ "." ++ toString (address / 65536 % 256) ++ "." ++
    toString (address / 256 % 256) ++ "." ++ toString (address % 256)

end ServerProbe.Url.Ipv4

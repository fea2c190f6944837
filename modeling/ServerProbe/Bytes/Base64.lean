/-! Bytes written in the standard base-64 alphabet, padded with `=` to groups of four. -/

set_option autoImplicit false

namespace ServerProbe.Bytes

def base64Digit (value : Nat) : Char :=
  if value < 26 then Char.ofNat ('A'.toNat + value)
  else if value < 52 then Char.ofNat ('a'.toNat + (value - 26))
  else if value < 62 then Char.ofNat ('0'.toNat + (value - 52))
  else if value = 62 then '+'
  else '/'

def base64Value? (c : Char) : Option Nat :=
  if 'A' ≤ c ∧ c ≤ 'Z' then some (c.toNat - 'A'.toNat)
  else if 'a' ≤ c ∧ c ≤ 'z' then some (c.toNat - 'a'.toNat + 26)
  else if '0' ≤ c ∧ c ≤ '9' then some (c.toNat - '0'.toNat + 52)
  else if c = '+' then some 62
  else if c = '/' then some 63
  else none

/-- Each three bytes become four characters; the last group is padded. -/
def base64Chars : List UInt8 → List Char
  | [] => []
  | [a] =>
    let bits := a.toNat * 16
    [base64Digit (bits / 64), base64Digit (bits % 64), '=', '=']
  | [a, b] =>
    let bits := (a.toNat * 256 + b.toNat) * 4
    [base64Digit (bits / 4096), base64Digit (bits / 64 % 64), base64Digit (bits % 64), '=']
  | a :: b :: c :: rest =>
    let bits := (a.toNat * 256 + b.toNat) * 256 + c.toNat
    base64Digit (bits / 262144) :: base64Digit (bits / 4096 % 64) ::
      base64Digit (bits / 64 % 64) :: base64Digit (bits % 64) :: base64Chars rest

def base64 (bytes : List UInt8) : String :=
  String.ofList (base64Chars bytes)

/-- Reads groups of four characters; only the last group may be padded. -/
def ofBase64Chars? : List Char → Option (List UInt8)
  | [] => some []
  | [a, b, '=', '='] => do
    let a ← base64Value? a
    let b ← base64Value? b
    return [UInt8.ofNat ((a * 64 + b) / 16)]
  | [a, b, c, '='] => do
    let a ← base64Value? a
    let b ← base64Value? b
    let c ← base64Value? c
    let bits := (a * 64 + b) * 64 + c
    return [UInt8.ofNat (bits / 1024), UInt8.ofNat (bits / 4 % 256)]
  | a :: b :: c :: d :: rest => do
    let a ← base64Value? a
    let b ← base64Value? b
    let c ← base64Value? c
    let d ← base64Value? d
    let bits := ((a * 64 + b) * 64 + c) * 64 + d
    let bytes ← ofBase64Chars? rest
    return UInt8.ofNat (bits / 65536) :: UInt8.ofNat (bits / 256 % 256) ::
      UInt8.ofNat (bits % 256) :: bytes
  | _ => none

end ServerProbe.Bytes

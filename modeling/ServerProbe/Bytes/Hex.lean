import ServerProbe.Text.AsciiCase

/-! Bytes written as pairs of lower case hexadecimal digits. -/

set_option autoImplicit false

namespace ServerProbe.Bytes

def hexPair (byte : UInt8) : List Char :=
  [Text.hexDigit (byte.toNat / 16), Text.hexDigit (byte.toNat % 16)]

def hex (bytes : List UInt8) : String :=
  String.ofList (bytes.flatMap hexPair)

def ofHexDigits? : List Char → Option (List UInt8)
  | [] => some []
  | high :: low :: rest => do
    let high ← Text.digitValue? 16 high
    let low ← Text.digitValue? 16 low
    let bytes ← ofHexDigits? rest
    return UInt8.ofNat (16 * high + low) :: bytes
  | [_] => none

end ServerProbe.Bytes

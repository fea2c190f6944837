import ServerProbe.Text.AsciiCase
import ServerProbe.Text.Utf8

/-! Percent encoding: bytes written as `%` and two upper case hexadecimal digits.

Each part of an address has its own set of characters that must be encoded.
Characters outside ASCII are always encoded, as their UTF-8 bytes.
-/

set_option autoImplicit false

namespace ServerProbe.Url

def percentByte (byte : UInt8) : List Char :=
  ['%', Text.upperHexDigit (byte.toNat / 16), Text.upperHexDigit (byte.toNat % 16)]

/-- Control characters and everything outside ASCII. -/
def isControl (c : Char) : Bool :=
  c.toNat < 0x20 || 0x7F ≤ c.toNat

def inFragmentSet (c : Char) : Bool :=
  isControl c || c == ' ' || c == '"' || c == '<' || c == '>' || c == '\x60'

def inQuerySet (c : Char) : Bool :=
  isControl c || c == ' ' || c == '"' || c == '#' || c == '<' || c == '>'

def inSpecialQuerySet (c : Char) : Bool :=
  inQuerySet c || c == '\''

def inPathSet (c : Char) : Bool :=
  inFragmentSet c || c == '#' || c == '?' || c == '\x7b' || c == '\x7d'

def inUserSet (c : Char) : Bool :=
  inPathSet c || c == '/' || c == ':' || c == ';' || c == '=' || c == '@' || c == '[' ||
    c == '\\' || c == ']' || c == '^' || c == '|'

def encodeChar (inSet : Char → Bool) (c : Char) : List Char :=
  if inSet c then (String.utf8EncodeChar c).flatMap percentByte else [c]

def encode (inSet : Char → Bool) (text : List Char) : String :=
  String.ofList (text.flatMap (encodeChar inSet))

def decodeBytes : List UInt8 → List UInt8
  | [] => []
  | [byte] => [byte]
  | [first, second] => [first, second]
  | first :: second :: third :: rest =>
    if first = 0x25 then
      match Text.digitValue? 16 (Char.ofNat second.toNat),
        Text.digitValue? 16 (Char.ofNat third.toNat) with
      | some high, some low => UInt8.ofNat (16 * high + low) :: decodeBytes rest
      | _, _ => first :: decodeBytes (second :: third :: rest)
    else first :: decodeBytes (second :: third :: rest)

end ServerProbe.Url

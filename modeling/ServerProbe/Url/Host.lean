import ServerProbe.Url.DomainName
import ServerProbe.Url.Ipv4
import ServerProbe.Url.Ipv6
import ServerProbe.Url.Percent
import ServerProbe.Url.Problem

/-! The hosts that addresses name. -/

set_option autoImplicit false

namespace ServerProbe.Url

inductive Host where
  | domain (name : String)
  | ipv4 (address : Nat)
  | ipv6 (numbers : List Nat)
  deriving DecidableEq

namespace Host

def text : Host → String
  | .domain name => name
  | .ipv4 address => Ipv4.text address
  | .ipv6 numbers => "[" ++ Ipv6.hexText numbers ++ "]"

/-- The host as it is looked up: an IPv6 address has no brackets. -/
def lookupText : Host → String
  | .domain name => name
  | .ipv4 address => Ipv4.text address
  | .ipv6 numbers => Ipv6.socketText numbers

def ofBracketed (text : List Char) : Except Problem Host :=
  if text.getLast? = some ']' then
    match Ipv6.ofText? text.dropLast with
    | some numbers => .ok (.ipv6 numbers)
    | none => .error .invalidIpv6
  else .error .invalidIpv6

def ofText (text : List Char) : Except Problem Host :=
  match text with
  | '[' :: rest => ofBracketed rest
  | _ =>
    match DomainName.toAscii? (decodeBytes (Text.utf8 (String.ofList text))) with
    | none => .error .invalidDomainName
    | some [] => .error .emptyHost
    | some name =>
      if Ipv4.endsInNumber name then
        match Ipv4.ofDomain? name with
        | some address => .ok (.ipv4 address)
        | none => .error .invalidIpv4
      else .ok (.domain (String.ofList name))

def isForbidden (c : Char) : Bool :=
  "\x00\t\n\r #/:<>?@[\\]^|".toList.contains c

-- Reads the host of an address with an unknown scheme. It may be empty.
def ofOpaqueText (text : List Char) : Except Problem Host :=
  match text with
  | '[' :: rest => ofBracketed rest
  | _ =>
    if text.any isForbidden then .error .invalidDomainCharacter
    else .ok (.domain (encode isControl text))

end Host

end ServerProbe.Url

/-! Why a text is not an address. -/

set_option autoImplicit false

namespace ServerProbe.Url

inductive Problem where
  | emptyHost
  | invalidDomainName
  | invalidPort
  | invalidIpv4
  | invalidIpv6
  | invalidDomainCharacter
  /-- There is no scheme, and no address that the text could be relative to. -/
  | relativeWithoutBase
  deriving DecidableEq

def Problem.message : Problem → String
  | .emptyHost => "empty host"
  | .invalidDomainName => "invalid international domain name"
  | .invalidPort => "invalid port number"
  | .invalidIpv4 => "invalid IPv4 address"
  | .invalidIpv6 => "invalid IPv6 address"
  | .invalidDomainCharacter => "invalid domain character"
  | .relativeWithoutBase => "relative URL without a base"

end ServerProbe.Url

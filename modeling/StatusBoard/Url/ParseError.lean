/-!
Why a text is no URL.
-/
namespace StatusBoard.Url

inductive ParseError where
  | emptyHost
  | idna
  | invalidPort
  | invalidIpv4Address
  | invalidIpv6Address
  | invalidDomainCharacter
  | relativeWithoutBase
  | relativeWithOpaqueBase
deriving DecidableEq, Repr, Inhabited

namespace ParseError

def message : ParseError → String
  | .emptyHost => "empty host"
  | .idna => "invalid international domain name"
  | .invalidPort => "invalid port number"
  | .invalidIpv4Address => "invalid IPv4 address"
  | .invalidIpv6Address => "invalid IPv6 address"
  | .invalidDomainCharacter => "invalid domain character"
  | .relativeWithoutBase => "relative URL without a base"
  | .relativeWithOpaqueBase => "relative URL with a cannot-be-a-base base"

end ParseError

end StatusBoard.Url

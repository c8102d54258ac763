/-!
# Errors of URLs

Why text is no URL.
-/

namespace Onboarding

namespace Url

/-- Why text is no URL. -/
inductive Error where
  | relativeWithoutBase
  | emptyHost
  | invalidPort
  | invalidIpv4
  | invalidIpv6
  | invalidDomain
  | invalidDomainCharacter
  deriving DecidableEq

/-- What is said about text that is no URL. -/
def Error.message : Error → String
  | .relativeWithoutBase => "relative URL without a base"
  | .emptyHost => "empty host"
  | .invalidPort => "invalid port number"
  | .invalidIpv4 => "invalid IPv4 address"
  | .invalidIpv6 => "invalid IPv6 address"
  | .invalidDomain => "invalid international domain name"
  | .invalidDomainCharacter => "invalid domain character"

end Url

end Onboarding

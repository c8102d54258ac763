import Onboarding.Text.Percent
import Onboarding.Url.Domain
import Onboarding.Url.Error
import Onboarding.Url.Ipv4
import Onboarding.Url.Ipv6

/-!
# Hosts

The host of a URL: a name or an address.  The web schemes read names as domain names, and a name
that ends in a number as an IPv4 address; other schemes keep a name as it is written.
-/

namespace Onboarding

namespace Url

/-- The host of a URL. -/
inductive Host where
  | name (text : List Char)
  | ipv4 (address : Nat)
  | ipv6 (groups : List Nat)
  deriving DecidableEq

namespace Host

/-- A host as text. -/
def text : Host → List Char
  | name text => text
  | ipv4 address => Ipv4.text address
  | ipv6 groups => '[' :: Ipv6.text groups ++ [']']

/-- Whether there is no host. -/
def isEmpty : Host → Bool
  | name text => text.isEmpty
  | _ => false

/-- An IPv6 address after its opening bracket. -/
def parseBracketed (inside : List Char) : Except Error Host :=
  if inside.getLast? = some ']' then
    match Ipv6.parse? inside.dropLast with
    | some groups => .ok (ipv6 groups)
    | none => .error .invalidIpv6
  else .error .invalidIpv6

/-- The host of a URL with a web scheme. -/
def parse : List Char → Except Error Host
  | '[' :: inside => parseBracketed inside
  | text =>
    match (Utf8.decode? (Percent.decode (Utf8.encode text))).bind Domain.toAscii? with
    | none => .error .invalidDomain
    | some domain =>
      if domain.isEmpty then .error .emptyHost
      else if Ipv4.isNumeric domain then
        match Ipv4.parse? domain with
        | some address => .ok (ipv4 address)
        | none => .error .invalidIpv4
      else .ok (name domain)

/-- The characters that no host of another scheme may hold. -/
def isRefused (c : Char) : Bool :=
  c.toNat == 0 || "\t\n\r #/:<>?@[\\]^|".toList.contains c

/-- The host of a URL with another scheme. -/
def parsePlain : List Char → Except Error Host
  | '[' :: inside => parseBracketed inside
  | text =>
    if text.any isRefused then .error .invalidDomainCharacter
    else .ok (name (Percent.encode Percent.controls text))

end Host

end Url

end Onboarding

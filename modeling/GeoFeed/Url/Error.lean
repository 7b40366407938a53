/-
# GeoFeed.Url.Error -- why a text is not a URL
-/
namespace GeoFeed.Url

set_option autoImplicit false

inductive Error where
  | emptyHost
  | invalidDomain
  | invalidPort
  | invalidIpv4
  | invalidIpv6
  | invalidHostCharacter
  | relativeWithoutBase
  | relativeToRootless
deriving Repr, DecidableEq

def Error.message : Error → String
  | emptyHost => "empty host"
  | invalidDomain => "invalid international domain name"
  | invalidPort => "invalid port number"
  | invalidIpv4 => "invalid IPv4 address"
  | invalidIpv6 => "invalid IPv6 address"
  | invalidHostCharacter => "invalid domain character"
  | relativeWithoutBase => "relative URL without a base"
  | relativeToRootless => "relative URL with a cannot-be-a-base base"

end GeoFeed.Url

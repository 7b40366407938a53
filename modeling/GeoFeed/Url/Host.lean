/-
# GeoFeed.Url.Host -- hosts

The host of a special URL is an IPv6 address in square brackets, an IPv4 address
or a domain; a domain that ends in a number is meant as an address.  The host of
any other URL is an IPv6 address or a text without the marks that end a host.
-/
import GeoFeed.Url.Address
import GeoFeed.Url.Domain

namespace GeoFeed.Url.Host

set_option autoImplicit false

/-- The characters that no host of a general URL may contain. -/
def isForbidden (c : Char) : Bool :=
  ['\x00', '\t', '\n', '\r', ' ', '#', '/', ':', '<', '>', '?', '@', '[', '\\', ']', '^',
    '|'].contains c

/-- What stands between square brackets, if the text begins with one. -/
def bracketed? : List Char → Option (Except Error (List Char))
  | '[' :: rest =>
      if rest.getLast? = some ']' then
        match Ipv6.ofText? rest.dropLast with
        | some pieces => some (.ok ('[' :: (Ipv6.toChars pieces ++ [']'])))
        | none => some (.error .invalidIpv6)
      else some (.error .invalidIpv6)
  | _ => none

/-- The written form of the host of a special URL. -/
def readSpecial (text : List Char) : Except Error (List Char) :=
  match bracketed? text with
  | some host => host
  | none =>
      match (textOfBytes? (percentDecode text)).bind fun name => Domain.ofChars? name.toList with
      | none => .error .invalidDomain
      | some domain =>
          if domain.isEmpty then .error .emptyHost
          else if Ipv4.endsInNumber domain then
            match Ipv4.ofDomain? domain with
            | some address => .ok (Ipv4.toChars address)
            | none => .error .invalidIpv4
          else .ok domain

/-- The written form of the host of a general URL. -/
def readGeneral (text : List Char) : Except Error (List Char) :=
  match bracketed? text with
  | some host => host
  | none =>
      if text.any isForbidden then .error .invalidHostCharacter
      else .ok (percentEncode isControl text)

end GeoFeed.Url.Host

/-
# GeoFeed.Url.Domain.Mapping -- the one way to write a domain name

Capital letters, wide letters and other spellings of the same name become one:
`settled?` puts every character in its usual form and composes the whole.  A name
with a character that no domain has is refused.
-/
import GeoFeed.Text.Composition
import GeoFeed.Url.Domain.Mapping.Table

namespace GeoFeed.Url.Domain

set_option autoImplicit false

/-- What a character is written as. -/
def mapChar (c : Char) : List Char :=
  match mapped.run? c with
  | none => [c]
  | some run =>
      match run.numbers with
      | [n] => [Char.ofNat (n + (c.toNat - run.first))]
      | image => image.map Char.ofNat

/-- A name in its usual form. -/
def settled? (cs : List Char) : Option (List Char) :=
  if cs.any refused.holds then none else some (Text.composed (cs.flatMap mapChar))

/-- Whether a name is in its usual form. -/
def isSettled (cs : List Char) : Bool :=
  cs.all (fun c => mapChar c == [c]) && settled? cs == some cs

end GeoFeed.Url.Domain

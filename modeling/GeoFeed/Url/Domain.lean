/-
# GeoFeed.Url.Domain -- domain names

A domain is a row of labels with points between them, and is written in ASCII
and in lower case.  A label beyond ASCII is written as `xn--` and its spelling;
a label that comes in that form has to be the spelling of a label in its usual
form.
-/
import GeoFeed.Url.Domain.Direction
import GeoFeed.Url.Domain.Joining
import GeoFeed.Url.Domain.Mapping
import GeoFeed.Url.Punycode

namespace GeoFeed.Url.Domain

set_option autoImplicit false

/-- The characters that no domain may contain. -/
def isForbidden (c : Char) : Bool :=
  c.toNat ≤ 0x20 || c.toNat == 0x7F ||
    ['#', '/', ':', '<', '>', '?', '@', '[', '\\', ']', '^', '|', '%'].contains c

def isAscii (c : Char) : Bool := c.toNat < 128

/-- The points between labels. -/
def isPoint (c : Char) : Bool := c == '.'

/-! ## Labels -/

/-- A label as it is meant and as it is written. -/
structure Label where
  meant : List Char
  written : List Char
deriving Repr, DecidableEq

/-- What follows `xn--`, if a label begins with it. -/
def spelling? : List Char → Option (List Char)
  | 'x' :: 'n' :: '-' :: '-' :: rest => some rest
  | _ => none

/-- Whether a text can be a label: it does not begin with a mark, nor with what
announces a spelling, and its joiners are in place. -/
def isSound (cs : List Char) : Bool :=
  !(cs.take 1).any Text.isMark && (spelling? cs).isNone && joinersFit [] cs

/-- The label that a text in its usual form is. -/
def Label.ofChars? (cs : List Char) : Option Label :=
  match spelling? cs with
  | some spelling =>
      match if spelling.all isAscii then Punycode.decode? spelling else none with
      | some meant =>
          if !meant.all isAscii && isSettled meant && isSound meant then some ⟨meant, cs⟩ else none
      | none => none
  | none =>
      if isSound cs then
        some ⟨cs, if cs.all isAscii then cs else "xn--".toList ++ Punycode.encode cs⟩
      else none

/-! ## Domains -/

/-- The labels of a domain in its usual form. -/
def labels? (cs : List Char) : Option (List Label) := do
  let labels ← (Text.pieces isPoint cs).mapM Label.ofChars?
  if labels.any (hasRightToLeft ·.meant) && !labels.all (keepsOrder ·.meant) then none
  else some labels

/-- Whether a domain is written in ASCII without any spelling of a label. -/
def isPlain (cs : List Char) : Bool :=
  cs.all isAscii && (Text.pieces isPoint (cs.map Char.toLower)).all fun label =>
    (spelling? label).isNone

/-- The written form of a domain, if it is one. -/
def ofChars? (cs : List Char) : Option (List Char) :=
  let written :=
    if isPlain cs then some (cs.map Char.toLower)
    else (settled? cs >>= labels?).map fun labels => ['.'].intercalate (labels.map Label.written)
  written.filter fun domain => !domain.any isForbidden

end GeoFeed.Url.Domain

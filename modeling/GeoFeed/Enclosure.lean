/-
# GeoFeed.Enclosure -- attachments of an entry

An enclosure has a URL, a length and a media type.  A block of text lists
enclosures line by line, as `url=`, `length=` and `type=` with a value each, in
any order.  An enclosure is complete as soon as all three have been seen; of
repeated lines the last one counts, and the next enclosure starts afresh.  Other
lines are passed over, and an enclosure that is not completed is dropped.
-/
import GeoFeed.Text.Blank
import GeoFeed.Text.Cut

namespace GeoFeed

set_option autoImplicit false

structure Enclosure where
  url : String
  length : String
  mediaType : String
deriving Repr, DecidableEq

namespace Enclosure

/-- The names of the three fields. -/
inductive Field where
  | url
  | length
  | mediaType
deriving Repr, DecidableEq

/-- The field that a line begins with, exactly spelled. -/
def Field.ofName? (name : List Char) : Option Field :=
  if name = "url".toList then some .url
  else if name = "length".toList then some .length
  else if name = "type".toList then some .mediaType
  else none

/-- An enclosure of which some fields have been seen. -/
structure Draft where
  url : Option String := none
  length : Option String := none
  mediaType : Option String := none
deriving Repr, DecidableEq

namespace Draft

def set (d : Draft) (field : Field) (value : String) : Draft :=
  match field with
  | .url => { d with url := some value }
  | .length => { d with length := some value }
  | .mediaType => { d with mediaType := some value }

/-- The enclosure, once all its fields are there. -/
def complete? (d : Draft) : Option Enclosure := do
  pure ⟨← d.url, ← d.length, ← d.mediaType⟩

end Draft

/-- The field and value of a line, if it is one of the three. -/
def assignment? (line : List Char) : Option (Field × String) := do
  let (name, value) ← Text.cut? '=' (Text.trimChars line)
  pure (← Field.ofName? name, String.ofList value)

/-- Every carriage return and every line feed ends a line. -/
def isLineEnd (c : Char) : Bool := c == '\r' || c == '\n'

/-- The recognised lines of a block, in order. -/
def assignments (block : String) : List (Field × String) :=
  (Text.pieces isLineEnd block.toList).filterMap assignment?

/-- The enclosures that a sequence of assignments completes, starting from a
draft. -/
def collect (draft : Draft) : List (Field × String) → List Enclosure
  | [] => []
  | (field, value) :: rest =>
      let draft := draft.set field value
      match draft.complete? with
      | some enclosure => enclosure :: collect {} rest
      | none => collect draft rest

/-- The enclosures that a block lists. -/
def listOfBlock (block : String) : List Enclosure :=
  collect {} (assignments block)

end Enclosure

end GeoFeed

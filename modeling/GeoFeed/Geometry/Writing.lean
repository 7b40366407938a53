/-
# GeoFeed.Geometry.Writing -- writing what a feed says about a geometry

The markup of a geometry is written in pieces: events, and fragments whose events
the GML encoder decides on when their turn comes.  An encoder may answer
differently each time it is called, so the number of calls before is part of what
it is asked.

A failure inside a fragment is a failure of the fragment, whether the encoder
could not go on or the output refused its events.
-/
import GeoFeed.Geometry.Markup
import GeoFeed.Output

namespace GeoFeed

set_option autoImplicit false

/-- Why a fragment was not written to its end. -/
inductive GmlError where
  | unsupported (kind : String)
  | output (cause : WriteError)
deriving Repr, DecidableEq

def GmlError.message : GmlError → String
  | unsupported kind => "no GML encoding for " ++ kind ++ " geometries"
  | output cause => cause.message

/-- Why the markup of a geometry was not written to its end. -/
inductive MarkupError where
  | output (cause : WriteError)
  | gml (cause : GmlError)
deriving Repr, DecidableEq

def MarkupError.message : MarkupError → String
  | output cause => cause.message
  | gml cause => "Cannot transform the specified geometry in GML: " ++ cause.message

/-- A part of a document. -/
inductive Piece where
  | event (e : Xml.Event)
  | fragment (element : Gml.Element) (geometry : Geometry)

/-- The encoder for each call, counted from zero. -/
abbrev Encoders := Nat → Gml.Encoder

/-- The standard encoder, for every call. -/
def Encoders.standard : Encoders := fun _ => Gml.encode

namespace Piece

def events (es : List Xml.Event) : List Piece := es.map event

/-- The number of calls of the encoder that a piece takes. -/
def calls : Piece → Nat
  | event _ => 0
  | fragment _ _ => 1

end Piece

/-- The pieces of a geometry's markup. -/
def Markup.pieces : Markup → List Piece
  | simple name content => Piece.events (Xml.element name content)
  | latLong lat lon =>
      Piece.events
        (Xml.element "geo:lat" (Decimal.toText lat) ++ Xml.element "geo:long" (Decimal.toText lon))
  | gml element geometry => [.fragment element geometry]

namespace Output

/-- Write a fragment with the given encoder. -/
def writeFragment (output : Output) (encoder : Gml.Encoder) (element : Gml.Element)
    (geometry : Geometry) : Delivery GmlError :=
  let fragment := encoder element geometry
  ((output.writeAll fragment.events).mapFailure .output).andThen fun next =>
    ⟨[], next, fragment.unsupported.map .unsupported⟩

/-- Write one piece after the given number of calls of the encoder. -/
def writePiece (output : Output) (encoders : Encoders) (calls : Nat) : Piece → Delivery MarkupError
  | .event e => (output.write e).mapFailure .output
  | .fragment element geometry =>
      (output.writeFragment (encoders calls) element geometry).mapFailure .gml

/-- Write pieces one after the other. -/
def writePieces (output : Output) (encoders : Encoders) (calls : Nat) :
    List Piece → Delivery MarkupError
  | [] => .idle output
  | piece :: rest =>
      (output.writePiece encoders calls piece).andThen fun next =>
        next.writePieces encoders (calls + piece.calls) rest

end Output

end GeoFeed

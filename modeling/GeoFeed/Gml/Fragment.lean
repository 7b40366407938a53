/-
# GeoFeed.Gml.Fragment -- geometries as GML

A GML fragment is one element that holds a geometry: `gml:Point` with its
position, `gml:LineString` with a list of positions, `gml:Polygon` with its
rings, and elements for several of these, each in a member element of its own.
Positions name the latitude first.

The element is chosen by the kind of the geometry (`Element.ofGeometry`).  The
standard encoder has nothing to write for other pairings and none for the kinds
without an element of their own; it then fails before writing anything.
-/
import GeoFeed.Geometry.Text
import GeoFeed.Xml.Event

namespace GeoFeed.Gml

set_option autoImplicit false

/-- The elements a geometry may be written as. -/
inductive Element where
  | point
  | lineString
  | polygon
  | multiPoint
  | multiLineString
  | multiPolygon
  /-- The abstract element, for every other kind of geometry. -/
  | geometry
deriving Repr, DecidableEq

namespace Element

/-- The element for a geometry. -/
def ofGeometry : Geometry → Element
  | .point _ => point
  | .lineString _ => lineString
  | .polygon _ => polygon
  | .multiPoint _ => multiPoint
  | .multiLineString _ => multiLineString
  | .multiPolygon _ => multiPolygon
  | _ => geometry

/-- The name of the element with its namespace prefix. -/
def qualifiedName : Element → String
  | point => "gml:Point"
  | lineString => "gml:LineString"
  | polygon => "gml:Polygon"
  | multiPoint => "gml:MultiPoint"
  | multiLineString => "gml:MultiLineString"
  | multiPolygon => "gml:MultiPolygon"
  | geometry => "gml:_Geometry"

end Element

/-- The work of an encoder: the events it wrote, and the kind of geometry it
could not go on with, if it failed. -/
structure Fragment where
  events : List Xml.Event
  unsupported : Option String := none
deriving Repr, DecidableEq

/-- Writes a geometry as the given element.  A failing encoder may leave the
beginning of a fragment behind. -/
abbrev Encoder := Element → Geometry → Fragment

/-! ## The standard encoder -/

/-- An element around other markup. -/
def inside (name : String) (content : List Xml.Event) : List Xml.Event :=
  .opening name [] :: (content ++ [.closing name])

def pointEvents (place : Coordinate) : List Xml.Event :=
  inside "gml:Point" (Xml.element "gml:pos" place.latLon)

def positionsEvents (path : Path) : List Xml.Event :=
  Xml.element "gml:posList" (Path.latLons path)

def lineEvents (path : Path) : List Xml.Event :=
  inside "gml:LineString" (positionsEvents path)

def ringEvents (boundary : String) (ring : Path) : List Xml.Event :=
  inside boundary (inside "gml:LinearRing" (positionsEvents ring))

def polygonEvents (area : Polygon) : List Xml.Event :=
  inside "gml:Polygon"
    (ringEvents "gml:exterior" area.exterior
      ++ area.interiors.flatMap (ringEvents "gml:interior"))

/-- The members of a geometry of several parts, each in an element of its own. -/
def membersEvents {α : Type} (name member : String) (events : α → List Xml.Event)
    (parts : List α) : List Xml.Event :=
  inside name (parts.flatMap fun part => inside member (events part))

/-- The markup of a geometry as an element, where there is one. -/
def events? : Element → Geometry → Option (List Xml.Event)
  | .point, .point place => some (pointEvents place)
  | .lineString, .lineString path => some (lineEvents path)
  | .polygon, .polygon area => some (polygonEvents area)
  | .multiPoint, .multiPoint places =>
      some (membersEvents "gml:MultiPoint" "gml:pointMember" pointEvents places)
  | .multiLineString, .multiLineString paths =>
      some (membersEvents "gml:MultiLineString" "gml:lineStringMember" lineEvents paths)
  | .multiPolygon, .multiPolygon areas =>
      some (membersEvents "gml:MultiPolygon" "gml:polygonMember" polygonEvents areas)
  | _, _ => none

/-- The encoder for GML 3. -/
def encode : Encoder := fun element geometry =>
  match events? element geometry with
  | some events => ⟨events, none⟩
  | none => ⟨[], some geometry.kindName⟩

end GeoFeed.Gml

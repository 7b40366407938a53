/-
# GeoFeed.Geometry.Basic -- geometries in the plane

A coordinate has an `x` (longitude) and a `y` (latitude).  A geometry is a point,
a segment, a path, a polygon, a box, a triangle, or several of these together.
Nothing is normalised: the rings of a polygon need not be closed, the corners of
a box need not be in order, and paths and collections may be empty.

Three of the kinds with several parts hold parts of one kind; a collection holds
any geometries, other collections included.
-/
namespace GeoFeed

set_option autoImplicit false

structure Coordinate where
  x : Float
  y : Float

/-- A sequence of coordinates: a path, or the ring of a polygon. -/
abbrev Path := List Coordinate

structure Polygon where
  exterior : Path
  interiors : List Path

inductive Geometry where
  | point (place : Coordinate)
  | line (start stop : Coordinate)
  | lineString (path : Path)
  | polygon (area : Polygon)
  | multiPoint (places : List Coordinate)
  | multiLineString (paths : List Path)
  | multiPolygon (areas : List Polygon)
  | collection (members : List Geometry)
  | rect (least greatest : Coordinate)
  | triangle (first second third : Coordinate)

namespace Geometry

/-- What a kind of geometry is called. -/
def kindName : Geometry → String
  | point _ => "Point"
  | line _ _ => "Line"
  | lineString _ => "LineString"
  | polygon _ => "Polygon"
  | multiPoint _ => "MultiPoint"
  | multiLineString _ => "MultiLineString"
  | multiPolygon _ => "MultiPolygon"
  | collection _ => "GeometryCollection"
  | rect _ _ => "Rect"
  | triangle _ _ _ => "Triangle"

/-- The parts of a geometry of several parts, in order; nothing for a geometry
that is one part itself. -/
def parts? : Geometry → Option (List Geometry)
  | multiPoint places => some (places.map point)
  | multiLineString paths => some (paths.map lineString)
  | multiPolygon areas => some (areas.map polygon)
  | collection members => some members
  | _ => none

/-- A geometry of exactly one part stands for that part.  Only one level is
unwrapped. -/
def unwrap (g : Geometry) : Geometry :=
  match g.parts? with
  | some [only] => only
  | _ => g

end Geometry

end GeoFeed

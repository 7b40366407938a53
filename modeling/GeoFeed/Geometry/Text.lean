/-
# GeoFeed.Geometry.Text -- coordinates as text

Feeds name the latitude first: a coordinate is written as its `y`, a space and
its `x`, and the coordinates of a path are written one after the other with a
space between them.
-/
import GeoFeed.Geometry.Basic
import GeoFeed.Decimal.Positional

namespace GeoFeed

set_option autoImplicit false

/-- The two numbers of a coordinate, latitude first. -/
def Coordinate.latLon (c : Coordinate) : String :=
  Decimal.toText c.y ++ " " ++ Decimal.toText c.x

/-- The coordinates of a path in order; nothing is written for an empty path. -/
def Path.latLons (path : Path) : String :=
  String.intercalate " " (path.map Coordinate.latLon)

end GeoFeed

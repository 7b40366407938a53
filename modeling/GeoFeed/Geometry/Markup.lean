/-
# GeoFeed.Geometry.Markup -- what a feed says about a geometry

`Scheme.markup` decides what an entry carries for a geometry; nothing is written
yet.  A geometry of exactly one part is treated as that part.  The simple scheme
has elements for points, paths and polygons, and says nothing about the rest and
about empty paths; of a polygon it tells the exterior ring alone.  The
latitude-longitude scheme needs a centroid and fails where there is none.
-/
import GeoFeed.Geometry.Centroid
import GeoFeed.Gml.Fragment
import GeoFeed.Scheme

namespace GeoFeed

set_option autoImplicit false

/-- What an entry carries for a geometry. -/
inductive Markup where
  /-- An element with latitudes and longitudes. -/
  | simple (element : String) (content : String)
  | latLong (lat lon : Float)
  /-- A fragment that the GML encoder is to write. -/
  | gml (element : Gml.Element) (geometry : Geometry)

/-- Why an entry cannot carry its geometry. -/
inductive GeometryError where
  | noCentroid
deriving Repr, DecidableEq

def GeometryError.message : GeometryError → String
  | noCentroid => "geometry is empty, no centroid can be computed"

namespace Markup

/-- An element with the coordinates of a path, unless the path is empty. -/
def ofPath (element : String) (path : Path) : Option Markup :=
  if path.isEmpty then none else some (.simple element (Path.latLons path))

/-- The simple markup of a geometry, if it has any. -/
def ofSimple : Geometry → Option Markup
  | .point place => some (.simple "georss:point" place.latLon)
  | .lineString path => ofPath "georss:line" path
  | .polygon area => ofPath "georss:polygon" area.exterior
  | _ => none

end Markup

/-- What an entry carries for a geometry under a scheme, if anything. -/
def Scheme.markup (scheme : Scheme) (g : Geometry) : Except GeometryError (Option Markup) :=
  let g := g.unwrap
  match scheme with
  | simple => .ok (Markup.ofSimple g)
  | gml => .ok (some (.gml (Gml.Element.ofGeometry g) g))
  | latLong =>
      match g.centroid? with
      | some centre => .ok (some (.latLong centre.y centre.x))
      | none => .error .noCentroid

end GeoFeed

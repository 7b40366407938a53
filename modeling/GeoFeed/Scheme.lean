/-
# GeoFeed.Scheme -- the ways to write a geometry into a feed

A feed writes all its geometries by one scheme.  Each scheme has a namespace and
the prefix that stands for it in the names of its elements.
-/
import GeoFeed.Text.LetterCase

namespace GeoFeed

set_option autoImplicit false

inductive Scheme where
  /-- GeoRSS Simple: one element with latitudes and longitudes. -/
  | simple
  /-- A GML fragment. -/
  | gml
  /-- The centroid as a latitude and a longitude. -/
  | latLong
deriving Repr, DecidableEq

namespace Scheme

/-- The scheme that a request names; case does not matter, and an unknown name
means `simple`. -/
def ofRequest (name : String) : Scheme :=
  let name := Text.lower name
  if name = "gml" then gml
  else if name = "latlong" then latLong
  else simple

/-- The scheme of exactly this name. -/
def ofName? (name : String) : Option Scheme :=
  if name = "simple" then some simple
  else if name = "gml" then some gml
  else if name = "latlong" then some latLong
  else none

/-- The name of a scheme. -/
def name : Scheme → String
  | simple => "simple"
  | gml => "gml"
  | latLong => "latlong"

/-- The name of a scheme as reports show it. -/
def reportName : Scheme → String
  | simple => "Simple"
  | gml => "Gml"
  | latLong => "LatLong"

/-- The prefix of the scheme's elements. -/
def namespacePrefix : Scheme → String
  | simple => "georss"
  | gml => "gml"
  | latLong => "geo"

/-- The namespace of the scheme's elements. -/
def namespaceUri : Scheme → String
  | simple => "http://www.georss.org/georss"
  | gml => "http://www.opengis.net/gml"
  | latLong => "http://www.w3.org/2003/01/geo/wgs84_pos#"

end Scheme

end GeoFeed

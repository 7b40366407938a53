/-
# GeoFeed.Feature.Basic -- geographic features

A feature has an identifier, named attributes and, usually, a geometry.  Its
attributes are kept by name: setting one replaces any earlier value of that name,
and the order in which they were set is forgotten.
-/
import GeoFeed.Calendar.Reading
import GeoFeed.Calendar.Rfc3339
import GeoFeed.Geometry.Basic
import GeoFeed.NameTable

namespace GeoFeed

set_option autoImplicit false

inductive AttributeValue where
  | bool (value : Bool)
  | integer (value : Int64)
  | float (value : Float)
  | date (value : Calendar.Timestamp)
  | text (value : String)

namespace AttributeValue

/-- A value as text. -/
def toText : AttributeValue → String
  | bool true => "true"
  | bool false => "false"
  | integer value => toString value.toInt
  | float value => Decimal.toText value
  | date value => value.fullText
  | text value => value

/-- A text is a date where it spells one. -/
def ofText (s : String) : AttributeValue :=
  match Calendar.Timestamp.ofText? s with
  | some value => date value
  | none => text s

end AttributeValue

structure Feature where
  id : String
  attributes : NameTable AttributeValue := .empty
  geometry : Option Geometry := none

namespace Feature

/-- Set an attribute. -/
def setAttribute (f : Feature) (name : String) (value : AttributeValue) : Feature :=
  { f with attributes := f.attributes.insert name value }

/-- The value of an attribute. -/
def attribute? (f : Feature) (name : String) : Option AttributeValue :=
  f.attributes.get? name

end Feature

end GeoFeed

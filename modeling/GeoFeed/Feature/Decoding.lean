/-
# GeoFeed.Feature.Decoding -- features from JSON

A record is spelled as an object, whose unknown members are ignored, or as an
array of its fields in their order.  A field without a default must be there,
and an object must not name a known field twice.  A geometry is an object with
one member, named for its kind.

Arrays and objects may be nested to a depth of 127; what is ignored may be
deeper.  The depth that is left is also what the recursion goes down on.
-/
import GeoFeed.Feature.Basic
import GeoFeed.Json.Reader

namespace GeoFeed

set_option autoImplicit false

namespace Json

/-- How deep arrays and objects may be nested. -/
def nestingLimit : Nat := 127

/-- The values of the known fields of an object, each at most once; every name
must be text. -/
def Value.objectFields? (known : List String) :
    List (Option String × Value) → Option (NameTable Value)
  | [] => some .empty
  | (none, _) :: _ => none
  | (some name, value) :: rest => do
      let fields ← objectFields? known rest
      if known.contains name then
        if fields.contains name then none else some (fields.insert name value)
      else some fields

/-- The fields of a record. -/
def Value.fields? (known : List String) : Value → Option (NameTable Value)
  | .object members => objectFields? known members
  | .array items =>
      if items.length ≤ known.length then some (.ofList (known.zip items)) else none
  | _ => none

/-- The text of a string. -/
def Value.text? : Value → Option String
  | .string text => text
  | _ => none

/-- The items of an array that may still be nested `room` deep, each read with
the room that is left. -/
def Value.items? {α : Type} (room : Nat) (read : Nat → Value → Option α) :
    Value → Option (List α)
  | .array items =>
      match room with
      | 0 => none
      | room + 1 => items.mapM (read room)
  | _ => none

end Json

open Json (Value)

def Coordinate.ofJson? (room : Nat) (v : Value) : Option Coordinate := do
  if room = 0 then none
  let fields ← v.fields? ["x", "y"]
  match fields.get? "x", fields.get? "y" with
  | some (.number x), some (.number y) => pure ⟨← x.toFloat?, ← y.toFloat?⟩
  | _, _ => none

def Path.ofJson? (room : Nat) (v : Value) : Option Path :=
  v.items? room Coordinate.ofJson?

def Polygon.ofJson? (room : Nat) (v : Value) : Option Polygon := do
  let inner ← match room with
    | 0 => none
    | inner + 1 => some inner
  let fields ← v.fields? ["exterior", "interiors"]
  let exterior ← fields.get? "exterior"
  let interiors ← fields.get? "interiors"
  pure ⟨← Path.ofJson? inner exterior, ← interiors.items? inner Path.ofJson?⟩

/-- The two coordinates of a record. -/
def Coordinate.pair? (room : Nat) (first second : String) (v : Value) :
    Option (Coordinate × Coordinate) := do
  let inner ← match room with
    | 0 => none
    | inner + 1 => some inner
  let fields ← v.fields? [first, second]
  pure (← Coordinate.ofJson? inner (← fields.get? first),
    ← Coordinate.ofJson? inner (← fields.get? second))

/-- A geometry of one of the kinds that hold no other geometries. -/
def Geometry.ofPayload? (room : Nat) (kind : String) (payload : Value) : Option Geometry :=
  match kind with
  | "Point" => (Coordinate.ofJson? room payload).map .point
  | "Line" => (Coordinate.pair? room "start" "end" payload).map fun (a, b) => .line a b
  | "LineString" => (Path.ofJson? room payload).map .lineString
  | "Polygon" => (Polygon.ofJson? room payload).map .polygon
  | "MultiPoint" => (payload.items? room Coordinate.ofJson?).map .multiPoint
  | "MultiLineString" => (payload.items? room Path.ofJson?).map .multiLineString
  | "MultiPolygon" => (payload.items? room Polygon.ofJson?).map .multiPolygon
  | "Rect" => (Coordinate.pair? room "min" "max" payload).map fun (a, b) => .rect a b
  | "Triangle" =>
      match payload.items? room Coordinate.ofJson? with
      | some [a, b, c] => some (.triangle a b c)
      | _ => none
  | _ => none

/-- A geometry that may still be nested `room` deep. -/
def Geometry.ofJson? : (room : Nat) → Value → Option Geometry
  | room + 2, .object [(some "GeometryCollection", .array members)] =>
      (members.mapM (ofJson? room)).map .collection
  | room + 1, .object [(some kind, payload)] => ofPayload? room kind payload
  | _, _ => none

namespace AttributeValue

/-- A number is an integer where it is spelled as one of 64 bits; a text is a
date where it spells one. -/
def ofJson? : Value → Option AttributeValue
  | .bool value => some (.bool value)
  | .number n =>
      match n.toInt64? with
      | some value => some (.integer value)
      | none => n.toFloat?.map .float
  | .string (some s) => some (ofText s)
  | _ => none

end AttributeValue

namespace Feature

/-- Attributes with their values; of a repeated name the last value stays. -/
def attributesOfJson? (room : Nat) : Value → Option (NameTable AttributeValue)
  | .object members => do
      if room = 0 then none
      let entries ← members.mapM fun (name, value) => do pure (← name, ← AttributeValue.ofJson? value)
      pure (.ofList entries)
  | _ => none

/-- A geometry that may be missing. -/
def geometryOfJson? (room : Nat) : Value → Option (Option Geometry)
  | .null => some none
  | v => (Geometry.ofJson? room v).map some

/-- A feature that may still be nested `room` deep. -/
def ofJson? (room : Nat) (v : Value) : Option Feature := do
  let inner ← match room with
    | 0 => none
    | inner + 1 => some inner
  let fields ← v.fields? ["id", "attributes", "geometry"]
  let id ← (← fields.get? "id").text?
  let attributes ← match fields.get? "attributes" with
    | some value => attributesOfJson? inner value
    | none => some .empty
  let geometry ← match fields.get? "geometry" with
    | some value => geometryOfJson? inner value
    | none => some none
  pure ⟨id, attributes, geometry⟩

/-- The features that bytes spell as a JSON array. -/
def listOfBytes? (bytes : ByteArray) : Option (List Feature) := do
  (← Value.ofBytes? bytes).items? Json.nestingLimit ofJson?

/-- The features that a text spells as a JSON array. -/
def listOfText? (s : String) : Option (List Feature) :=
  listOfBytes? s.toUTF8

end Feature

end GeoFeed

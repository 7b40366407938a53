/-
# GeoFeed.Geometry.Centroid -- the centre of a geometry

The centroid of a geometry is the weighted mean of its pieces of the highest
dimension: areas outweigh lines, and lines outweigh points, however small they
are.  `Balance` is the running sum of weighted places of one dimension; adding a
piece of a higher dimension starts the sum afresh, and a piece of a lower
dimension changes nothing.

Pieces that have collapsed count for what they have become: a ring without area
is a line, a line without length is a point.  A polygon whose holes leave no
weight counts as the line along its edge.

`centroid?` is empty exactly when nothing was ever added.
-/
import GeoFeed.Geometry.Plane

namespace GeoFeed

set_option autoImplicit false

/-- A sum of places of one dimension, each multiplied by its weight. -/
structure Balance where
  dimension : Nat
  weight : Float
  sum : Coordinate

namespace Balance

/-- One place with its weight. -/
def ofPlace (dimension : Nat) (place : Coordinate) (weight : Float) : Balance :=
  ⟨dimension, weight, place.scale weight⟩

/-- Sum two balances of one dimension; the higher dimension prevails otherwise. -/
def add (b c : Balance) : Balance :=
  if b.dimension < c.dimension then c
  else if c.dimension < b.dimension then b
  else ⟨b.dimension, b.weight + c.weight, b.sum.add c.sum⟩

/-- Take a balance away from one of the same dimension; the higher dimension
prevails otherwise. -/
def sub (b c : Balance) : Balance :=
  if b.dimension < c.dimension then c
  else if c.dimension < b.dimension then b
  else ⟨b.dimension, b.weight - c.weight, b.sum.sub c.sum⟩

def mean (b : Balance) : Coordinate :=
  b.sum.shrink b.weight

end Balance

namespace Centroid

/-- What has been added so far. -/
abbrev State := Option Balance

def State.dimensionAtLeast (s : State) (d : Nat) : Bool :=
  match s with
  | none => false
  | some b => d ≤ b.dimension

def add (s : State) (b : Balance) : State :=
  match s with
  | none => some b
  | some a => some (a.add b)

def addPlace (s : State) (place : Coordinate) : State :=
  add s (.ofPlace 0 place 1.0)

def addSegment (s : State) (start stop : Coordinate) : State :=
  if start.sameAs stop then addPlace s start
  else add s (.ofPlace 1 ((start.add stop).shrink 2.0) (stop.sub start).length)

/-- The segments of a path, from each coordinate to the next. -/
def segments (path : Path) : List (Coordinate × Coordinate) :=
  path.zip path.tail

def addSegments (s : State) (path : Path) : State :=
  (segments path).foldl (fun t (start, stop) => addSegment t start stop) s

def addPath (s : State) (path : Path) : State :=
  if s.dimensionAtLeast 2 then s
  else
    match path with
    | [only] => addPlace s only
    | _ => addSegments s path

/-- The segments of a ring as seen from its first coordinate. -/
def shiftedSegments (origin : Coordinate) (ring : Path) : List (Coordinate × Coordinate) :=
  (segments ring).map fun (start, stop) => (start.sub origin, stop.sub origin)

/-- The signed area of a ring; a ring that is not closed, or has fewer than three
coordinates, has none. -/
def signedArea (ring : Path) : Float :=
  match ring, ring.getLast? with
  | first :: _ :: _ :: _, some last =>
      if first.sameAs last then
        (shiftedSegments first ring).foldl (fun t (start, stop) => t + start.cross stop) 0.0 / 2.0
      else 0.0
  | _, _ => 0.0

def addRing (s : State) (ring : Path) : State :=
  match ring with
  | [] => s
  | first :: rest =>
      let area := signedArea ring
      if area == 0.0 then
        if rest.all (·.sameAs first) then addPlace s first else addPath s ring
      else
        let sum := (shiftedSegments first ring).foldl
          (fun t (start, stop) => t.add ((stop.add start).scale (start.cross stop)))
          (Coordinate.mk 0.0 0.0)
        add s (.ofPlace 2 ((sum.shrink (6.0 * area)).add first) area.abs)

def addPolygon (s : State) (p : Polygon) : State :=
  match addRing none p.exterior with
  | none => s
  | some edge =>
      match p.interiors.foldl addRing none with
      | none => add s edge
      | some holes =>
          let left := edge.sub holes
          if left.weight == 0.0 then addPath s p.exterior else add s left

def addRect (s : State) (least greatest : Coordinate) : State :=
  if least.sameAs greatest then addPlace s least
  else if least.x == greatest.x || least.y == greatest.y then
    let s := addSegment s least least
    let s := addSegment s least greatest
    let s := addSegment s greatest greatest
    addSegment s greatest least
  else
    let size := greatest.sub least
    add s (.ofPlace 2 ((greatest.add least).shrink 2.0) (size.x * size.y))

def addTriangle (s : State) (a b c : Coordinate) : State :=
  if Coordinate.isCollinear a b c then
    if a.sameAs b && b.sameAs c then addPlace s a
    else addSegment (addSegment (addSegment s a b) b c) c a
  else
    let turn := ((0.0 + a.cross b) + b.cross c) + c.cross a
    add s (.ofPlace 2 (((a.add b).add c).shrink 3.0) (turn / 2.0).abs)

mutual

/-- Add a geometry, piece by piece. -/
def addGeometry (s : State) : Geometry → State
  | .point place => addPlace s place
  | .line start stop => addSegment s start stop
  | .lineString path => addPath s path
  | .polygon area => addPolygon s area
  | .multiPoint places => if s.dimensionAtLeast 1 then s else places.foldl addPlace s
  | .multiLineString paths => if s.dimensionAtLeast 2 then s else paths.foldl addPath s
  | .multiPolygon areas => areas.foldl addPolygon s
  | .collection members => addMembers s members
  | .rect least greatest => addRect s least greatest
  | .triangle a b c => addTriangle s a b c

/-- Add geometries one after the other. -/
def addMembers (s : State) : List Geometry → State
  | [] => s
  | g :: rest => addMembers (addGeometry s g) rest

end

end Centroid

/-- The centroid of a geometry, if it has any extent.  A point is its own
centroid, and that of a segment or a box is the middle between its ends. -/
def Geometry.centroid? : Geometry → Option Coordinate
  | .point place => some place
  | .line start stop => some ((start.add stop).shrink 2.0)
  | .rect least greatest => some ((greatest.add least).shrink 2.0)
  | g => (Centroid.addGeometry none g).map Balance.mean

end GeoFeed

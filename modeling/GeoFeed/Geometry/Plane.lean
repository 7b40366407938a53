/-
# GeoFeed.Geometry.Plane -- arithmetic of coordinates

Sums, differences and multiples of coordinates, the length of a vector and the
turn of a corner, all in floating point and in a fixed order of operations.

`length` scales very large and very small vectors before squaring, and then
corrects the root of the sum of squares by its own error; a short side that
cannot change the sum is added to the long one instead.

`isCollinear` decides whether three places lie on one line.  The rounded turn of
the corner decides where it is larger than its possible error, and the exact
turn decides elsewhere.
-/
import GeoFeed.Geometry.Basic
import GeoFeed.Decimal.Positional

namespace GeoFeed.Coordinate

set_option autoImplicit false

/-- Equal as numbers: the two zeros are one place, and an undefined number is in
no place. -/
def sameAs (p q : Coordinate) : Bool :=
  p.x == q.x && p.y == q.y

def add (p q : Coordinate) : Coordinate := ⟨p.x + q.x, p.y + q.y⟩

def sub (p q : Coordinate) : Coordinate := ⟨p.x - q.x, p.y - q.y⟩

def scale (p : Coordinate) (factor : Float) : Coordinate := ⟨p.x * factor, p.y * factor⟩

def shrink (p : Coordinate) (divisor : Float) : Coordinate := ⟨p.x / divisor, p.y / divisor⟩

/-- The signed area of the parallelogram that two vectors span. -/
def cross (p q : Coordinate) : Float :=
  p.x * q.y - p.y * q.x

/-! ## The length of a vector -/

/-- The length for sides `long` and `short` whose squares neither overflow nor
vanish. -/
def correctedRoot (long short : Float) : Float :=
  let root := Float.sqrt (long * long + short * short)
  if root ≤ 2.0 * short then
    let excess := root - short
    let first := long * (2.0 * excess - long)
    let second := (excess - 2.0 * (long - short)) * excess
    root - (first + second) / (2.0 * root)
  else
    let excess := root - long
    let first := 2.0 * excess * (long - 2.0 * short)
    let second := (4.0 * excess - short) * short + excess * excess
    root - (first + second) / (2.0 * root)

/-- `2^exponent`, for exponents of normal numbers. -/
def powerOfTwo (exponent : Int) : Float :=
  Float.ofBits (UInt64.ofNat ((exponent + 1023).toNat * Nat.pow 2 52))

/-- The length of a vector. -/
def length (v : Coordinate) : Float :=
  if v.x.isFinite && v.y.isFinite then
    let width := v.x.abs
    let height := v.y.abs
    let long := if width < height then height else width
    let short := if width < height then width else height
    let negligible := powerOfTwo (-54)
    let unit := powerOfTwo (-600)
    if powerOfTwo 511 < long then
      if short ≤ long * negligible then long + short
      else correctedRoot (long * unit) (short * unit) / unit
    else if short < powerOfTwo (-459) then
      if short / negligible ≤ long then long + short
      else correctedRoot (long / unit) (short / unit) * unit
    else if short ≤ long * negligible then long + short
    else correctedRoot long short
  else if v.x.isInf || v.y.isInf then powerOfTwo 1023 * 2.0
  else v.x + v.y

/-! ## The turn of a corner -/

/-- A finite number in units of the smallest positive one; what is not finite
counts as zero. -/
def units (x : Float) : Int :=
  match Decimal.Reading.ofBits x.toBits with
  | .finite negative magnitude =>
      let size := Int.ofNat (magnitude.significand * Nat.pow 2 (magnitude.exponent + 1074).toNat)
      if negative then -size else size
  | _ => 0

/-- Whether the exact turn from `a` over `b`, seen from `c`, is none. -/
def isExactlyStraight (a b c : Coordinate) : Bool :=
  (units a.x - units c.x) * (units b.y - units c.y)
    == (units a.y - units c.y) * (units b.x - units c.x)

/-- Whether three places lie on one line. -/
def isCollinear (a b c : Coordinate) : Bool :=
  let left := (a.x - c.x) * (b.y - c.y)
  let right := (a.y - c.y) * (b.x - c.x)
  let turn := left - right
  let error := 3.3306690621773722e-16 * (left + right).abs
  if error ≤ turn || error ≤ -turn then turn == 0.0
  else isExactlyStraight a b c

end GeoFeed.Coordinate

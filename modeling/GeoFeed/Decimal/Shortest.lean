/-
# GeoFeed.Decimal.Shortest -- the shortest decimal that reads back

A positive magnitude `m * 2^q` of a binary number stands for every real that
rounds to it.  Those reals form an interval around it, with its ends included
exactly when `m` is even.  `shortest` picks the decimal `d * 10^e` of that
interval with the fewest digits: it walks from coarse decimal grids to fine ones
and stops at the first grid with a point in the interval.  On each grid only the
two neighbours of the magnitude need a look, because any point of the interval
has a neighbour between itself and the magnitude.  Of two neighbours in the
interval the nearer one is taken, and the upper one when they are equally near.

All comparisons are exact: both sides are brought to a common denominator and
compared as natural numbers.
-/
namespace GeoFeed.Decimal

set_option autoImplicit false

/-- A finite magnitude `significand * 2^exponent`.  `narrowBelow` says that the
next smaller magnitude is only half as far away as the next larger one. -/
structure Magnitude where
  significand : Nat
  exponent : Int
  narrowBelow : Bool
deriving Repr, DecidableEq

/-- The decimal `digits * 10^exponent`. -/
structure Scaled where
  digits : Nat
  exponent : Int
deriving Repr, DecidableEq

namespace Magnitude

/-- Four times the distances of interest are whole: the magnitude is
`4 * significand`, and the ends of its interval are `lower` and `upper`, all in
units of `2^(exponent - 2)`. -/
def lower (v : Magnitude) : Nat :=
  4 * v.significand - (if v.narrowBelow then 1 else 2)

def upper (v : Magnitude) : Nat :=
  4 * v.significand + 2

/-- The factor of a decimal `10^e` when it is compared with units `2^(exponent - 2)`. -/
def decimalFactor (v : Magnitude) (e : Int) : Nat :=
  Nat.pow 10 e.toNat * Nat.pow 2 (2 - v.exponent).toNat

/-- The factor of those units in the same comparison. -/
def unitFactor (v : Magnitude) (e : Int) : Nat :=
  Nat.pow 2 (v.exponent - 2).toNat * Nat.pow 10 (-e).toNat

/-- Whether `d * 10^e` rounds to the magnitude. -/
def covers (v : Magnitude) (d : Nat) (e : Int) : Bool :=
  let point := d * v.decimalFactor e
  let low := v.lower * v.unitFactor e
  let high := v.upper * v.unitFactor e
  if v.significand % 2 = 0 then low ≤ point && point ≤ high
  else low < point && point < high

/-- The best point of the grid `10^e`, if the interval has one. -/
def onGrid? (v : Magnitude) (e : Int) : Option Scaled :=
  let exact := 4 * v.significand * v.unitFactor e
  let step := v.decimalFactor e
  let below := exact / step
  let above := below + 1
  match v.covers below e, v.covers above e with
  | true, true =>
      if exact - below * step < above * step - exact then some ⟨below, e⟩ else some ⟨above, e⟩
  | true, false => some ⟨below, e⟩
  | false, true => some ⟨above, e⟩
  | false, false => none

/-- A grid at least as coarse as the magnitude is large. -/
def coarsest (v : Magnitude) : Int :=
  (v.exponent + v.significand.log2 + 1) * 30103 / 100000 + 2

/-- Walk from the grid `10^e` to finer ones, at most `steps` of them. -/
def search (v : Magnitude) : (steps : Nat) → (e : Int) → Scaled
  | 0, e => ⟨4 * v.significand * v.unitFactor e / v.decimalFactor e, e⟩
  | steps + 1, e =>
      match v.onGrid? e with
      | some found => found
      | none => search v steps (e - 1)

/-- The decimal with the fewest digits that rounds to the magnitude; seventeen
digits always suffice, and the walk starts at most four grids above the first. -/
def shortest (v : Magnitude) : Scaled :=
  v.search 24 v.coarsest

end Magnitude

end GeoFeed.Decimal

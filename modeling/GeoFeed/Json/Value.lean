/-
# GeoFeed.Json.Value -- JSON values

A JSON value as it was spelled: numbers keep their figures and objects keep all
their members in order, repeated names included.  A string whose bytes are
not UTF-8, or whose escapes name half of a surrogate pair, is no text; it stays
in the value as `none`, so that only a reader who wants the text has to refuse
it.

The number a spelling stands for is found in two steps.  The figures are taken
into one whole number as long as it fits into 64 bits; of the figures after
that, those before the point count as zeros, and those after the point do not
count.  The result is then scaled by a power of ten, in floating point.  A
number too large for that is no number.
-/
namespace GeoFeed.Json

set_option autoImplicit false

/-- The spelling of a number: figures before and after the point, and the power
of ten after the `e`. -/
structure Number where
  negative : Bool
  whole : List Char
  fraction : Option (List Char)
  exponent : Option Int
deriving Repr, DecidableEq

inductive Value where
  | null
  | bool (value : Bool)
  | number (spelling : Number)
  | string (text : Option String)
  | array (items : List Value)
  | object (members : List (Option String × Value))
deriving Repr

namespace Number

/-- The largest whole number of 64 bits. -/
def wordMax : Nat := Nat.pow 2 64 - 1

def figure (c : Char) : Nat := c.toNat - '0'.toNat

/-- Take figures into `n` while it fits; the figures that are left over. -/
def takeFigures (n : Nat) : List Char → Nat × List Char
  | [] => (n, [])
  | c :: rest =>
      let more := n * 10 + figure c
      if more ≤ wordMax then takeFigures more rest else (n, c :: rest)

/-- A whole number and the power of ten it is multiplied by. -/
def significand (n : Number) : Nat × Int :=
  let (whole, zeros) := takeFigures 0 n.whole
  let fraction := n.fraction.getD []
  let (all, dropped) := takeFigures whole fraction
  (all, Int.ofNat zeros.length - Int.ofNat (fraction.length - dropped.length))

/-- `10^n`, for `n` at most 308. -/
def powerOfTen (n : Nat) : Float :=
  Float.ofScientific 1 false n

/-- `x * 10^e`, if it is finite.  Very small factors are applied in steps, of
which the third leaves nothing of any number of 64 bits. -/
def scale (x : Float) (e : Int) : (steps : Nat) → Option Float
  | 0 => some x
  | steps + 1 =>
      if 308 < e then if x == 0.0 then some x else none
      else if 0 ≤ e then
        let scaled := x * powerOfTen e.toNat
        if scaled.isInf then none else some scaled
      else if -308 ≤ e then some (x / powerOfTen (-e).toNat)
      else if x == 0.0 then some x
      else scale (x / powerOfTen 308) (e + 308) steps

/-- The number in floating point, if it is not too large. -/
def toFloat? (n : Number) : Option Float :=
  let (digits, power) := n.significand
  (scale (UInt64.ofNat digits).toFloat (power + n.exponent.getD 0) 4).map fun x =>
    if n.negative then -x else x

/-- The number as a whole number of 64 bits with a sign, if it is spelled as one;
`-0` is not. -/
def toInt64? (n : Number) : Option Int64 :=
  match n.fraction, n.exponent with
  | none, none =>
      let size := Int.ofNat (Nat.ofDigitChars 10 n.whole 0)
      if n.negative then
        if 0 < size ∧ size ≤ Int.ofNat (Nat.pow 2 63) then some (Int64.ofInt (-size)) else none
      else if size < Int.ofNat (Nat.pow 2 63) then some (Int64.ofInt size) else none
  | _, _ => none

end Number

end GeoFeed.Json

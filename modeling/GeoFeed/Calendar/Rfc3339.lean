/-
# GeoFeed.Calendar.Rfc3339 -- time stamps as text

Two spellings of one instant.  `feedText` is what a feed shows: seconds without
a fraction, and the offset in whole minutes, or `Z` where less than a minute is
left of it.  `fullText` is what an attribute shows: the fraction too, with three,
six or nine digits, and the offset always in figures.

A year of four figures is written as such; any other year has its sign and at
least four figures.
-/
import GeoFeed.Calendar.Instant
import GeoFeed.Decimal.Positional

namespace GeoFeed.Calendar

set_option autoImplicit false

/-- A number with zeros in front, up to the given width. -/
def padded (width : Nat) (n : Nat) : List Char :=
  let digits := Decimal.digitsOf n
  List.replicate (width - digits.length) '0' ++ digits

def yearChars (year : Int) : List Char :=
  if 0 ≤ year ∧ year ≤ 9999 then padded 4 year.toNat
  else (if year < 0 then '-' else '+') :: padded 4 year.natAbs

def Date.toChars (d : Date) : List Char :=
  yearChars d.year ++ '-' :: (padded 2 d.month ++ '-' :: padded 2 d.day)

/-- Date and time of day, to the second. -/
def WallClock.toChars (w : WallClock) : List Char :=
  w.date.toChars ++ 'T' :: (padded 2 w.hour ++ ':' :: (padded 2 w.minute ++ ':' :: padded 2 w.second))

/-- Minutes east, as hours and minutes with a sign. -/
def offsetChars (negative : Bool) (minutes : Nat) : List Char :=
  (if negative then '-' else '+') :: (padded 2 (minutes / 60) ++ ':' :: padded 2 (minutes % 60))

/-- The zone as a feed shows it: its offset without the seconds. -/
def Zone.feedChars (z : Zone) : List Char :=
  let minutes := z.offset.natAbs / 60
  if minutes = 0 then ['Z'] else offsetChars (z.offset < 0) minutes

/-- The zone as an attribute shows it: its offset to the nearest minute. -/
def Zone.fullChars (z : Zone) : List Char :=
  offsetChars (z.offset < 0) ((z.offset.natAbs + 30) / 60)

/-- A fraction of a second with the digits it needs, in threes. -/
def fractionChars (nanos : Nat) : List Char :=
  if nanos = 0 then []
  else if nanos % 1000000 = 0 then '.' :: padded 3 (nanos / 1000000)
  else if nanos % 1000 = 0 then '.' :: padded 6 (nanos / 1000)
  else '.' :: padded 9 nanos

namespace Timestamp

/-- The time stamp as a feed shows it. -/
def feedText (t : Timestamp) : String :=
  String.ofList (t.wallClock.toChars ++ t.zone.feedChars)

/-- The time stamp as an attribute shows it. -/
def fullText (t : Timestamp) : String :=
  String.ofList (t.wallClock.toChars ++ fractionChars t.instant.fraction ++ t.zone.fullChars)

end Timestamp

/-- An instant as a feed shows it on the zero meridian. -/
def Instant.utcText (t : Instant) : String :=
  Timestamp.feedText ⟨t, .utc⟩

end GeoFeed.Calendar

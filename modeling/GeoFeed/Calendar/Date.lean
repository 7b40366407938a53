/-
# GeoFeed.Calendar.Date -- days and dates

Dates follow the Gregorian rules for all years, before the first year too: year
zero precedes year one.  `Date.dayNumber` counts the days since the first of
January 1970, and `Date.ofDayNumber` finds the date of a day again.

Years repeat in cycles of four hundred, whose centuries, fours and single years
are counted off one after the other; the last century of a cycle and the last
year of a four are one day longer than the others, which is what the `min`s
below are for.
-/
namespace GeoFeed.Calendar

set_option autoImplicit false

structure Date where
  year : Int
  month : Nat
  day : Nat
deriving Repr, DecidableEq

/-- Whether a year has a twenty-ninth of February. -/
def isLeapYear (year : Int) : Bool :=
  year % 4 == 0 && (year % 100 != 0 || year % 400 == 0)

/-- The lengths of the months of a year. -/
def monthLengths (leap : Bool) : List Nat :=
  [31, if leap then 29 else 28, 31, 30, 31, 30, 31, 31, 30, 31, 30, 31]

/-- The length of a month; no days for a number that names no month. -/
def monthLength (leap : Bool) (month : Nat) : Nat :=
  if month = 0 then 0 else ((monthLengths leap)[month - 1]?).getD 0

/-- The days of a year before one of its months. -/
def daysBeforeMonth (leap : Bool) (month : Nat) : Nat :=
  ((monthLengths leap).take (month - 1)).foldl (· + ·) 0

/-- The days from the first of January of year one to that of the given year. -/
def daysBeforeYear (year : Int) : Int :=
  let past := year - 1
  365 * past + past / 4 - past / 100 + past / 400

/-- The day number of the first of January of year one, negated. -/
def daysToEpoch : Int := 719162

/-- The month and day of a day of the year, counting from zero, where `month` is
the first of the months whose lengths are given. -/
def locateDay (month : Nat) : List Nat → Nat → Nat × Nat
  | length :: rest, day =>
      if day < length then (month, day + 1) else locateDay (month + 1) rest (day - length)
  | [], day => (month, day + 1)

namespace Date

/-- A date that exists. -/
def IsValid (d : Date) : Prop :=
  1 ≤ d.month ∧ d.month ≤ 12 ∧ 1 ≤ d.day ∧ d.day ≤ monthLength (isLeapYear d.year) d.month

instance (d : Date) : Decidable d.IsValid := by
  unfold IsValid
  infer_instance

/-- The days since the first of January 1970. -/
def dayNumber (d : Date) : Int :=
  daysBeforeYear d.year + daysBeforeMonth (isLeapYear d.year) d.month + d.day - 1 - daysToEpoch

/-- The date of a day number. -/
def ofDayNumber (number : Int) : Date :=
  let days := number + daysToEpoch
  let cycles := days / 146097
  let inCycle := days % 146097
  let centuries := min (inCycle / 36524) 3
  let inCentury := inCycle - 36524 * centuries
  let fours := inCentury / 1461
  let inFour := inCentury - 1461 * fours
  let single := min (inFour / 365) 3
  let dayOfYear := inFour - 365 * single
  let year := 400 * cycles + 100 * centuries + 4 * fours + single + 1
  let (month, day) := locateDay 1 (monthLengths (isLeapYear year)) dayOfYear.toNat
  ⟨year, month, day⟩

end Date

end GeoFeed.Calendar

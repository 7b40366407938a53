/-
# GeoFeed.Calendar.Instant -- moments, zones and wall clocks

An instant is a number of seconds since 1970 and a number of nanoseconds.  In
the last second of a minute the nanoseconds may run on for a second more, which
is how a leap second is kept.  Instants cover the years from -262143 to 262142.

A zone is a fixed number of seconds east, by less than a day.  The wall clock of
an instant in a zone shows the date and time of day there; a leap second shows
one second more than its minute has.
-/
import GeoFeed.Calendar.Date

namespace GeoFeed.Calendar

set_option autoImplicit false

/-- The first day of the supported years. -/
def firstDay : Int := (Date.mk (-262143) 1 1).dayNumber

/-- The last day of the supported years. -/
def lastDay : Int := (Date.mk 262142 12 31).dayNumber

structure Instant where
  seconds : Int
  nanos : Nat
  inRange : firstDay ≤ seconds / 86400 ∧ seconds / 86400 ≤ lastDay
  nanos_lt : nanos < 2000000000
  leap : 1000000000 ≤ nanos → seconds % 60 = 59
deriving Repr, DecidableEq

structure Zone where
  offset : Int
  bound : -86400 < offset ∧ offset < 86400
deriving Repr, DecidableEq

/-- The zone of the zero meridian. -/
def Zone.utc : Zone := ⟨0, by decide⟩

/-- The zone of a place at every instant; it may change with the season. -/
abbrev ZoneRule := Instant → Zone

/-- The zone of places that keep the time of the zero meridian. -/
def ZoneRule.utc : ZoneRule := fun _ => .utc

/-- The zone so many seconds east, if it is less than a day away. -/
def Zone.ofOffset? (offset : Int) : Option Zone :=
  if h : -86400 < offset ∧ offset < 86400 then some ⟨offset, h⟩ else none

/-- What a clock shows. -/
structure WallClock where
  date : Date
  hour : Nat
  minute : Nat
  second : Nat
deriving Repr, DecidableEq

namespace Instant

/-- The instant of a count of seconds and nanoseconds, if there is one. -/
def ofUnix? (seconds : Int) (nanos : Nat) : Option Instant :=
  if h : (firstDay ≤ seconds / 86400 ∧ seconds / 86400 ≤ lastDay) ∧ nanos < 2000000000 ∧
      (1000000000 ≤ nanos → seconds % 60 = 59) then
    some ⟨seconds, nanos, h.1, h.2.1, h.2.2⟩
  else none

/-- Whether the instant lies in a leap second. -/
def isLeap (t : Instant) : Bool := 1000000000 ≤ t.nanos

/-- The part of a second that has gone, in nanoseconds. -/
def fraction (t : Instant) : Nat := t.nanos % 1000000000

/-- The clock in a zone at an instant. -/
def wallClock (t : Instant) (zone : Zone) : WallClock :=
  let there := t.seconds + zone.offset
  let ofDay := (there % 86400).toNat
  ⟨Date.ofDayNumber (there / 86400), ofDay / 3600, ofDay / 60 % 60,
    ofDay % 60 + (if t.isLeap then 1 else 0)⟩

end Instant

/-- An instant together with the zone it was given in. -/
structure Timestamp where
  instant : Instant
  zone : Zone
deriving Repr, DecidableEq

def Timestamp.wallClock (t : Timestamp) : WallClock :=
  t.instant.wallClock t.zone

end GeoFeed.Calendar

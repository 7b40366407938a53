/-
# GeoFeed.Calendar.Reading -- reading time stamps

The reader accepts RFC 3339 and more: blanks before every number, before the
marks between them, before the offset and at the very end; months, days, hours,
minutes and seconds of one figure; years of one to four figures, or of any
number of figures after a sign; a space or a small `t` between date and time;
`UTC` or a small `z` for the zero offset; and any run of colons and blanks, or
nothing, inside an offset.

A second of 60 is a leap second.  Of a fraction, nine figures count.  What does
not name an existing date and a time of day within the supported years is
refused.
-/
import GeoFeed.Calendar.Instant
import GeoFeed.Text.Blank

namespace GeoFeed.Calendar

set_option autoImplicit false

namespace Reading

/-- The value of decimal figures. -/
def figures (cs : List Char) : Nat :=
  Nat.ofDigitChars 10 cs 0

/-- A number of at most `width` figures at the front, without blanks before it. -/
def number? (width : Nat) (cs : List Char) : Option (Nat × List Char) :=
  let digits := (cs.take width).takeWhile Char.isDigit
  if digits.isEmpty then none else some (figures digits, cs.drop digits.length)

/-- A number of any width at the front. -/
def longNumber? (cs : List Char) : Option (Nat × List Char) :=
  number? cs.length cs

/-- A number of one or two figures, after blanks. -/
def short? (cs : List Char) : Option (Nat × List Char) :=
  number? 2 (Text.trimFront cs)

/-- A year, after blanks. -/
def year? (cs : List Char) : Option (Int × List Char) :=
  match Text.trimFront cs with
  | '-' :: rest => (longNumber? rest).map fun (n, rest) => (-(n : Int), rest)
  | '+' :: rest => (longNumber? rest).map fun (n, rest) => ((n : Int), rest)
  | rest => (number? 4 rest).map fun (n, rest) => ((n : Int), rest)

/-- A mark, after blanks. -/
def mark? (mark : Char) (cs : List Char) : Option (List Char) :=
  match Text.trimFront cs with
  | c :: rest => if c = mark then some rest else none
  | [] => none

/-- The fraction of a second in nanoseconds; none is zero. -/
def fraction? : List Char → Option (Nat × List Char)
  | '.' :: rest => do
      let (value, after) ← number? 9 rest
      let width := rest.length - after.length
      pure (value * Nat.pow 10 (9 - width), after.dropWhile Char.isDigit)
  | rest => some (0, rest)

/-- The two figures of the minutes of an offset. -/
def offsetMinutes? : List Char → Option (Nat × List Char)
  | tens :: ones :: rest =>
      if '0' ≤ tens && tens ≤ '5' && ones.isDigit then some (figures [tens, ones], rest) else none
  | _ => none

/-- An offset in seconds, after its sign. -/
def unsignedOffset? : List Char → Option (Nat × List Char)
  | tens :: ones :: rest =>
      if tens.isDigit && ones.isDigit then do
        let separated := rest.dropWhile fun c => c == ':' || Text.isBlank c
        let (minutes, rest) ← offsetMinutes? separated
        pure (figures [tens, ones] * 3600 + minutes * 60, rest)
      else none
  | _ => none

/-- An offset in seconds east. -/
def offset? : List Char → Option (Int × List Char)
  | 'Z' :: rest => some (0, rest)
  | 'z' :: rest => some (0, rest)
  | '+' :: rest => (unsignedOffset? rest).map fun (n, rest) => ((n : Int), rest)
  | '-' :: rest => (unsignedOffset? rest).map fun (n, rest) => (-(n : Int), rest)
  | '\u2212' :: rest => (unsignedOffset? rest).map fun (n, rest) => (-(n : Int), rest)
  | a :: b :: c :: rest =>
      if [a, b, c].map Char.toUpper = ['U', 'T', 'C'] then some (0, rest) else none
  | _ => none

/-- The fields of a time stamp. -/
structure Fields where
  date : Date
  hour : Nat
  minute : Nat
  second : Nat
  nanos : Nat
  offset : Int
deriving Repr, DecidableEq

/-- The fields of a text, whether or not they name a time. -/
def fields? (cs : List Char) : Option Fields := do
  let (year, cs) ← year? cs
  let cs ← mark? '-' cs
  let (month, cs) ← short? cs
  let cs ← mark? '-' cs
  let (day, cs) ← short? cs
  let cs ← match cs with
    | c :: rest => if c = 'T' ∨ c = 't' ∨ c = ' ' then some rest else none
    | [] => none
  let (hour, cs) ← short? cs
  let cs ← mark? ':' cs
  let (minute, cs) ← short? cs
  let cs ← mark? ':' cs
  let (second, cs) ← short? cs
  let (nanos, cs) ← fraction? cs
  let (offset, cs) ← offset? (Text.trimFront cs)
  if (Text.trimFront cs).isEmpty then pure ⟨⟨year, month, day⟩, hour, minute, second, nanos, offset⟩
  else none

/-- The seconds since 1970 that a clock without an offset shows, not counting a
leap second. -/
def Fields.clockSeconds (f : Fields) : Int :=
  f.date.dayNumber * 86400 + (f.hour * 3600 + f.minute * 60 + min f.second 59 : Nat)

/-- The time stamp that the fields name, if there is one. -/
def Fields.timestamp? (f : Fields) : Option Timestamp :=
  if f.date.IsValid ∧ firstDay ≤ f.date.dayNumber ∧ f.date.dayNumber ≤ lastDay ∧
      f.hour ≤ 23 ∧ f.minute ≤ 59 ∧ f.second ≤ 60 then do
    let zone ← Zone.ofOffset? f.offset
    let instant ← Instant.ofUnix? (f.clockSeconds - f.offset)
      (f.nanos + (if f.second = 60 then 1000000000 else 0))
    pure ⟨instant, zone⟩
  else none

end Reading

/-- The time stamp that a text spells, if it does. -/
def Timestamp.ofText? (s : String) : Option Timestamp :=
  Reading.fields? s.toList >>= Reading.Fields.timestamp?

end GeoFeed.Calendar

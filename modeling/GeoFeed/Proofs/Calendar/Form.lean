/-
# GeoFeed.Proofs.Calendar.Form -- the form of a time in a feed

RFC 3339 writes a time as a year of four figures, then month, day, hour, minute and second
of two figures each with marks between them, and then `Z` or a sign with hours and minutes
(`IsRfc3339`).  A feed keeps to this in everything but the year.  A year below zero or above
9999 has a sign and at least four figures (`YearText`), which no such time may have: so the
form is met exactly for the years from 0 to 9999 on the clock of the zone
(`isRfc3339_feedText_iff`).

An offset is written in figures only if a minute is left of it, so it is never `-00:00`.
-/
import GeoFeed.Proofs.Calendar.Telling

namespace GeoFeed.Calendar

set_option autoImplicit false

/-- Exactly so many figures. -/
def Figures (count : Nat) (cs : List Char) : Prop :=
  cs.length = count ∧ ∀ c ∈ cs, c.isDigit = true

/-- A time with the given forms of the year and of the zone. -/
def IsTime (year zone : List Char → Prop) (cs : List Char) : Prop :=
  ∃ y month day hour minute second z,
    cs = y ++ '-' :: (month ++ '-' :: (day ++ 'T' :: (hour ++ ':' :: (minute ++ ':' :: (second ++ z))))) ∧
    year y ∧ Figures 2 month ∧ Figures 2 day ∧ Figures 2 hour ∧ Figures 2 minute ∧
    Figures 2 second ∧ zone z

/-- The letter `Z`, or a sign with two figures, a colon and two figures, but not `-00:00`. -/
def ZoneText (cs : List Char) : Prop :=
  cs = ['Z'] ∨
  ((∃ sign hours minutes, (sign = '+' ∨ sign = '-') ∧ Figures 2 hours ∧ Figures 2 minutes ∧
    cs = sign :: (hours ++ ':' :: minutes)) ∧ cs ≠ "-00:00".toList)

/-- The form of RFC 3339, to the second. -/
def IsRfc3339 : List Char → Prop := IsTime (Figures 4) ZoneText

/-- A year as a feed writes it: four figures, or else its sign and at least four figures. -/
def YearText (year : Int) (cs : List Char) : Prop :=
  if 0 ≤ year ∧ year ≤ 9999 then Figures 4 cs
  else ∃ figures, cs = (if year < 0 then '-' else '+') :: figures ∧ 4 ≤ figures.length ∧
    ∀ c ∈ figures, c.isDigit = true

theorem figures_padded {width n : Nat} (wide : 0 < width) (small : n < 10 ^ width) :
    Figures width (padded width n) :=
  ⟨length_padded wide small, fun _ => isDigit_of_mem_padded⟩

theorem yearText_yearChars (year : Int) : YearText year (yearChars year) := by
  rw [YearText, yearChars]
  split
  · exact figures_padded (by decide) (by omega)
  · exact ⟨_, rfl, le_length_padded 4 _, fun _ => isDigit_of_mem_padded⟩

/-- Numbers that are spelled `00` are zero. -/
theorem eq_zero_of_padded {n : Nat} (spelled : padded 2 n = ['0', '0']) : n = 0 := by
  rw [← Reading.figures_padded 2 n, spelled]
  rfl

theorem zoneText_feedChars (zone : Zone) : ZoneText zone.feedChars := by
  have names := Instant.namesZone_feedChars zone
  by_cases short : zone.offset.natAbs < 60
  · exact .inl (names.letter.2 short)
  · right
    obtain ⟨hours, minutes, few, small, total, -, -, spelled⟩ := names.figures (by omega)
    rw [spelled]
    constructor
    · refine ⟨_, _, _, ?_, figures_padded (by decide) (show hours < 10 ^ 2 by omega),
        figures_padded (by decide) (show minutes < 10 ^ 2 by omega), rfl⟩
      split
      · exact .inr rfl
      · exact .inl rfl
    · intro zero
      have shape : "-00:00".toList = '-' :: (['0', '0'] ++ ':' :: ['0', '0']) := rfl
      rw [shape] at zero
      obtain ⟨first, second⟩ := List.append_inj (List.cons.inj zero).2
        (length_padded (by decide) (show hours < 10 ^ 2 by omega))
      have noHours := eq_zero_of_padded first
      have noMinutes := eq_zero_of_padded (List.cons.inj second).2
      omega

/-- What a time of the one form and of the other is. -/
theorem IsTime.mono {year year' zone zone' : List Char → Prop} {cs : List Char}
    (time : IsTime year zone cs) (years : ∀ y, year y → year' y) (zones : ∀ z, zone z → zone' z) :
    IsTime year' zone' cs := by
  obtain ⟨y, month, day, hour, minute, second, z, shape, first, m, d, h, mi, s, last⟩ := time
  exact ⟨y, month, day, hour, minute, second, z, shape, years y first, m, d, h, mi, s, zones z last⟩

/-- A time whose year has figures only begins with a figure. -/
theorem IsTime.head_isDigit {zone : List Char → Prop} {cs : List Char}
    (time : IsTime (Figures 4) zone cs) : ∃ c rest, cs = c :: rest ∧ c.isDigit = true := by
  obtain ⟨y, _, _, _, _, _, _, rfl, ⟨long, digits⟩, -⟩ := time
  cases y with
  | nil => cases long
  | cons c y => exact ⟨c, _, rfl, digits c List.mem_cons_self⟩

/-- **A time in a feed has the form of RFC 3339 but for the year.** -/
theorem isTime_feedText (t : Instant) (zone : Zone) {zoneText : List Char → Prop}
    (named : zoneText zone.feedChars) :
    IsTime (YearText (t.wallClock zone).date.year) zoneText (Timestamp.feedText ⟨t, zone⟩).toList := by
  have fits := t.fits_wallClock zone
  refine ⟨_, _, _, _, _, _, _, ?_, yearText_yearChars _, figures_padded (by decide) fits.month,
    figures_padded (by decide) fits.day, figures_padded (by decide) fits.hour,
    figures_padded (by decide) fits.minute, figures_padded (by decide) fits.second, named⟩
  rw [Timestamp.feedText, String.toList_ofList]
  simp [Timestamp.wallClock, WallClock.toChars, Date.toChars]

/-- A year has four figures exactly if it needs no more and no sign. -/
theorem isTime_feedText_iff (t : Instant) (zone : Zone) {zoneText : List Char → Prop}
    (named : zoneText zone.feedChars) :
    IsTime (Figures 4) zoneText (Timestamp.feedText ⟨t, zone⟩).toList ↔
      0 ≤ (t.wallClock zone).date.year ∧ (t.wallClock zone).date.year ≤ 9999 := by
  have time := isTime_feedText t zone named
  constructor
  · intro four
    obtain ⟨c, rest, begins, digit⟩ := four.head_isDigit
    apply Decidable.byContradiction
    intro uncommon
    obtain ⟨y, _, _, _, _, _, _, shape, year, -⟩ := time
    rw [YearText, if_neg uncommon] at year
    obtain ⟨figures, rfl, -⟩ := year
    have same := (List.cons.inj (begins.symm.trans shape)).1
    subst same
    split at digit <;> cases digit
  · intro common
    refine time.mono ?_ fun _ => id
    intro y year
    rwa [YearText, if_pos common] at year

/-- **The form of RFC 3339 is met for the years that have four figures**, and for no other. -/
theorem isRfc3339_feedText_iff (t : Instant) (zone : Zone) :
    IsRfc3339 (Timestamp.feedText ⟨t, zone⟩).toList ↔
      0 ≤ (t.wallClock zone).date.year ∧ (t.wallClock zone).date.year ≤ 9999 :=
  isTime_feedText_iff t zone (zoneText_feedChars zone)

end GeoFeed.Calendar

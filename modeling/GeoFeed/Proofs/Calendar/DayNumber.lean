/-
# GeoFeed.Proofs.Calendar.DayNumber -- dates and day numbers

Day numbers count days from the first of January 1970, for every year, before the first
year too.  `Date.ofDayNumber` inverts the count.  It writes a number of days as so many cycles of 400
years, centuries, fours and single years (`Parts`), of which the count of the days before a
year is a sum (`Parts.daysBeforeYear`).  The year so found is a leap year if its days may be
one more than 365, so the day is one of that year, and the months are counted off.

Main statements: `Date.isValid_ofDayNumber`, `Date.dayNumber_ofDayNumber`.
-/
import Mathlib.Algebra.GroupWithZero.Nat
import GeoFeed.Calendar.Date

namespace GeoFeed.Calendar

set_option autoImplicit false

/-! ## Months -/

theorem length_monthLengths (leap : Bool) : (monthLengths leap).length = 12 := rfl

theorem sum_monthLengths (leap : Bool) :
    (monthLengths leap).sum = 365 + if leap then 1 else 0 := by
  cases leap <;> rfl

theorem daysBeforeMonth_eq_sum (leap : Bool) (month : Nat) :
    daysBeforeMonth leap month = ((monthLengths leap).take (month - 1)).sum := by
  rw [daysBeforeMonth, List.sum_eq_foldl]

/-- The days before a month are those before the month that it follows, and the days of
that. -/
theorem daysBeforeMonth_succ (leap : Bool) {month : Nat} (named : 1 ≤ month ∧ month ≤ 12) :
    daysBeforeMonth leap (month + 1) = daysBeforeMonth leap month + monthLength leap month := by
  obtain ⟨least, greatest⟩ := named
  have all : ∀ leap, ∀ m ∈ List.range 12,
      daysBeforeMonth leap (m + 1 + 1) = daysBeforeMonth leap (m + 1) + monthLength leap (m + 1) := by
    decide
  have here := all leap (month - 1) (List.mem_range.2 (by omega))
  rwa [Nat.sub_add_cancel least] at here

/-- A month is over before a later one begins, or the year is. -/
theorem daysBeforeMonth_add_le (leap : Bool) {month later : Nat} (named : 1 ≤ month ∧ month ≤ 12)
    (order : month < later) (last : later ≤ 13) :
    daysBeforeMonth leap month + monthLength leap month ≤ daysBeforeMonth leap later := by
  rw [← daysBeforeMonth_succ leap named]
  have all : ∀ leap, ∀ m ∈ List.range 14, ∀ n ∈ List.range 14, m ≤ n →
      daysBeforeMonth leap m ≤ daysBeforeMonth leap n := by
    decide
  exact all leap (month + 1) (List.mem_range.2 (by omega)) later (List.mem_range.2 (by omega)) order

/-- The months of a year are all over after its last. -/
theorem daysBeforeMonth_thirteen (leap : Bool) :
    daysBeforeMonth leap 13 = (monthLengths leap).sum := by
  cases leap <;> rfl

/-- Where a day is found among months, counted from the number of the first of them. -/
theorem locateDay_spec {lengths : List Nat} (month : Nat) {day : Nat} (within : day < lengths.sum) :
    ∃ k of, locateDay month lengths day = (month + k, of) ∧ k < lengths.length ∧ 1 ≤ of ∧
      of ≤ lengths[k]?.getD 0 ∧ (lengths.take k).sum + of = day + 1 := by
  induction lengths generalizing month day with
  | nil => simp at within
  | cons length rest ih =>
      rw [List.sum_cons] at within
      by_cases here : day < length
      · refine ⟨0, day + 1, ?_, by simp, by omega, ?_, by simp⟩
        · rw [locateDay, if_pos here]
          rfl
        · rw [List.getElem?_cons_zero, Option.getD_some]
          omega
      · obtain ⟨k, of, found, short, least, greatest, total⟩ := ih (month + 1)
          (show day - length < rest.sum by omega)
        refine ⟨k + 1, of, ?_, by simpa using short, least, by simpa using greatest, ?_⟩
        · rw [locateDay, if_neg here, found, Nat.add_assoc, Nat.add_comm 1]
        · rw [List.take_succ_cons, List.sum_cons]
          omega

/-! ## Years -/

theorem isLeapYear_iff (year : Int) :
    isLeapYear year = true ↔ year % 4 = 0 ∧ (year % 100 ≠ 0 ∨ year % 400 = 0) := by
  simp [isLeapYear]

/-- The first of January of the next year is as many days away as the year is long. -/
theorem daysBeforeYear_succ (year : Int) :
    daysBeforeYear (year + 1) = daysBeforeYear year + (monthLengths (isLeapYear year)).sum := by
  rw [sum_monthLengths, daysBeforeYear, daysBeforeYear]
  by_cases leap : isLeapYear year = true
  · have rule := (isLeapYear_iff year).1 leap
    rw [if_pos leap]
    omega
  · have rule := mt (isLeapYear_iff year).2 leap
    rw [if_neg leap]
    omega

theorem daysBeforeYear_mono {year later : Int} (order : year ≤ later) :
    daysBeforeYear year ≤ daysBeforeYear later := by
  simp only [daysBeforeYear]
  omega

/-- Counts of 400 years, of centuries, fours and single years left of them, and of days. -/
structure Parts where
  cycles : Int
  centuries : Int
  fours : Int
  single : Int
  days : Int

namespace Parts

/-- The parts of a number of days since the first of January of year one. -/
def ofDays (days : Int) : Parts :=
  let inCycle := days % 146097
  let centuries := min (inCycle / 36524) 3
  let inCentury := inCycle - 36524 * centuries
  let inFour := inCentury - 1461 * (inCentury / 1461)
  let single := min (inFour / 365) 3
  ⟨days / 146097, centuries, inCentury / 1461, single, inFour - 365 * single⟩

/-- The years that are over. -/
def past (p : Parts) : Int := 400 * p.cycles + 100 * p.centuries + 4 * p.fours + p.single

/-- Parts that are none too large.  The day after the 365th is in the last of four years,
and in the last four of a century only if the century is the last of its cycle. -/
structure Fits (p : Parts) : Prop where
  centuries : 0 ≤ p.centuries ∧ p.centuries ≤ 3
  fours : 0 ≤ p.fours ∧ p.fours ≤ 24
  single : 0 ≤ p.single ∧ p.single ≤ 3
  days : 0 ≤ p.days ∧ p.days ≤ 365
  last : p.days = 365 → p.single = 3 ∧ (p.fours = 24 → p.centuries = 3)

theorem fits_ofDays (days : Int) : (ofDays days).Fits := by
  constructor <;> simp only [ofDays] <;> omega

/-- The parts make up the days. -/
theorem total_ofDays (days : Int) :
    146097 * (ofDays days).cycles + 36524 * (ofDays days).centuries + 1461 * (ofDays days).fours
      + 365 * (ofDays days).single + (ofDays days).days = days := by
  simp only [ofDays]
  omega

theorem daysBeforeYear {p : Parts} (fits : p.Fits) :
    Calendar.daysBeforeYear (p.past + 1)
      = 146097 * p.cycles + 36524 * p.centuries + 1461 * p.fours + 365 * p.single := by
  obtain ⟨centuries, fours, single, -, -⟩ := fits
  simp only [Calendar.daysBeforeYear, past]
  omega

/-- The day is one of the year. -/
theorem days_lt {p : Parts} (fits : p.Fits) :
    p.days.toNat < (monthLengths (isLeapYear (p.past + 1))).sum := by
  obtain ⟨centuries, fours, single, days, last⟩ := fits
  rw [sum_monthLengths]
  by_cases ordinary : p.days < 365
  · omega
  · obtain ⟨final, century⟩ := last (by omega)
    have leap : isLeapYear (p.past + 1) = true := by
      rw [isLeapYear_iff, past]
      omega
    rw [leap, if_pos rfl]
    omega

end Parts

namespace Date

theorem isValid_iff (d : Date) :
    d.IsValid ↔ (1 ≤ d.month ∧ d.month ≤ 12) ∧ 1 ≤ d.day ∧
      d.day ≤ monthLength (isLeapYear d.year) d.month := by
  rw [IsValid, and_assoc]

/-! ## Counting on -/

/-! ## Finding the date again -/

theorem ofDayNumber_eq (number : Int) :
    ofDayNumber number =
      let p := Parts.ofDays (number + daysToEpoch)
      let found := locateDay 1 (monthLengths (isLeapYear (p.past + 1))) p.days.toNat
      ⟨p.past + 1, found.1, found.2⟩ := rfl

theorem ofDayNumber_spec (number : Int) :
    (ofDayNumber number).IsValid ∧ (ofDayNumber number).dayNumber = number := by
  rw [ofDayNumber_eq]
  have fits := Parts.fits_ofDays (number + daysToEpoch)
  have total := Parts.total_ofDays (number + daysToEpoch)
  generalize Parts.ofDays (number + daysToEpoch) = p at fits total
  obtain ⟨k, of, found, short, least, greatest, day⟩ :=
    locateDay_spec 1 (Parts.days_lt fits)
  have month : 1 + k - 1 = k := by omega
  rw [length_monthLengths] at short
  simp only [found]
  constructor
  · rw [isValid_iff]
    dsimp only
    refine ⟨⟨by omega, by omega⟩, least, ?_⟩
    simpa only [monthLength, month, if_neg (show ¬ 1 + k = 0 by omega)] using greatest
  · simp only [dayNumber, daysBeforeMonth_eq_sum, month, Parts.daysBeforeYear fits]
    have positive := fits.days.1
    omega

/-- **The date of a day exists.** -/
theorem isValid_ofDayNumber (number : Int) : (ofDayNumber number).IsValid :=
  (ofDayNumber_spec number).1

/-- **The date of a day has the number of the day.** -/
theorem dayNumber_ofDayNumber (number : Int) : (ofDayNumber number).dayNumber = number :=
  (ofDayNumber_spec number).2

/-- A day is none before the first of January of its year, and one before that of the next. -/
theorem dayNumber_bounds {d : Date} (valid : d.IsValid) :
    daysBeforeYear d.year ≤ d.dayNumber + daysToEpoch ∧
      d.dayNumber + daysToEpoch < daysBeforeYear (d.year + 1) := by
  obtain ⟨named, least, greatest⟩ := (isValid_iff d).1 valid
  have year := daysBeforeYear_succ d.year
  have within := daysBeforeMonth_add_le (isLeapYear d.year) named (show d.month < 13 by omega)
    (Nat.le_refl 13)
  rw [daysBeforeMonth_thirteen] at within
  simp only [dayNumber]
  omega

theorem dayNumber_injective {d e : Date} (valid : d.IsValid) (valid' : e.IsValid)
    (same : d.dayNumber = e.dayNumber) : d = e := by
  have bounds := dayNumber_bounds valid
  have bounds' := dayNumber_bounds valid'
  obtain ⟨named, least, greatest⟩ := (isValid_iff d).1 valid
  obtain ⟨named', least', greatest'⟩ := (isValid_iff e).1 valid'
  obtain ⟨year, month, day⟩ := d
  obtain ⟨year', month', day'⟩ := e
  dsimp only at bounds bounds' named named' least least' greatest greatest'
  -- a year that is over is over on every day of a later year
  have years : ¬ year < year' ∧ ¬ year' < year := by
    constructor
    · intro earlier
      have := daysBeforeYear_mono (show year + 1 ≤ year' by omega)
      omega
    · intro earlier
      have := daysBeforeYear_mono (show year' + 1 ≤ year by omega)
      omega
  obtain rfl : year = year' := by omega
  simp only [dayNumber] at same
  have months : ¬ month < month' ∧ ¬ month' < month := by
    constructor
    · intro earlier
      have := daysBeforeMonth_add_le (isLeapYear year) named earlier (by omega)
      omega
    · intro earlier
      have := daysBeforeMonth_add_le (isLeapYear year) named' earlier (by omega)
      omega
  obtain rfl : month = month' := by omega
  obtain rfl : day = day' := by omega
  rfl

/-- **A date is found again by its number.** -/
theorem ofDayNumber_dayNumber {d : Date} (valid : d.IsValid) : ofDayNumber d.dayNumber = d :=
  dayNumber_injective (isValid_ofDayNumber _) valid (dayNumber_ofDayNumber _)

end Date

end GeoFeed.Calendar

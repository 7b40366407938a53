/-
# GeoFeed.Proofs.Calendar.Telling -- the time that a feed tells

A feed shows the clock of a zone to the second, and the offset of the zone to the minute,
with what is less than a minute cut off (`Zone.wholeMinutes`).  Read back, the clock is the
one that was shown (`Shows`), so the instant is found but for the seconds that the offset
has lost: it is moved by less than a minute, and not at all where the offset is in whole
minutes, on the zero meridian for one.

The clock is a matter of dates and day numbers.  The seconds since 1970 that it shows are
those of the instant and the offset together (`clockSeconds_shown`), for all years.  A leap
second is shown as second 60 where the offset is in whole minutes, because only then it is
the last of a minute on the clock too.

Main statement: `Instant.feedText_tells`.
-/
import GeoFeed.Proofs.Calendar.DayNumber
import GeoFeed.Proofs.Calendar.Spelling

namespace GeoFeed.Calendar

set_option autoImplicit false

/-! ## Supported years -/

/-- A date within the years of all instants. -/
def Date.Supported (d : Date) : Prop := -262143 ≤ d.year ∧ d.year ≤ 262142

instance (d : Date) : Decidable d.Supported := by
  unfold Date.Supported
  infer_instance

theorem Date.supported_iff {d : Date} (valid : d.IsValid) :
    d.Supported ↔ firstDay ≤ d.dayNumber ∧ d.dayNumber ≤ lastDay := by
  have bounds := dayNumber_bounds valid
  have first : firstDay + daysToEpoch = daysBeforeYear (-262143) := by decide
  have last : lastDay + daysToEpoch + 1 = daysBeforeYear 262143 := by decide
  rw [Supported]
  constructor
  · rintro ⟨least, greatest⟩
    have := daysBeforeYear_mono least
    have := daysBeforeYear_mono (show d.year + 1 ≤ 262143 by omega)
    omega
  · rintro ⟨least, greatest⟩
    constructor
    · apply Int.not_lt.1
      intro earlier
      have := daysBeforeYear_mono (show d.year + 1 ≤ -262143 by omega)
      omega
    · apply Int.not_lt.1
      intro later
      have := daysBeforeYear_mono (show 262143 ≤ d.year by omega)
      omega

/-! ## Whole minutes -/

namespace Zone

/-- An offset without its seconds has the minutes that its size has, and its sign. -/
theorem tdiv_sixty (offset : Int) :
    offset.tdiv 60 * 60
      = if offset < 0 then -((offset.natAbs / 60 * 60 : Nat) : Int)
        else ((offset.natAbs / 60 * 60 : Nat) : Int) := by
  obtain ⟨n, rfl | rfl⟩ := Int.eq_nat_or_neg offset
  · have east : (n : Int).tdiv 60 = (n / 60 : Nat) := rfl
    rw [east, Int.natAbs_natCast]
    split <;> omega
  · have east : (n : Int).tdiv 60 = (n / 60 : Nat) := rfl
    rw [Int.neg_tdiv, east, Int.natAbs_neg, Int.natAbs_natCast]
    split <;> omega

/-- The zone of whole minutes that a feed names in place of a zone. -/
def wholeMinutes (z : Zone) : Zone where
  offset := z.offset.tdiv 60 * 60
  bound := by
    have bound := z.bound
    rw [tdiv_sixty]
    split <;> omega

theorem wholeMinutes_offset (z : Zone) : z.wholeMinutes.offset = z.offset.tdiv 60 * 60 := rfl

/-- What an offset loses is less than a minute and has its sign. -/
theorem wholeMinutes_near (z : Zone) :
    (0 ≤ z.offset → 0 ≤ z.offset - z.wholeMinutes.offset ∧
      z.offset - z.wholeMinutes.offset < 60 ∧ 0 ≤ z.wholeMinutes.offset) ∧
    (z.offset < 0 → z.offset - z.wholeMinutes.offset ≤ 0 ∧
      -60 < z.offset - z.wholeMinutes.offset ∧ z.wholeMinutes.offset ≤ 0) := by
  rw [wholeMinutes_offset, tdiv_sixty]
  split <;> omega

theorem wholeMinutes_eq_iff (z : Zone) : z.wholeMinutes.offset = z.offset ↔ z.offset % 60 = 0 := by
  rw [wholeMinutes_offset, tdiv_sixty]
  split <;> omega

theorem ext_offset {z z' : Zone} (same : z.offset = z'.offset) : z = z' := by
  cases z
  cases z'
  cases same
  rfl

/-- A zone begins with its letter or its sign, so there is no fraction. -/
theorem fraction?_feedChars (z : Zone) :
    Reading.fraction? z.feedChars = some (0, z.feedChars) := by
  rw [feedChars]
  split
  · rfl
  · rw [offsetChars]
    split <;> rfl

/-- **The offset that a feed names is read without its seconds.** -/
theorem offset?_feedChars (z : Zone) :
    Reading.offset? (Text.trimFront z.feedChars) = some (z.wholeMinutes.offset, []) := by
  have bound := z.bound
  rw [wholeMinutes_offset, tdiv_sixty, feedChars]
  split
  · rename_i none_
    rw [none_]
    split <;> rfl
  · rw [Reading.offset?_offsetChars _ (by omega)]
    simp only [decide_eq_true_eq]

end Zone

/-! ## The clock -/

/-- Fields that name an existing date and a time of day, so many seconds after 1970 began. -/
structure Reading.Fields.Shows (f : Reading.Fields) (seconds : Int) : Prop where
  date : f.date.IsValid
  hour : f.hour < 24
  minute : f.minute < 60
  second : f.second < 60
  total : f.date.dayNumber * 86400 + f.hour * 3600 + f.minute * 60 + f.second = seconds

/-- How an offset is named behind a clock: by `Z` if it is less than a minute, and else by its
sign and its hours and minutes in two figures each. -/
structure NamesZone (suffix : List Char) (offset : Int) : Prop where
  letter : suffix = ['Z'] ↔ offset.natAbs < 60
  figures : 60 ≤ offset.natAbs → ∃ hours minutes, hours < 24 ∧ minutes < 60 ∧
    hours * 60 + minutes = offset.natAbs / 60 ∧
    (padded 2 hours).length = 2 ∧ (padded 2 minutes).length = 2 ∧
    suffix = (if offset < 0 then '-' else '+') :: (padded 2 hours ++ ':' :: padded 2 minutes)

namespace Instant

/-- The instant cut to the second. -/
def toSecond (t : Instant) : Instant where
  seconds := t.seconds
  nanos := if t.isLeap then 1000000000 else 0
  inRange := t.inRange
  nanos_lt := by split <;> omega
  leap := by
    intro long
    split at long
    · rename_i leap
      exact t.leap (by simpa [isLeap] using leap)
    · omega

theorem ext_seconds {t t' : Instant} (seconds : t.seconds = t'.seconds) (nanos : t.nanos = t'.nanos) :
    t = t' := by
  cases t
  cases t'
  cases seconds
  cases nanos
  rfl

/-- The fields that a feed shows of an instant in a zone. -/
def shown (t : Instant) (zone : Zone) : Reading.Fields :=
  let clock := t.wallClock zone
  ⟨clock.date, clock.hour, clock.minute, clock.second, 0, zone.wholeMinutes.offset⟩

theorem fits_wallClock (t : Instant) (zone : Zone) : (t.wallClock zone).Fits := by
  have valid := (Date.isValid_iff _).1 (Date.isValid_ofDayNumber ((t.seconds + zone.offset) / 86400))
  obtain ⟨⟨-, month⟩, -, day⟩ := valid
  have long : ∀ leap, ∀ m ∈ List.range 13, monthLength leap m ≤ 31 := by decide
  have of := long (isLeapYear (Date.ofDayNumber ((t.seconds + zone.offset) / 86400)).year) _
    (List.mem_range.2 (Nat.lt_succ_of_le month))
  constructor <;> simp only [wallClock]
  · omega
  · omega
  · omega
  · omega
  · split <;> omega

/-- **What a feed shows is read as it is**, the offset without its seconds. -/
theorem fields?_feedText (t : Instant) (zone : Zone) :
    Reading.fields? (Timestamp.feedText ⟨t, zone⟩).toList = some (t.shown zone) := by
  rw [Timestamp.feedText, String.toList_ofList]
  exact Reading.fields?_toChars (t.fits_wallClock zone) zone.fraction?_feedChars
    zone.offset?_feedChars

/-- **The clock shows the instant and the offset together.** -/
theorem shows_shown {t : Instant} (plain : t.isLeap = false) (zone : Zone) :
    (t.shown zone).Shows (t.seconds + zone.offset) := by
  have number := Date.dayNumber_ofDayNumber ((t.seconds + zone.offset) / 86400)
  constructor <;> simp only [shown, wallClock, plain, Bool.false_eq_true, if_false]
  · exact Date.isValid_ofDayNumber _
  · omega
  · omega
  · omega
  · rw [number]
    omega

/-- A leap second is the last second of a minute in every zone of whole minutes. -/
theorem second_shown_of_leap {t : Instant} (leap : t.isLeap = true) {zone : Zone}
    (whole : zone.offset % 60 = 0) : (t.shown zone).second = 60 := by
  have last := t.leap (by simpa [isLeap] using leap)
  simp only [shown, wallClock, leap, if_true]
  omega

theorem nanos_toSecond (t : Instant) : t.toSecond.nanos = if t.isLeap then 1000000000 else 0 := rfl

theorem ofUnix?_of {seconds : Int} {nanos : Nat}
    (inRange : firstDay ≤ seconds / 86400 ∧ seconds / 86400 ≤ lastDay) (small : nanos < 2000000000)
    (last : 1000000000 ≤ nanos → seconds % 60 = 59) :
    ofUnix? seconds nanos = some ⟨seconds, nanos, inRange, small, last⟩ := by
  rw [ofUnix?, dif_pos ⟨inRange, small, last⟩]

/-- The clock shows a time of day, or a leap second. -/
theorem clock_shown (t : Instant) (zone : Zone) :
    (t.shown zone).hour ≤ 23 ∧ (t.shown zone).minute ≤ 59 ∧ (t.shown zone).second ≤ 60 := by
  refine ⟨?_, ?_, ?_⟩ <;> simp only [shown, wallClock]
  · omega
  · omega
  · split <;> omega

theorem dayNumber_shown (t : Instant) (zone : Zone) :
    (t.shown zone).date.dayNumber = (t.seconds + zone.offset) / 86400 :=
  Date.dayNumber_ofDayNumber _

section Reading

variable {t : Instant} {zone : Zone}

/-- The seconds that the shown clock stands for, leap seconds apart. -/
theorem clockSeconds_shown (minutes : t.isLeap = true → zone.offset % 60 = 0) :
    (t.shown zone).clockSeconds = t.seconds + zone.offset := by
  cases leap : t.isLeap with
  | false =>
      have shows := t.shows_shown leap zone
      have second := shows.second
      rw [← shows.total, Reading.Fields.clockSeconds]
      omega
  | true =>
      have last := t.leap (by simpa [isLeap] using leap)
      have whole := minutes leap
      rw [Reading.Fields.clockSeconds, second_shown_of_leap leap whole, dayNumber_shown]
      simp only [shown, wallClock]
      omega

/-- A second of 60 is told from the others, so the leap second is found again. -/
theorem nanos_shown (minutes : t.isLeap = true → zone.offset % 60 = 0) :
    (t.shown zone).nanos + (if (t.shown zone).second = 60 then 1000000000 else 0)
      = t.toSecond.nanos := by
  have none_ : (t.shown zone).nanos = 0 := rfl
  rw [nanos_toSecond, none_, Nat.zero_add]
  cases leap : t.isLeap with
  | false => rw [if_neg (Nat.ne_of_lt (shows_shown leap zone).second), if_neg (by decide)]
  | true => rw [if_pos (second_shown_of_leap leap (minutes leap)), if_pos rfl]

/-- The instant that is named lies between the one that was shown and what the clock shows
without its offset, and both are in range. -/
theorem inRange_named (supported : (t.wallClock zone).date.Supported) :
    firstDay ≤ (t.seconds + zone.offset - zone.wholeMinutes.offset) / 86400 ∧
      (t.seconds + zone.offset - zone.wholeMinutes.offset) / 86400 ≤ lastDay := by
  have range := t.inRange
  have days := (Date.supported_iff (Date.isValid_ofDayNumber _)).1 supported
  rw [Date.dayNumber_ofDayNumber] at days
  obtain ⟨east, west⟩ := zone.wholeMinutes_near
  by_cases sign : 0 ≤ zone.offset
  · have := east sign
    omega
  · have := west (by omega)
    omega

theorem last_named (minutes : t.isLeap = true → zone.offset % 60 = 0)
    (long : 1000000000 ≤ t.toSecond.nanos) :
    (t.seconds + zone.offset - zone.wholeMinutes.offset) % 60 = 59 := by
  have leap : t.isLeap = true := by
    rw [nanos_toSecond] at long
    split at long
    · assumption
    · omega
  have whole := zone.wholeMinutes_eq_iff.2 (minutes leap)
  rw [whole, Int.add_sub_cancel]
  exact t.toSecond.leap long

/-- **What is read names an instant**: the one that was shown, cut to the second and moved
by what the offset has lost. -/
theorem timestamp?_shown (supported : (t.wallClock zone).date.Supported)
    (minutes : t.isLeap = true → zone.offset % 60 = 0) :
    ∃ read, (t.shown zone).timestamp? = some read ∧ read.zone = zone.wholeMinutes ∧
      read.instant.seconds = t.seconds + (zone.offset - zone.wholeMinutes.offset) ∧
      read.instant.nanos = t.toSecond.nanos := by
  have valid : (t.shown zone).date.IsValid := Date.isValid_ofDayNumber _
  have days := (Date.supported_iff valid).1 supported
  have clock := t.clock_shown zone
  have named : Zone.ofOffset? (t.shown zone).offset = some zone.wholeMinutes :=
    dif_pos zone.wholeMinutes.bound
  have instant : ofUnix? ((t.shown zone).clockSeconds - (t.shown zone).offset) t.toSecond.nanos
      = some ⟨_, _, inRange_named supported, t.toSecond.nanos_lt, last_named minutes⟩ := by
    rw [clockSeconds_shown minutes]
    exact ofUnix?_of (inRange_named supported) t.toSecond.nanos_lt (last_named minutes)
  refine ⟨⟨⟨_, _, inRange_named supported, t.toSecond.nanos_lt, last_named minutes⟩,
    zone.wholeMinutes⟩, ?_, rfl, ?_, rfl⟩
  · rw [Reading.Fields.timestamp?, if_pos ⟨valid, days.1, days.2, clock.1, clock.2.1, clock.2.2⟩,
      nanos_shown minutes, named, instant]
    rfl
  · show t.seconds + zone.offset - zone.wholeMinutes.offset = _
    omega

end Reading

/-- An instant on the zero meridian is within the supported years. -/
theorem supported_utc (t : Instant) : (t.wallClock .utc).date.Supported := by
  apply (Date.supported_iff (Date.isValid_ofDayNumber _)).2
  rw [Date.dayNumber_ofDayNumber]
  have same : t.seconds + Zone.utc.offset = t.seconds := Int.add_zero _
  rw [same]
  exact t.inRange

/-- The end of a spelled time names the zone. -/
theorem namesZone_feedChars (zone : Zone) : NamesZone zone.feedChars zone.offset := by
  have bound := zone.bound
  have spelled : 60 ≤ zone.offset.natAbs →
      zone.feedChars = offsetChars (zone.offset < 0) (zone.offset.natAbs / 60) := by
    intro long
    rw [Zone.feedChars]
    exact if_neg (by omega)
  constructor
  · constructor
    · intro letter
      apply Nat.lt_of_not_le
      intro long
      rw [spelled long, offsetChars] at letter
      have head := (List.cons.inj letter).1
      split at head <;> cases head
    · intro short
      rw [Zone.feedChars]
      exact if_pos (by omega)
  · intro long
    refine ⟨zone.offset.natAbs / 60 / 60, zone.offset.natAbs / 60 % 60, by omega, by omega,
      by omega, length_padded (by decide) (by omega), length_padded (by decide) (by omega), ?_⟩
    rw [spelled long, offsetChars]
    simp only [decide_eq_true_eq]

/-- **A feed tells the time that it was given.**  Where the years of the clock are supported,
the text of an instant in a zone is read back as the offset cut to whole minutes and the
clock to the second; so the instant that it names is moved by what the offset has lost, by
less than a minute, and by nothing exactly if the offset is in whole minutes.  The text
ends in `Z` if the offset is less than a minute, and else in its sign, hours and minutes.
A leap second is shown as second 60 in a zone of whole minutes and is found again.  On the
zero meridian the text always names the instant to the second. -/
theorem feedText_tells (t : Instant) :
    (∀ zone : Zone, (t.wallClock zone).date.Supported →
      (t.isLeap = false →
        ∃ fields read, Reading.fields? (Timestamp.feedText ⟨t, zone⟩).toList = some fields ∧
          fields.offset = zone.offset.tdiv 60 * 60 ∧ fields.nanos = 0 ∧
          fields.Shows (t.seconds + zone.offset) ∧
          Timestamp.ofText? (Timestamp.feedText ⟨t, zone⟩) = some read ∧
          read.zone.offset = zone.offset.tdiv 60 * 60 ∧ read.instant.nanos = 0 ∧
          read.instant.seconds = t.seconds + (zone.offset - zone.offset.tdiv 60 * 60) ∧
          (read.instant.seconds = t.seconds ↔ zone.offset % 60 = 0) ∧
          (read.instant.seconds - t.seconds).natAbs < 60) ∧
      (∃ suffix, (Timestamp.feedText ⟨t, zone⟩).toList = (t.wallClock zone).toChars ++ suffix ∧
        NamesZone suffix zone.offset) ∧
      (t.isLeap = true → zone.offset % 60 = 0 →
        ∃ fields, Reading.fields? (Timestamp.feedText ⟨t, zone⟩).toList = some fields ∧
          fields.second = 60 ∧
          Timestamp.ofText? (Timestamp.feedText ⟨t, zone⟩) = some ⟨t.toSecond, zone⟩)) ∧
    Timestamp.ofText? t.utcText = some ⟨t.toSecond, .utc⟩ := by
  have read : ∀ zone, Timestamp.ofText? (Timestamp.feedText ⟨t, zone⟩) = (t.shown zone).timestamp? := by
    intro zone
    rw [Timestamp.ofText?, fields?_feedText]
    rfl
  have whole : ∀ zone : Zone, (t.wallClock zone).date.Supported → zone.offset % 60 = 0 →
      Timestamp.ofText? (Timestamp.feedText ⟨t, zone⟩) = some ⟨t.toSecond, zone⟩ := by
    intro zone supported minutes
    obtain ⟨found, named, minuted, seconds, nanos⟩ := timestamp?_shown supported fun _ => minutes
    have same := zone.wholeMinutes_eq_iff.2 minutes
    rw [read, named]
    obtain ⟨instant, zone'⟩ := found
    obtain rfl : zone' = zone := minuted.trans (Zone.ext_offset same)
    have instants : instant = t.toSecond := by
      apply ext_seconds _ nanos
      rw [seconds, same, Int.sub_self, Int.add_zero]
      rfl
    rw [instants]
  refine ⟨fun zone supported => ⟨?_, ?_, ?_⟩, whole .utc t.supported_utc rfl⟩
  · intro plain
    obtain ⟨found, named, minuted, seconds, nanos⟩ :=
      timestamp?_shown supported fun leap => absurd leap (by simp [plain])
    obtain ⟨east, west⟩ := zone.wholeMinutes_near
    have minutes := zone.wholeMinutes_eq_iff
    refine ⟨t.shown zone, found, t.fields?_feedText zone, rfl, rfl, shows_shown plain zone,
      (read zone).trans named, congrArg Zone.offset minuted, ?_, seconds, ?_, ?_⟩
    · rw [nanos, nanos_toSecond, plain]
      rfl
    · rw [seconds, ← minutes]
      omega
    · rw [seconds]
      omega
  · exact ⟨zone.feedChars, String.toList_ofList, namesZone_feedChars zone⟩
  · intro leap minutes
    exact ⟨t.shown zone, t.fields?_feedText zone, second_shown_of_leap leap minutes,
      whole zone supported minutes⟩

/-- Midnight before the year zero began, on the zero meridian. -/
def yearZero : Instant := ⟨-62167219200, 0, by decide, by decide, by decide⟩

/-- Some seconds more than an hour to the west it is still the year before: the clock is told
to the second, and the thirty seconds of the offset are lost. -/
theorem feedText_tells_before_year_zero :
    (yearZero.wallClock ⟨-3630, by decide⟩).date.Supported ∧ yearZero.isLeap = false ∧
    Timestamp.feedText ⟨yearZero, ⟨-3630, by decide⟩⟩ = "-0001-12-31T22:59:30-01:00" ∧
    ∃ read, Timestamp.ofText? "-0001-12-31T22:59:30-01:00" = some read ∧
      read.zone.offset = -3600 ∧ read.instant.seconds = -62167219230 := by
  have supported : (yearZero.wallClock ⟨-3630, by decide⟩).date.Supported := by decide
  have text : Timestamp.feedText ⟨yearZero, ⟨-3630, by decide⟩⟩ = "-0001-12-31T22:59:30-01:00" := by
    decide +kernel
  obtain ⟨-, read, -, -, -, -, found, zone, -, seconds, -, -⟩ :=
    ((feedText_tells yearZero).1 ⟨-3630, by decide⟩ supported).1 rfl
  rw [text] at found
  exact ⟨supported, rfl, text, read, found, zone, seconds⟩

end Instant

end GeoFeed.Calendar

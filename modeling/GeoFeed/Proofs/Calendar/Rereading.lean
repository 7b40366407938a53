/-
# GeoFeed.Proofs.Calendar.Rereading -- the time that an attribute shows

An attribute shows a time in one spelling, whatever the spelling that it was read from: the
year with four figures or with its sign, two figures for each of the other numbers, as many
figures of the fraction as are needed, and the offset in figures.  Nothing of the time is
lost, because a time that was read is one of a kind (`Timestamp.Spellable`).  Its offset is
in whole minutes, as no spelling has seconds there, so nothing of it is rounded away; and
the clock of its zone, which is the one that was read, shows one of the supported years.

A leap second keeps its mark.  It is the last second of a minute on the zero meridian and
so, with an offset in whole minutes, on the clock that was read, which shows second 60.

Main statements: `Timestamp.ofText?_fullText`, `Timestamp.spellable_of_ofText?`.
-/
import GeoFeed.Proofs.Calendar.Telling

namespace GeoFeed.Calendar

set_option autoImplicit false

/-- A time that a text can spell: its offset is in whole minutes, and the year on the clock of
its zone is a supported one. -/
structure Timestamp.Spellable (t : Timestamp) : Prop where
  minutes : t.zone.offset % 60 = 0
  supported : t.wallClock.date.Supported

/-! ## What is shown is read -/

namespace Reading

/-- **A fraction is read in the places that it is written in,** nine at the most. -/
theorem fraction?_padded {width value : Nat} (wide : 0 < width) (narrow : width ≤ 9)
    (small : value < 10 ^ width) {c : Char} (other : c.isDigit = false) (rest : List Char) :
    fraction? ('.' :: (padded width value ++ c :: rest))
      = some (value * 10 ^ (9 - width), c :: rest) := by
  have length := length_padded wide small
  have ends : ∀ d, (c :: rest).head? = some d → d.isDigit = false := by
    intro d head
    cases head
    exact other
  have read : number? 9 (padded width value ++ c :: rest) = some (value, c :: rest) := by
    rw [number?_append (fun _ => isDigit_of_mem_padded) (padded_ne_nil width value) (by omega)
      (.inr ends), figures_padded]
  have taken : (padded width value ++ c :: rest).length - (c :: rest).length = width := by
    rw [List.length_append, length, Nat.add_sub_cancel]
  have kept : (c :: rest).dropWhile Char.isDigit = c :: rest := by
    rw [List.dropWhile_cons, other]
    rfl
  rw [fraction?, read]
  simp only [Option.bind_eq_bind, Option.bind_some, taken, kept]
  rfl

/-- **The fraction that an attribute shows is read whole,** in front of a sign. -/
theorem fraction?_fractionChars {nanos : Nat} (small : nanos < 1000000000) {sign : Char}
    (isSign : sign = '+' ∨ sign = '-') (rest : List Char) :
    fraction? (fractionChars nanos ++ sign :: rest) = some (nanos, sign :: rest) := by
  have other : sign.isDigit = false := by
    rcases isSign with rfl | rfl <;> rfl
  rw [fractionChars]
  split
  · rename_i whole
    subst whole
    rcases isSign with rfl | rfl <;> rfl
  · split
    · rename_i thousandths
      rw [List.cons_append, fraction?_padded (by decide) (by decide) (by omega) other]
      congr 2
      omega
    · split
      · rename_i millionths
        rw [List.cons_append, fraction?_padded (by decide) (by decide) (by omega) other]
        congr 2
        omega
      · rw [List.cons_append, fraction?_padded (by decide) (by decide) (by omega) other]
        congr 2
        omega

end Reading

namespace Zone

theorem fullChars_eq_cons (z : Zone) :
    ∃ sign rest, (sign = '+' ∨ sign = '-') ∧ z.fullChars = sign :: rest := by
  rw [fullChars, offsetChars]
  refine ⟨_, _, ?_, rfl⟩
  split
  · exact .inr rfl
  · exact .inl rfl

/-- **An offset in whole minutes is read as it is.** -/
theorem offset?_fullChars {z : Zone} (minutes : z.offset % 60 = 0) :
    Reading.offset? (Text.trimFront z.fullChars) = some (z.offset, []) := by
  have bound := z.bound
  rw [fullChars, Reading.offset?_offsetChars _ (by omega)]
  by_cases west : z.offset < 0
  · simp only [west, decide_true, if_true]
    congr 2
    omega
  · simp only [west, decide_false, Bool.false_eq_true, if_false]
    congr 2
    omega

theorem ofOffset?_offset (z : Zone) : ofOffset? z.offset = some z :=
  dif_pos z.bound

end Zone

namespace Timestamp

variable {t : Timestamp}

/-- The fields that an attribute shows of a time. -/
def spelled (t : Timestamp) : Reading.Fields :=
  { t.instant.shown t.zone with nanos := t.instant.fraction, offset := t.zone.offset }

theorem fields?_fullText (minutes : t.zone.offset % 60 = 0) :
    Reading.fields? t.fullText.toList = some t.spelled := by
  obtain ⟨sign, rest, isSign, shape⟩ := t.zone.fullChars_eq_cons
  have small : t.instant.fraction < 1000000000 := Nat.mod_lt _ (by decide)
  have fraction := Reading.fraction?_fractionChars small isSign rest
  rw [← shape] at fraction
  rw [fullText, String.toList_ofList, List.append_assoc]
  exact Reading.fields?_toChars (t.instant.fits_wallClock t.zone) fraction
    (Zone.offset?_fullChars minutes)

/-- The fraction and the mark of a leap second make up the nanoseconds again. -/
theorem nanos_spelled (minutes : t.zone.offset % 60 = 0) :
    t.spelled.nanos + (if t.spelled.second = 60 then 1000000000 else 0) = t.instant.nanos := by
  have bound := t.instant.nanos_lt
  show t.instant.nanos % 1000000000
    + (if (t.instant.shown t.zone).second = 60 then 1000000000 else 0) = t.instant.nanos
  cases leap : t.instant.isLeap with
  | false =>
      have short : t.instant.nanos < 1000000000 := by simpa [Instant.isLeap] using leap
      rw [if_neg (Nat.ne_of_lt (Instant.shows_shown leap t.zone).second)]
      omega
  | true =>
      have long : 1000000000 ≤ t.instant.nanos := by simpa [Instant.isLeap] using leap
      rw [if_pos (Instant.second_shown_of_leap leap minutes)]
      omega

theorem clockSeconds_spelled (minutes : t.zone.offset % 60 = 0) :
    t.spelled.clockSeconds = t.instant.seconds + t.zone.offset :=
  Instant.clockSeconds_shown fun _ => minutes

/-- **Nothing of a time is lost on the way through the text that an attribute shows.** -/
theorem ofText?_fullText (spellable : t.Spellable) : ofText? t.fullText = some t := by
  have valid : t.spelled.date.IsValid := Date.isValid_ofDayNumber _
  have days := (Date.supported_iff valid).1 spellable.supported
  have clock := t.instant.clock_shown t.zone
  have seconds : t.instant.seconds + t.zone.offset - t.zone.offset = t.instant.seconds := by omega
  have named : Zone.ofOffset? t.spelled.offset = some t.zone := t.zone.ofOffset?_offset
  have instant : Instant.ofUnix? (t.spelled.clockSeconds - t.spelled.offset) t.instant.nanos
      = some t.instant := by
    rw [clockSeconds_spelled spellable.minutes]
    show Instant.ofUnix? (t.instant.seconds + t.zone.offset - t.zone.offset) _ = _
    rw [seconds]
    exact Instant.ofUnix?_of t.instant.inRange t.instant.nanos_lt t.instant.leap
  rw [ofText?, fields?_fullText spellable.minutes]
  show t.spelled.timestamp? = some t
  rw [Reading.Fields.timestamp?,
    if_pos ⟨valid, days.1, days.2, clock.1, clock.2.1, clock.2.2⟩,
    nanos_spelled spellable.minutes, named, instant]
  rfl

end Timestamp

/-! ## What is read is spellable -/

namespace Reading

/-- Hours and minutes are all that an offset is spelled with. -/
theorem unsignedOffset?_minutes {cs rest : List Char} {offset : Nat}
    (read : unsignedOffset? cs = some (offset, rest)) : offset % 60 = 0 := by
  unfold unsignedOffset? at read
  split at read
  · split at read
    · simp only [Option.bind_eq_bind, Option.bind_eq_some_iff, Prod.exists, Option.pure_def,
        Option.some.injEq, Prod.mk.injEq] at read
      obtain ⟨minutes, after, -, rfl, -⟩ := read
      omega
    · cases read
  · cases read

theorem offset?_minutes {cs rest : List Char} {offset : Int}
    (read : offset? cs = some (offset, rest)) : offset % 60 = 0 := by
  -- the three signs, with the sign of the offset that is read behind them
  have signed : ∀ (sign : Int) (tail : List Char), sign = 1 ∨ sign = -1 →
      (unsignedOffset? tail).map (fun read => (sign * read.1, read.2)) = some (offset, rest) →
      offset % 60 = 0 := by
    intro sign tail one read
    simp only [Option.map_eq_some_iff, Prod.exists, Prod.mk.injEq] at read
    obtain ⟨n, after, unsigned, rfl, -⟩ := read
    have minutes := unsignedOffset?_minutes unsigned
    rcases one with rfl | rfl <;> omega
  unfold offset? at read
  split at read
  · cases read
    rfl
  · cases read
    rfl
  · exact signed 1 _ (.inl rfl) (by simpa using read)
  · exact signed (-1) _ (.inr rfl) (by simpa using read)
  · exact signed (-1) _ (.inr rfl) (by simpa using read)
  · split at read
    · cases read
      rfl
    · cases read
  · cases read

theorem exists_of_bind {α β : Type} {x : Option α} {f : α → Option β} {b : β}
    (found : (x >>= f) = some b) : ∃ a, f a = some b := by
  obtain ⟨a, -, last⟩ := Option.bind_eq_some_iff.1 found
  exact ⟨a, last⟩

/-- The offset of a time stamp is the one that is read behind its clock. -/
theorem exists_offset?_of_fields? {cs : List Char} {f : Fields} (read : fields? cs = some f) :
    ∃ zone rest, offset? zone = some (f.offset, rest) := by
  unfold fields? at read
  obtain ⟨⟨year, _⟩, read⟩ := exists_of_bind read
  obtain ⟨_, read⟩ := exists_of_bind read
  obtain ⟨⟨month, _⟩, read⟩ := exists_of_bind read
  obtain ⟨_, read⟩ := exists_of_bind read
  obtain ⟨⟨day, _⟩, read⟩ := exists_of_bind read
  dsimp only at read
  split at read
  · split at read
    · obtain ⟨_, read⟩ := exists_of_bind read
      obtain ⟨⟨hour, _⟩, read⟩ := exists_of_bind read
      obtain ⟨_, read⟩ := exists_of_bind read
      obtain ⟨⟨minute, _⟩, read⟩ := exists_of_bind read
      obtain ⟨_, read⟩ := exists_of_bind read
      obtain ⟨⟨second, _⟩, read⟩ := exists_of_bind read
      obtain ⟨⟨nanos, behind⟩, read⟩ := exists_of_bind read
      obtain ⟨⟨offset, rest⟩, zone, read⟩ := Option.bind_eq_some_iff.1 read
      split at read
      · cases read
        exact ⟨_, rest, zone⟩
      · cases read
    · cases read
  · cases read

end Reading

theorem Zone.offset_of_ofOffset? {offset : Int} {zone : Zone} (found : ofOffset? offset = some zone) :
    zone.offset = offset := by
  unfold ofOffset? at found
  split at found
  · cases found
    rfl
  · cases found

theorem Instant.seconds_of_ofUnix? {seconds : Int} {nanos : Nat} {t : Instant}
    (found : ofUnix? seconds nanos = some t) : t.seconds = seconds := by
  unfold ofUnix? at found
  split at found
  · cases found
    rfl
  · cases found

namespace Reading

/-- What the fields have to be for a time to be named, and what the time is then. -/
theorem Fields.timestamp?_eq_some {f : Fields} {t : Timestamp} (named : f.timestamp? = some t) :
    f.date.IsValid ∧ firstDay ≤ f.date.dayNumber ∧ f.date.dayNumber ≤ lastDay ∧
      f.hour ≤ 23 ∧ f.minute ≤ 59 ∧
      t.zone.offset = f.offset ∧ t.instant.seconds + t.zone.offset = f.clockSeconds := by
  unfold timestamp? at named
  split at named
  · rename_i exists_
    obtain ⟨valid, first, last, hour, minute, -⟩ := exists_
    obtain ⟨zone, zoned, named⟩ := Option.bind_eq_some_iff.1 named
    obtain ⟨instant, found, named⟩ := Option.bind_eq_some_iff.1 named
    cases named
    have offset := Zone.offset_of_ofOffset? zoned
    have seconds := Instant.seconds_of_ofUnix? found
    refine ⟨valid, first, last, hour, minute, offset, ?_⟩
    rw [seconds, offset, Int.sub_add_cancel]
  · cases named

/-- A time of day lasts less than a day. -/
theorem Fields.clockSeconds_div {f : Fields} (hour : f.hour ≤ 23) (minute : f.minute ≤ 59) :
    f.clockSeconds / 86400 = f.date.dayNumber := by
  rw [clockSeconds]
  omega

end Reading

/-- **A time that was read is spellable,** in whatever spelling it was read. -/
theorem Timestamp.spellable_of_ofText? {s : String} {t : Timestamp} (read : ofText? s = some t) :
    t.Spellable := by
  obtain ⟨f, spelled, named⟩ := Option.bind_eq_some_iff.1 read
  obtain ⟨behind, rest, zone⟩ := Reading.exists_offset?_of_fields? spelled
  obtain ⟨valid, first, last, hour, minute, offset, seconds⟩ :=
    Reading.Fields.timestamp?_eq_some named
  constructor
  · rw [offset]
    exact Reading.offset?_minutes zone
  · -- the clock of the zone is the one that was read
    have date : t.wallClock.date = f.date := by
      show Date.ofDayNumber ((t.instant.seconds + t.zone.offset) / 86400) = f.date
      rw [seconds, Reading.Fields.clockSeconds_div hour minute, Date.ofDayNumber_dayNumber valid]
    rw [date]
    exact (Date.supported_iff valid).2 ⟨first, last⟩

end GeoFeed.Calendar

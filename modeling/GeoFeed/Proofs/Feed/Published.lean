/-
# GeoFeed.Proofs.Feed.Published -- the time of publication of an item

Where the attribute for the time of publication is a text that spells a time, the item
shows that time in the zone of the place.  The text has visible characters only, so nothing
is trimmed off it and the item always has it.

It has the form of RFC 3339 exactly if its year is one of 0 to 9999.  The year that counts is
that of the place: a time that was spelled with four figures may be in the year 10000 on the
zero meridian (`published_after_year_9999`).  The text ends in `Z` where the place keeps the
time of the zero meridian at that instant.

Main statement: `published_form`.
-/
import GeoFeed.Feature.Decoding
import GeoFeed.Proofs.Calendar.Form
import GeoFeed.Proofs.Feed.Entry
import GeoFeed.Proofs.Url.Service
import GeoFeed.Template.Attributes

namespace GeoFeed

set_option autoImplicit false

open Calendar

namespace Calendar

theorem visible_padded (width n : Nat) : Url.Visible (padded width n) := by
  intro c member
  apply Url.isVisible_of_isAlphanum
  rw [Char.isAlphanum, isDigit_of_mem_padded member, Bool.or_true]

theorem visible_yearChars (year : Int) : Url.Visible (yearChars year) := by
  rw [yearChars]
  split
  · exact visible_padded 4 _
  · rw [Url.Visible.cons_iff]
    refine ⟨?_, visible_padded 4 _⟩
    split <;> rfl

theorem visible_feedChars (zone : Zone) : Url.Visible zone.feedChars := by
  unfold Zone.feedChars
  extract_lets minutes
  split
  · exact Url.Visible.cons_iff.2 ⟨rfl, .nil⟩
  · simp only [offsetChars, Url.Visible.append_iff, Url.Visible.cons_iff, visible_padded, true_and,
      and_true]
    split <;> decide

theorem visible_feedText (t : Timestamp) : Url.Visible t.feedText.toList := by
  rw [Timestamp.feedText, String.toList_ofList]
  simp only [WallClock.toChars, Date.toChars, Url.Visible.append_iff, Url.Visible.cons_iff,
    visible_padded, visible_yearChars, visible_feedChars, true_and, and_true]
  decide

/-- A time is shown as it is: no end of it is blank. -/
theorem nonBlank?_feedText (t : Timestamp) : Text.nonBlank? t.feedText = some t.feedText := by
  have nonempty : t.feedText.toList ≠ [] := by
    simp [Timestamp.feedText, WallClock.toChars]
  have kept := Url.nonBlank?_of_visible (visible_feedText t) nonempty
  rwa [String.ofList_toList] at kept

end Calendar

/-- A text that spells a time is kept as the time. -/
theorem AttributeValue.ofJson?_of_spells {s : String} {read : Timestamp}
    (spells : Timestamp.ofText? s = some read) : ofJson? (.string (some s)) = some (.date read) := by
  rw [ofJson?, ofText, spells]

theorem Templates.published_itemText (templates : Templates) (f : Feature) :
    (templates.itemText f).value.published = (templates.itemPublished f).value := rfl

/-- The item of a feature has the time of publication that the named attribute spells. -/
theorem TemplateNames.itemPublished_of_date (base : String) (zoneAt : ZoneRule)
    {names : TemplateNames} {name : String} {f : Feature} {read : Timestamp}
    (named : names.published = some name) (held : f.attribute? name = some (.date read)) :
    ((Templates.ofAttributes names base zoneAt).itemPublished f).value
      = some (Timestamp.feedText ⟨read.instant, zoneAt read.instant⟩) := by
  have answer : (Templates.ofAttributes names base zoneAt).published f
      = .ok (Timestamp.feedText ⟨read.instant, zoneAt read.instant⟩) := by
    show publishedText names zoneAt f = _
    rw [publishedText, named, Option.bind_some, held]
    rfl
  rw [Templates.itemPublished, Template.resolve, answer]
  simp only [Logged.value_pure, nonBlank?_feedText]

/-- **The form of times in a feed.**  An instant in a zone is shown with a year as feeds
write it, two figures for each of the other numbers, and `Z` or an offset in hours and
minutes that is not `-00:00`; this is the form of RFC 3339 exactly if the clock shows one
of the years from 0 to 9999.  Where the attribute named for the time of publication is a
text that spells this time, the item, and the primary entry of the feature in any feed,
show it in this form in the zone of the place, and so as RFC 3339 exactly if the year there
is one of 0 to 9999.  A place that keeps the time of the zero meridian then shows it with `Z`
at the end. -/
theorem published_form (t : Instant) (zone : Zone) :
    (IsTime (YearText (t.wallClock zone).date.year) ZoneText (Timestamp.feedText ⟨t, zone⟩).toList ∧
      (IsRfc3339 (Timestamp.feedText ⟨t, zone⟩).toList ↔
        0 ≤ (t.wallClock zone).date.year ∧ (t.wallClock zone).date.year ≤ 9999)) ∧
    ∀ (names : TemplateNames) (base : String) (zoneAt : ZoneRule) (name s : String) (f : Feature),
      names.published = some name → f.attribute? name = AttributeValue.ofJson? (.string (some s)) →
      Timestamp.ofText? s = some ⟨t, zone⟩ →
      ∃ shown, ((Templates.ofAttributes names base zoneAt).itemPublished f).value = some shown ∧
        (∀ shape group, (f.entries (.ofAttributes names base zoneAt) shape).value = .ok group →
          group.primary.published = some shown) ∧
        IsTime (YearText (t.wallClock (zoneAt t)).date.year) ZoneText shown.toList ∧
        (IsRfc3339 shown.toList ↔ 0 ≤ (t.wallClock (zoneAt t)).date.year ∧
          (t.wallClock (zoneAt t)).date.year ≤ 9999) ∧
        (zoneAt t = .utc → shown = t.utcText ∧
          IsTime (YearText (t.wallClock .utc).date.year) (· = ['Z']) shown.toList ∧
          (IsTime (Figures 4) (· = ['Z']) shown.toList ↔
            0 ≤ (t.wallClock .utc).date.year ∧ (t.wallClock .utc).date.year ≤ 9999)) := by
  constructor
  · exact ⟨isTime_feedText t zone (zoneText_feedChars zone), isRfc3339_feedText_iff t zone⟩
  · intro names base zoneAt name s f named held spells
    rw [AttributeValue.ofJson?_of_spells spells] at held
    have published := TemplateNames.itemPublished_of_date base zoneAt named held
    refine ⟨_, published, ?primary, isTime_feedText t _ (zoneText_feedChars _),
      isRfc3339_feedText_iff t _, ?meridian⟩
    case primary =>
      intro shape group entered
      obtain ⟨markup, primary⟩ := Feature.primary_eq entered
      rw [primary, Entry.primary, Templates.published_itemText, published]
    case meridian =>
      intro meridian
      have letter : Zone.utc.feedChars = ['Z'] := rfl
      rw [meridian]
      exact ⟨rfl, isTime_feedText t .utc letter, isTime_feedText_iff t .utc letter⟩

/-- A feature that was published at the given time. -/
def Feature.publishedAt (s : String) : Feature :=
  { id := "p.1", attributes := .ofList [("when", .ofText s)] }

/-- The last half hour of the year 9999 in a zone to the east is in that year on the zero
meridian too. -/
theorem published_in_year_9999 :
    ∃ read, Timestamp.ofText? "9999-12-31T23:30:00+01:00" = some read ∧
      ((Templates.ofAttributes { published := some "when" } "http://example.com/").itemPublished
        (.publishedAt "9999-12-31T23:30:00+01:00")).value = some "9999-12-31T22:30:00Z" ∧
      IsTime (Figures 4) (· = ['Z']) "9999-12-31T22:30:00Z".toList := by
  have spells : Timestamp.ofText? "9999-12-31T23:30:00+01:00"
      = some ⟨⟨253402295400, 0, by decide, by decide, by decide⟩, ⟨3600, by decide⟩⟩ := by
    decide +kernel
  have text : (Instant.mk 253402295400 0 (by decide) (by decide) (by decide)).utcText
      = "9999-12-31T22:30:00Z" := by
    decide +kernel
  obtain ⟨shown, published, -, -, -, meridian⟩ := (published_form _ _).2
    { published := some "when" } "http://example.com/" .utc "when" "9999-12-31T23:30:00+01:00"
    (.publishedAt "9999-12-31T23:30:00+01:00") rfl rfl spells
  obtain ⟨rfl, -, form⟩ := meridian rfl
  rw [text] at published form
  exact ⟨_, spells, published, form.2 (by decide +kernel)⟩

/-- The first instant of the year 10000 on the zero meridian. -/
def Calendar.Instant.yearTenThousand : Instant :=
  { yearZero with seconds := 253402300800, inRange := by decide, leap := by decide }

/-- The year 10000 is shown with a sign and five figures, so not every time in a feed has the
form of RFC 3339; nor has every time of publication, though it was spelled with four
figures. -/
theorem published_after_year_9999 :
    Timestamp.feedText ⟨.yearTenThousand, .utc⟩ = "+10000-01-01T00:00:00Z" ∧
    (¬ ∀ (t : Instant) (zone : Zone), IsRfc3339 (Timestamp.feedText ⟨t, zone⟩).toList) ∧
    ∃ read, Timestamp.ofText? "9999-12-31T23:30:00-01:00" = some read ∧
      ((Templates.ofAttributes { published := some "when" } "http://example.com/").itemPublished
        (.publishedAt "9999-12-31T23:30:00-01:00")).value = some "+10000-01-01T00:30:00Z" ∧
      ¬ IsTime (Figures 4) (· = ['Z']) "+10000-01-01T00:30:00Z".toList := by
  have signed : ∀ (zone : List Char → Prop) (rest : String),
      ¬ IsTime (Figures 4) zone ("+" ++ rest).toList := by
    intro zone rest time
    obtain ⟨c, after, shape, digit⟩ := time.head_isDigit
    rw [String.toList_append] at shape
    cases (List.cons.inj shape).1
    cases digit
  have spells : Timestamp.ofText? "9999-12-31T23:30:00-01:00"
      = some ⟨⟨253402302600, 0, by decide, by decide, by decide⟩, ⟨-3600, by decide⟩⟩ := by
    decide +kernel
  have text : (Instant.mk 253402302600 0 (by decide) (by decide) (by decide)).utcText
      = "+10000-01-01T00:30:00Z" := by
    decide +kernel
  have tenThousand : Timestamp.feedText ⟨.yearTenThousand, .utc⟩ = "+10000-01-01T00:00:00Z" := by
    decide +kernel
  refine ⟨tenThousand, ?_, _, spells, ?_, signed _ "10000-01-01T00:30:00Z"⟩
  · intro always
    have time := always .yearTenThousand .utc
    rw [tenThousand] at time
    exact signed _ "10000-01-01T00:00:00Z" time
  · have held : (Feature.publishedAt "9999-12-31T23:30:00-01:00").attribute? "when"
        = AttributeValue.ofJson? (.string (some "9999-12-31T23:30:00-01:00")) := rfl
    rw [AttributeValue.ofJson?_of_spells spells] at held
    rw [TemplateNames.itemPublished_of_date _ _ rfl held]
    exact congrArg some text

end GeoFeed

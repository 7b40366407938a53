/-
# GeoFeed.Proofs.Feed.Display -- what is shown of a text in an attribute

A text in an attribute is a date where it spells a time, in any spelling, and stays a text
otherwise.  Shown again it means the same: a text is shown as it is, and a date in the one
spelling of attributes, which is read back without any loss (`Timestamp.ofText?_fullText`).
So it does not matter how often a value is shown and read (`ofText_toText_ofText`).

The title of an item and the lines of its description are taken as the templates give them,
so the value can be told from them.

Main statement: `AttributeValue.shown_text_tells`.
-/
import GeoFeed.Feature.Decoding
import GeoFeed.Proofs.Calendar.Rereading
import GeoFeed.Proofs.Feed.Entry
import GeoFeed.Template.Attributes

namespace GeoFeed

set_option autoImplicit false

open Calendar

namespace AttributeValue

theorem ofText_of_spells {s : String} {t : Timestamp} (spells : Timestamp.ofText? s = some t) :
    ofText s = .date t := by
  rw [ofText, spells]

theorem ofText_of_spells_none {s : String} (spells : Timestamp.ofText? s = none) :
    ofText s = .text s := by
  rw [ofText, spells]

/-- **What is shown of a text is read as the same value.** -/
theorem ofText_toText_ofText (s : String) : ofText (ofText s).toText = ofText s := by
  cases spells : Timestamp.ofText? s with
  | none =>
      rw [ofText_of_spells_none spells]
      exact ofText_of_spells_none spells
  | some t =>
      rw [ofText_of_spells spells]
      exact ofText_of_spells (Timestamp.ofText?_fullText (Timestamp.spellable_of_ofText? spells))

end AttributeValue

namespace TemplateNames

variable {names : TemplateNames} {name : String} {f : Feature} {value : AttributeValue}

/-- The title of an item is the value of the attribute named for it. -/
theorem itemTitle_of_held (base : String) (zoneAt : ZoneRule) (named : names.title = some name)
    (held : f.attribute? name = some value) :
    ((Templates.ofAttributes names base zoneAt).itemTitle f).value = value.toText := by
  have answer : (Templates.ofAttributes names base zoneAt).title f = .ok value.toText := by
    show titleText names f = _
    rw [titleText, named]
    simp only [held]
  rw [Templates.itemTitle, Template.resolve, answer]
  rfl

/-- The description of an item has a line for every attribute. -/
theorem itemDescription_of_held (names : TemplateNames) (base : String) (zoneAt : ZoneRule)
    (held : f.attribute? name = some value) :
    ∃ lines, ((Templates.ofAttributes names base zoneAt).itemDescription f).value
        = "\n".intercalate lines ∧ name ++ ": " ++ value.toText ∈ lines := by
  have member : (name, value) ∈ f.attributes.toList := (f.attributes.mem_toList_iff _ _).2 held
  have some_ : f.attributes.isEmpty = false := List.isEmpty_eq_false_iff_exists_mem.2 ⟨_, member⟩
  refine ⟨f.attributes.toList.map fun entry => attributeLine entry.1 entry.2, ?_,
    List.mem_map.2 ⟨_, member, rfl⟩⟩
  have answer : (Templates.ofAttributes names base zoneAt).description f
      = .ok ("\n".intercalate
          (f.attributes.toList.map fun entry => attributeLine entry.1 entry.2)) := by
    show descriptionText f = _
    rw [descriptionText, some_]
    rfl
  rw [Templates.itemDescription, Template.resolve, answer]
  rfl

end TemplateNames

namespace AttributeValue

/-- **What is shown of a text in an attribute tells its value.**  Every text is read as a value,
a date if it spells a time and else the text itself.  What the value is shown as is read as
the same value again: for a date the same instant, with its fraction and the mark of a leap
second, in the same zone.  An item whose title is the value of the attribute has it in this
form as its title, and its description has it on a line, behind the name. -/
theorem shown_text_tells (s : String) :
    ∃ value, ofJson? (.string (some s)) = some value ∧
      (∀ t, Timestamp.ofText? s = some t →
        value = .date t ∧ Timestamp.ofText? value.toText = some t) ∧
      (Timestamp.ofText? s = none → value = .text s ∧ value.toText = s) ∧
      ofJson? (.string (some value.toText)) = some value ∧
      ∀ (names : TemplateNames) (base : String) (zoneAt : ZoneRule) (name : String) (f : Feature),
        f.attribute? name = some value →
        (names.title = some name →
          ((Templates.ofAttributes names base zoneAt).itemTitle f).value = value.toText ∧
          ∀ shape group, (f.entries (.ofAttributes names base zoneAt) shape).value = .ok group →
            group.primary.title = value.toText) ∧
        ∃ lines,
          ((Templates.ofAttributes names base zoneAt).itemDescription f).value
            = "\n".intercalate lines ∧
          (∀ shape group, (f.entries (.ofAttributes names base zoneAt) shape).value = .ok group →
            group.primary.description = "\n".intercalate lines) ∧
          name ++ ": " ++ value.toText ∈ lines := by
  have again : ofJson? (.string (some (ofText s).toText)) = some (ofText s) :=
    congrArg some (ofText_toText_ofText s)
  refine ⟨ofText s, rfl, ?date, ?text, again, ?item⟩
  case date =>
    intro t spells
    rw [ofText_of_spells spells]
    exact ⟨rfl, Timestamp.ofText?_fullText (Timestamp.spellable_of_ofText? spells)⟩
  case text =>
    intro spells
    rw [ofText_of_spells_none spells]
    exact ⟨rfl, rfl⟩
  case item =>
    intro names base zoneAt name f held
    constructor
    · intro named
      have title := TemplateNames.itemTitle_of_held base zoneAt named held
      refine ⟨title, ?_⟩
      intro shape group entered
      obtain ⟨markup, primary⟩ := Feature.primary_eq entered
      rw [primary]
      exact title
    · obtain ⟨lines, description, line⟩ :=
        TemplateNames.itemDescription_of_held names base zoneAt held
      refine ⟨lines, description, ?_, line⟩
      intro shape group entered
      obtain ⟨markup, primary⟩ := Feature.primary_eq entered
      rw [primary]
      exact description

end AttributeValue

/-- A leap second that is spelled as loosely as can be: a signed year, short numbers, a fraction
of ten figures, blanks, and a minus sign of print in front of half an hour. -/
def looseLeapSecond : String := "+10000-1 -1t0: 59:60.5000000009 \u22120030"

/-- A feature that was seen in the leap second. -/
def Feature.seenInLeapSecond : Feature :=
  { id := "p.1", attributes := .ofList [("seen", .ofText looseLeapSecond)] }

/-- The loose spelling is shown in the one spelling of attributes, with everything that it
says. -/
theorem shown_text_tells_leap_second :
    ∃ t, Timestamp.ofText? looseLeapSecond = some t ∧ t.instant.isLeap = true ∧
      t.instant.fraction = 500000000 ∧ t.zone.offset = -1800 ∧
      Timestamp.ofText? "+10000-01-01T00:59:60.500-00:30" = some t ∧
      ((Templates.ofAttributes { title := some "seen" } "").itemTitle
          Feature.seenInLeapSecond).value = "+10000-01-01T00:59:60.500-00:30" := by
  have spells : Timestamp.ofText? looseLeapSecond
      = some ⟨⟨253402306199, 1500000000, by decide, by decide, by decide⟩, ⟨-1800, by decide⟩⟩ := by
    decide +kernel
  obtain ⟨value, read, date, -, -, item⟩ := AttributeValue.shown_text_tells looseLeapSecond
  obtain ⟨rfl, again⟩ := date _ spells
  have held : Feature.seenInLeapSecond.attribute? "seen" = some (.ofText looseLeapSecond) := rfl
  rw [AttributeValue.ofText_of_spells spells] at held
  obtain ⟨title, -⟩ := (item { title := some "seen" } "" .utc "seen" _ held).1 rfl
  have text : AttributeValue.toText (.date ⟨⟨253402306199, 1500000000, by decide, by decide,
      by decide⟩, ⟨-1800, by decide⟩⟩) = "+10000-01-01T00:59:60.500-00:30" := by
    decide +kernel
  rw [text] at again title
  exact ⟨_, spells, rfl, rfl, rfl, again, title⟩

end GeoFeed

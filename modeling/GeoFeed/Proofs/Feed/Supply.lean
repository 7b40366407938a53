/-
# GeoFeed.Proofs.Feed.Supply -- where the texts of a feed come from

A feed carries the two texts of its channel and the texts of its items.  Each of them
is made from texts that somebody supplied (`Supplies`): the name of the system, the
catalog, identifiers, and answers of templates.  On the way a text may be trimmed, cut
into the fields of enclosures, joined to others, or have a few fixed words or figures
added to it, and that is all: a character that XML does not have is in a carried text
only if it was in a supplied one (`traced_of_mem_carriedTexts`).

The address of the service, the names of types, the output format and the attributes
and geometries of features do not come into it, unless a template brings them up.
-/
import GeoFeed.Proofs.Feed.Element
import GeoFeed.Proofs.Xml.Legal

namespace GeoFeed

set_option autoImplicit false

/-! ## Parts of texts -/

namespace Text

theorem mem_of_mem_trimChars {c : Char} {cs : List Char} (member : c ∈ trimChars cs) : c ∈ cs := by
  have back := List.mem_reverse.1 member
  have front := List.mem_reverse.1 ((List.dropWhile_sublist _).subset back)
  exact (List.dropWhile_sublist _).subset front

theorem mem_of_nonBlank? {s t : String} (kept : nonBlank? s = some t) {c : Char}
    (member : c ∈ t.toList) : c ∈ s.toList := by
  unfold nonBlank? at kept
  simp only at kept
  split at kept
  · cases kept
  · cases kept
    rw [toList_trim] at member
    exact mem_of_mem_trimChars member

/-- The pieces of a text are parts of it. -/
theorem mem_of_mem_pieces {isMark : Char → Bool} {text piece : List Char}
    (inside : piece ∈ pieces isMark text) {c : Char} (member : c ∈ piece) : c ∈ text := by
  induction text generalizing piece with
  | nil => simp_all [pieces]
  | cons d rest ih =>
      simp only [pieces] at inside
      split at inside
      · rcases List.mem_cons.1 inside with rfl | later
        · cases member
        · exact List.mem_cons_of_mem _ (ih later member)
      · split at inside
        · rename_i none_
          exact absurd none_ (pieces_ne_nil _ _)
        · rename_i first more shape
          rcases List.mem_cons.1 inside with rfl | later
          · rcases List.mem_cons.1 member with rfl | member
            · exact List.mem_cons_self
            · exact List.mem_cons_of_mem _ (ih (shape ▸ List.mem_cons_self) member)
          · exact List.mem_cons_of_mem _ (ih (shape ▸ List.mem_cons_of_mem _ later) member)

end Text

namespace Enclosure

/-- The texts of an enclosure. -/
def texts (e : Enclosure) : List String := [e.url, e.length, e.mediaType]

namespace Draft

/-- A draft whose fields all satisfy a property. -/
def All (P : String → Prop) (d : Draft) : Prop :=
  (∀ v ∈ d.url, P v) ∧ (∀ v ∈ d.length, P v) ∧ (∀ v ∈ d.mediaType, P v)

variable {P : String → Prop} {d : Draft}

theorem all_empty : All P {} := by simp [All]

theorem All.set (all : d.All P) {value : String} (holds : P value) (field : Field) :
    (d.set field value).All P := by
  have only : ∀ v ∈ some value, P v := by simpa using holds
  obtain ⟨url, length, mediaType⟩ := all
  cases field with
  | url => exact ⟨only, length, mediaType⟩
  | length => exact ⟨url, only, mediaType⟩
  | mediaType => exact ⟨url, length, only⟩

theorem All.complete (all : d.All P) {e : Enclosure} (done : d.complete? = some e) :
    ∀ text ∈ e.texts, P text := by
  obtain ⟨url, hasUrl, done⟩ := Option.bind_eq_some_iff.1 done
  obtain ⟨length, hasLength, done⟩ := Option.bind_eq_some_iff.1 done
  obtain ⟨mediaType, hasType, done⟩ := Option.bind_eq_some_iff.1 done
  cases done
  simpa [texts] using ⟨all.1 url hasUrl, all.2.1 length hasLength, all.2.2 mediaType hasType⟩

end Draft

/-- Enclosures have the values that were assigned, and no others. -/
theorem texts_of_mem_collect {P : String → Prop} {draft : Draft} {values : List (Field × String)}
    (drafted : draft.All P) (assigned : ∀ a ∈ values, P a.2) :
    ∀ e ∈ collect draft values, ∀ text ∈ e.texts, P text := by
  -- the draft holds assigned values only, and starts over empty after each enclosure
  induction values generalizing draft with
  | nil => simp [collect]
  | cons a rest ih =>
      obtain ⟨field, value⟩ := a
      have next := drafted.set (assigned _ List.mem_cons_self) field
      have later : ∀ a ∈ rest, P a.2 := fun a member => assigned a (List.mem_cons_of_mem _ member)
      simp only [collect]
      split
      · rename_i one done
        intro e member
        rcases List.mem_cons.1 member with rfl | member
        · exact next.complete done
        · exact ih Draft.all_empty later e member
      · exact ih next later

/-- What enclosures say stands in their block. -/
theorem mem_of_mem_listOfBlock {block : String} {e : Enclosure} (listed : e ∈ listOfBlock block)
    {text : String} (carried : text ∈ e.texts) {c : Char} (member : c ∈ text.toList) :
    c ∈ block.toList := by
  have assigned : ∀ a ∈ assignments block, ∀ c ∈ a.2.toList, c ∈ block.toList := by
    intro a among c inside
    obtain ⟨line, piece, found⟩ := List.mem_filterMap.1 among
    obtain ⟨⟨name, value⟩, cut, found⟩ := Option.bind_eq_some_iff.1 found
    obtain ⟨field, -, found⟩ := Option.bind_eq_some_iff.1 found
    cases found
    rw [String.toList_ofList] at inside
    have trimmed : c ∈ Text.trimChars line := by
      rw [(Text.cut?_eq_some_iff.1 cut).1]
      exact List.mem_append_right _ (List.mem_cons_of_mem _ inside)
    exact Text.mem_of_mem_pieces piece (Text.mem_of_mem_trimChars trimmed)
  exact texts_of_mem_collect (P := fun text => ∀ c ∈ text.toList, c ∈ block.toList)
    Draft.all_empty assigned e listed text carried c member

end Enclosure

/-! ## Entries -/

theorem Entry.mem_continuationsFrom {id : String} {text : ItemText} {number : Nat}
    {markups : List (Option Markup)} {entry : Entry}
    (member : entry ∈ continuationsFrom id text number markups) :
    ∃ n markup, entry = continuation id text n markup := by
  induction markups generalizing number with
  | nil => cases member
  | cons markup rest ih =>
      rcases List.mem_cons.1 member with rfl | later
      · exact ⟨number, markup, rfl⟩
      · exact ih later

/-- An entry dresses a markup up with the texts of its feature, as the primary one or as a
continuation. -/
theorem Feature.primary_or_continuation {f : Feature} {templates : Templates} {shape : Shape}
    {entry : Entry} (written : entry ∈ f.feedEntries templates shape) :
    (∃ markup, entry = .primary (templates.itemText f).value markup) ∨
      ∃ number markup, entry = .continuation f.id (templates.itemText f).value number markup := by
  unfold feedEntries at written
  cases value : (f.entries templates shape).value with
  | error reason =>
      rw [value] at written
      cases written
  | ok group =>
      rw [value] at written
      obtain ⟨_, markups, -, -, rfl⟩ := group_eq_ok_iff.1 value
      cases markups with
      | nil => exact .inl ⟨none, List.mem_singleton.1 written⟩
      | cons first rest =>
          rcases List.mem_cons.1 written with rfl | later
          · exact .inl ⟨first, rfl⟩
          · exact .inr (Entry.mem_continuationsFrom later)

/-! ## What is carried and what is supplied -/

/-- The texts of an item, in the order in which they are written. -/
def Entry.texts (entry : Entry) : List String :=
  entry.title :: (entry.published.toList ++ entry.link.toList ++ entry.guid.toList
    ++ entry.description :: entry.enclosures.flatMap Enclosure.texts)

/-- A continuation has a title, which it repeats for its description. -/
theorem Entry.texts_continuation (id : String) (text : ItemText) (number : Nat)
    (markup : Option Markup) :
    (continuation id text number markup).texts
      = ("Continuation of " ++ text.title) :: ([] ++ text.link.toList
          ++ [continuationGuid id text number] ++ ["Continuation of " ++ text.title]) := rfl

/-- The templates of an item. -/
def Templates.all (templates : Templates) : List Template :=
  [templates.title, templates.link, templates.description, templates.published,
    templates.enclosures]

namespace Publisher

variable (p : Publisher) (r : Request) (collections : List (List Feature))

/-- The texts that a feed carries, in the order in which they are written. -/
def carriedTexts : List String :=
  (p.channelTitle r).value :: (p.channelDescription r).value
    :: (p.feedEntries r collections).flatMap Entry.texts

/-- The texts that are supplied for a feed. -/
inductive Supplies : String → Prop
  | systemName : Supplies p.systemName
  | typeTitle {name : TypeName} {info : TypeInfo} {text : String} :
      name ∈ r.types → p.catalog name = .ok info → info.title = some text → Supplies text
  | typeAbstract {name : TypeName} {info : TypeInfo} {text : String} :
      name ∈ r.types → p.catalog name = .ok info → info.abstract = some text → Supplies text
  | identifier {f : Feature} : f ∈ collections.flatten → Supplies f.id
  | answer {f : Feature} {template : Template} {text : String} :
      f ∈ collections.flatten → template ∈ p.templates.all → template f = .ok text → Supplies text

/-- A text all of whose strays were supplied. -/
def Traced (text : String) : Prop :=
  ∀ c ∈ text.toList, Xml.isChar c = false →
    ∃ source, p.Supplies r collections source ∧ c ∈ source.toList

namespace Traced

variable {p r collections}

theorem of_supplies {text : String} (supplied : p.Supplies r collections text) :
    p.Traced r collections text :=
  fun _ member _ => ⟨text, supplied, member⟩

/-- A part of a text. -/
theorem part {text whole : String} (traced : p.Traced r collections whole)
    (inside : ∀ c ∈ text.toList, c ∈ whole.toList) : p.Traced r collections text :=
  fun c member stray => traced c (inside c member) stray

theorem of_legal {text : String} (legal : Xml.strays text.toList = []) :
    p.Traced r collections text := by
  intro c member stray
  rw [Xml.strays_eq_nil_iff.1 legal c member] at stray
  cases stray

theorem append {text more : String} (first : p.Traced r collections text)
    (second : p.Traced r collections more) : p.Traced r collections (text ++ more) := by
  intro c member stray
  rw [String.toList_append, List.mem_append] at member
  rcases member with member | member
  · exact first c member stray
  · exact second c member stray

theorem nonBlank? {text kept : String} (traced : p.Traced r collections text)
    (found : Text.nonBlank? text = some kept) : p.Traced r collections kept :=
  traced.part fun _ member => Text.mem_of_nonBlank? found member

end Traced

/-! ## The texts of a channel -/

/-- Every line of a channel text is a text of one of the types, trimmed. -/
theorem exists_of_mem_texts {catalog : Catalog} {field : TypeInfo → Option String}
    {types : List TypeName} {lines : List String} (found : catalog.texts field types = .ok lines)
    {line : String} (member : line ∈ lines) :
    ∃ name ∈ types, ∃ info, catalog name = .ok info ∧
      (field info).bind Text.nonBlank? = some line := by
  induction types generalizing lines with
  | nil =>
      cases found
      cases member
  | cons name rest ih =>
      rw [Catalog.texts_cons] at found
      cases answer : catalog name with
      | error e =>
          rw [answer] at found
          cases found
      | ok info =>
          rw [answer] at found
          cases more : catalog.texts field rest with
          | error cause =>
              rw [more] at found
              cases found
          | ok others =>
              rw [more] at found
              cases found
              rcases List.mem_append.1 member with here | later
              · exact ⟨name, List.mem_cons_self, info, answer, Option.mem_toList.1 here⟩
              · obtain ⟨other, inside, known⟩ := ih more later
                exact ⟨other, List.mem_cons_of_mem _ inside, known⟩

theorem traced_channelText {field : TypeInfo → Option String} (what : String)
    (supplied : ∀ name ∈ r.types, ∀ info, p.catalog name = .ok info →
      ∀ text ∈ field info, p.Supplies r collections text) :
    p.Traced r collections
      (p.catalog.channelText field (autoGenerated p.systemName) what r.types).value := by
  rw [Catalog.channelText_eq]
  cases found : p.catalog.texts field r.types with
  | error cause =>
      have fixed : p.Traced r collections "Auto-generated by " := .of_legal (by decide)
      exact fixed.append (.of_supplies .systemName)
  | ok lines =>
      intro c member stray
      simp only [Logged.value_pure, String.toList_intercalate] at member
      -- a character between the lines is a line break, and a line is a text of a type, trimmed
      rcases Url.mem_intercalate member with mark | ⟨part, inside, among⟩
      · obtain rfl : c = '\n' := by simpa using mark
        cases stray
      · obtain ⟨line, listed, rfl⟩ := List.mem_map.1 inside
        obtain ⟨name, asked, info, answer, known⟩ := exists_of_mem_texts found listed
        obtain ⟨text, has, kept⟩ := Option.bind_eq_some_iff.1 known
        have traced := Traced.of_supplies (supplied name asked info answer text has)
        exact traced.nonBlank? kept c among stray

/-! ## The texts of an item -/

variable {p r collections}

/-- What becomes of the answer of a template. -/
theorem answer_of_resolve {α : Type} {template : Template} {what : String} {f : Feature}
    {use : String → α} {standIn value : α}
    (found : (template.resolve what f use standIn).value = value) :
    (∃ text, template f = .ok text ∧ use text = value) ∨ standIn = value := by
  unfold Template.resolve at found
  cases answer : template f with
  | ok text =>
      rw [answer] at found
      exact .inl ⟨text, rfl, found⟩
  | error e =>
      rw [answer] at found
      exact .inr found

section Item

variable {f : Feature} (member : f ∈ collections.flatten)

include member

theorem traced_text {template : Template} (among : template ∈ p.templates.all) {what text : String}
    (found : (template.resolve what f id f.id).value = text) : p.Traced r collections text := by
  rcases answer_of_resolve found with ⟨answer, given, rfl⟩ | rfl
  · exact .of_supplies (.answer member among given)
  · exact .of_supplies (.identifier member)

theorem traced_optional {template : Template} (among : template ∈ p.templates.all)
    {what text : String}
    (found : (template.resolve what f Text.nonBlank? none).value = some text) :
    p.Traced r collections text := by
  rcases answer_of_resolve found with ⟨answer, given, kept⟩ | never
  · exact (Traced.of_supplies (.answer member among given)).nonBlank? kept
  · cases never

theorem traced_enclosures {template : Template} (among : template ∈ p.templates.all) {what : String}
    {e : Enclosure} (listed : e ∈ (template.resolve what f Enclosure.listOfBlock []).value)
    {text : String} (carried : text ∈ e.texts) : p.Traced r collections text := by
  have answered := answer_of_resolve
    (rfl : (template.resolve what f Enclosure.listOfBlock []).value = _)
  rcases answered with ⟨block, given, kept⟩ | none_
  · rw [← kept] at listed
    exact (Traced.of_supplies (.answer member among given)).part fun _ inside =>
      Enclosure.mem_of_mem_listOfBlock listed carried inside
  · rw [← none_] at listed
    cases listed

theorem traced_guid {number : Nat} :
    p.Traced r collections (Entry.continuationGuid f.id (p.templates.itemText f).value number) := by
  have owner : p.Traced r collections ((p.templates.itemText f).value.link.getD f.id) := by
    cases link : (p.templates.itemText f).value.link with
    | none => exact .of_supplies (.identifier member)
    | some text => exact traced_optional member (by simp [Templates.all]) link
  have figures : p.Traced r collections (String.ofList (Decimal.digitsOf number)) :=
    .of_legal (by
      rw [String.toList_ofList]
      exact Xml.strays_of_visible (Url.visible_digitsOf number))
  exact (owner.append (.of_legal (by decide))).append figures

/-- The texts of the entries of a feature. -/
theorem traced_entry {shape : Shape} {entry : Entry}
    (written : entry ∈ f.feedEntries p.templates shape) :
    ∀ text ∈ entry.texts, p.Traced r collections text := by
  have title : p.Traced r collections (p.templates.itemText f).value.title :=
    traced_text member (by simp [Templates.all]) rfl
  have link : ∀ text ∈ (p.templates.itemText f).value.link, p.Traced r collections text :=
    fun text found => traced_optional member (by simp [Templates.all]) found
  rcases Feature.primary_or_continuation written with ⟨markup, rfl⟩ | ⟨number, markup, rfl⟩
  · intro text carried
    simp only [Entry.texts, Entry.primary, List.mem_cons, List.mem_append, Option.mem_toList,
      List.mem_flatMap] at carried
    rcases carried with rfl | ((published | linked) | linked) | rfl | ⟨e, listed, inside⟩
    · exact title
    · exact traced_optional member (by simp [Templates.all]) published
    · exact link text linked
    · exact link text linked
    · exact traced_text member (by simp [Templates.all]) rfl
    · exact traced_enclosures member (by simp [Templates.all]) listed inside
  · have dressed : p.Traced r collections
        ("Continuation of " ++ (p.templates.itemText f).value.title) :=
      Traced.append (.of_legal (by decide)) title
    intro text carried
    simp only [Entry.texts_continuation, List.nil_append, List.mem_cons, List.mem_append,
      Option.mem_toList, List.not_mem_nil, or_false] at carried
    rcases carried with rfl | (linked | rfl) | rfl
    · exact dressed
    · exact link text linked
    · exact traced_guid member
    · exact dressed

end Item

/-- **Every stray of a feed was supplied.** -/
theorem traced_of_mem_carriedTexts {text : String} (carried : text ∈ p.carriedTexts r collections) :
    p.Traced r collections text := by
  rcases List.mem_cons.1 carried with rfl | carried
  · exact p.traced_channelText r collections "title" fun name asked info answer text found =>
      .typeTitle asked answer found
  rcases List.mem_cons.1 carried with rfl | carried
  · exact p.traced_channelText r collections "description" fun name asked info answer text found =>
      .typeAbstract asked answer found
  obtain ⟨entry, written, inside⟩ := List.mem_flatMap.1 carried
  obtain ⟨f, member, among⟩ := List.mem_flatMap.1 written
  exact traced_entry member among text inside

end Publisher

end GeoFeed

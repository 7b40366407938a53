/-
# GeoFeed.Proofs.Feed.Independence -- what texts have no say in

Templates, the catalog and the request name texts, and each of them may fail, at one
call and not at the next.  None of this has a say in which features are left out and why,
in which geometries are written, and in whether the feed comes to its end: the markups of
a feature are settled before its texts are looked at (`Feature.group_eq`).

Two feeds of the same features in the same shape are compared trace by trace.  They
differ in their texts, but they fail alike, skip alike, and are alike in the excerpt of
everything under the names of geometries (`Trace.Alike`).  One feature after the
other keeps this, and so do the header and the end (`alike_feedTrace`).

The texts of one feature do not mix either, with one exception: a continuation has no
description of its own and takes the title for it (`not_description_own`).

Main statement: `deliver_independent_of_texts`.
-/
import GeoFeed.Proofs.Feed.Markup
import GeoFeed.Proofs.Feed.Report
import GeoFeed.Proofs.Feed.Splitting

namespace GeoFeed

set_option autoImplicit false

open Xml (Spells Yields)

/-! ## Markups -/

namespace Feature

variable (f : Feature) (templates : Templates) (shape : Shape)

/-- The markups that the entries of a feature carry, or why it is left out. -/
def markups : Except SkipReason (List (Option Markup)) := do
  let geometries ← f.located shape
  geometries.mapM shape.scheme.entryMarkup

/-- **The texts of a feature only dress its markups up.** -/
theorem group_eq (text : ItemText) :
    f.group shape text = (f.markups shape).map (.ofMarkups f.id text) := by
  unfold group markups
  cases f.located shape with
  | error reason => rfl
  | ok geometries =>
      simp only [bind, Except.bind]
      cases geometries.mapM shape.scheme.entryMarkup <;> rfl

theorem value_entries :
    (f.entries templates shape).value
      = (f.markups shape).map (.ofMarkups f.id (templates.itemText f).value) :=
  f.group_eq shape _

/-- The markups of the entries that are written for a feature. -/
def carried : List (Option Markup) :=
  match f.markups shape with
  | .ok [] => [none]
  | .ok markups => markups
  | .error _ => []

theorem map_markup_feedEntries :
    (f.feedEntries templates shape).map Entry.markup = f.carried shape := by
  unfold feedEntries carried
  rw [value_entries]
  cases f.markups shape with
  | error reason => rfl
  | ok markups =>
      simp only [Except.map, EntryGroup.map_markup_ofMarkups]
      cases markups <;> rfl

theorem value_entries_eq_error_iff (reason : SkipReason) :
    (f.entries templates shape).value = .error reason ↔ f.markups shape = .error reason := by
  rw [value_entries]
  cases f.markups shape with
  | error other => simp [Except.map]
  | ok markups => simp [Except.map]

theorem counts_congr (other : Templates) : f.counts templates shape = f.counts other shape := by
  unfold counts
  rw [value_entries, value_entries]
  cases f.markups shape with
  | error reason => rfl
  | ok markups =>
      have length (text : ItemText) :
          (EntryGroup.ofMarkups f.id text markups).toList.length
            = if markups = [] then 1 else markups.length := by
        have through := congrArg List.length (EntryGroup.map_markup_ofMarkups f.id text markups)
        rw [List.length_map] at through
        split <;> simp_all
      have same := (length (templates.itemText f).value).trans (length (other.itemText f).value).symm
      simp only [EntryGroup.toList, List.length_cons, Nat.add_right_cancel_iff] at same
      simp only [Except.map, same]

end Feature

/-! ## Texts -/

/-- An answer is put to its use, and the stand-in is there for want of one. -/
theorem Template.value_resolve {α : Type} (template : Template) (what : String) (f : Feature)
    (use : String → α) (standIn : α) :
    (template.resolve what f use standIn).value = ((template f).toOption.map use).getD standIn := by
  unfold resolve
  cases template f <;> rfl

namespace Templates

variable (templates : Templates) (f : Feature)

/-- A text that is trimmed, or missing where nothing is left of it. -/
theorem value_resolve_nonBlank? (template : Template) (what : String) :
    (template.resolve what f Text.nonBlank? none).value
      = (template f).toOption.bind Text.nonBlank? := by
  rw [Template.value_resolve]
  cases (template f).toOption <;> rfl

theorem title_of_answer :
    (templates.itemText f).value.title = (templates.title f).toOption.getD f.id :=
  (templates.title.value_resolve ..).trans (by rw [Option.map_id, id])

theorem link_of_answer :
    (templates.itemText f).value.link = (templates.link f).toOption.bind Text.nonBlank? :=
  value_resolve_nonBlank? f templates.link _

theorem description_of_answer :
    (templates.itemText f).value.description = (templates.description f).toOption.getD f.id :=
  (templates.description.value_resolve ..).trans (by rw [Option.map_id, id])

theorem published_of_answer :
    (templates.itemText f).value.published
      = (templates.published f).toOption.bind Text.nonBlank? :=
  value_resolve_nonBlank? f templates.published _

theorem enclosures_of_answer :
    (templates.itemText f).value.enclosures
      = ((templates.enclosures f).toOption.map Enclosure.listOfBlock).getD [] :=
  templates.enclosures.value_resolve ..

end Templates

namespace EntryGroup

/-- Whether each text of the entries of a feature follows from the answer of one template
and the identifier.  A continuation has both its texts from the template of the title. -/
structure TextsFrom (group : EntryGroup) (templates : Templates) (f : Feature) : Prop where
  title : group.primary.title = (templates.title f).toOption.getD f.id
  link : group.primary.link = (templates.link f).toOption.bind Text.nonBlank?
  guid : group.primary.guid = (templates.link f).toOption.bind Text.nonBlank?
  description : group.primary.description = (templates.description f).toOption.getD f.id
  published : group.primary.published = (templates.published f).toOption.bind Text.nonBlank?
  enclosures : group.primary.enclosures
    = ((templates.enclosures f).toOption.map Enclosure.listOfBlock).getD []
  further : ∀ place entry, group.continuations[place]? = some entry →
    entry.title = "Continuation of " ++ (templates.title f).toOption.getD f.id ∧
      entry.description = "Continuation of " ++ (templates.title f).toOption.getD f.id ∧
      entry.link = (templates.link f).toOption.bind Text.nonBlank? ∧
      entry.guid = some (((templates.link f).toOption.bind Text.nonBlank?).getD f.id ++ "#"
        ++ toString (place + 1)) ∧
      entry.published = none ∧ entry.enclosures = []

/-- What stands among the continuations in a place is the continuation of the next number. -/
theorem exists_eq_continuation {id : String} {text : ItemText} {markups : List (Option Markup)}
    {place : Nat} {entry : Entry}
    (found : (ofMarkups id text markups).continuations[place]? = some entry) :
    ∃ markup, entry = .continuation id text (place + 1) markup := by
  cases markups with
  | nil => cases found
  | cons first rest =>
      rw [ofMarkups, Entry.getElem?_continuationsFrom, Nat.add_comm] at found
      obtain ⟨markup, -, same⟩ := Option.map_eq_some_iff.1 found
      exact ⟨markup, same.symm⟩

end EntryGroup

/-- **The texts of a feature do not mix**, but for the descriptions of continuations. -/
theorem Feature.textsFrom_of_entries {f : Feature} {templates : Templates} {shape : Shape}
    {group : EntryGroup} (built : (f.entries templates shape).value = .ok group) :
    group.TextsFrom templates f := by
  have title := templates.title_of_answer f
  have link := templates.link_of_answer f
  obtain ⟨markup, primary⟩ := primary_eq built
  refine ⟨?_, ?_, ?_, ?_, ?_, ?_, ?_⟩
  · rw [primary, ← title]; rfl
  · rw [primary, ← link]; rfl
  · rw [primary, ← link]; rfl
  · rw [primary, ← templates.description_of_answer f]; rfl
  · rw [primary, ← templates.published_of_answer f]; rfl
  · rw [primary, ← templates.enclosures_of_answer f]; rfl
  · intro place entry found
    obtain ⟨_, markups, -, -, rfl⟩ := group_eq_ok_iff.1 built
    obtain ⟨markup, rfl⟩ := EntryGroup.exists_eq_continuation found
    rw [← title, ← link]
    exact ⟨rfl, rfl, rfl, rfl, rfl, rfl⟩

/-- A continuation is described by the title of its feature, not by its description: with
the same answer for the description, and another for the title, it is described
otherwise. -/
theorem Feature.not_description_own :
    ¬ ∀ (f : Feature) (t u : Templates) (shape : Shape) (group group' : EntryGroup) (place : Nat)
        (entry entry' : Entry),
      t.description f = u.description f →
        (f.entries t shape).value = .ok group → (f.entries u shape).value = .ok group' →
          group.toList[place]? = some entry → group'.toList[place]? = some entry' →
            entry.description = entry'.description := by
  intro own
  have same := own ⟨"path", .empty, some (.multiPoint [⟨0, 0⟩, ⟨1, 2⟩])⟩ .byId
    { Templates.byId with title := fun _ => .ok "Walk" } ⟨.gml, true⟩ _ _ 1 _ _ rfl rfl rfl rfl rfl
  exact absurd same (by decide)

/-! ## Geometries in a document -/

/-- Whether a tag belongs to the markup of a geometry. -/
def isGeometryName (name : String) : Bool :=
  ["georss:", "geo:", "gml:"].any fun space => space.toList.isPrefixOf name.toList

/-- The tokens of all geometries in bytes. -/
def geometryTokens? (bytes : List UInt8) : Option (List Xml.Token) :=
  Xml.excerptOfBytes? isGeometryName bytes

namespace Xml

variable (name : String)

theorem yields_element (named : isName name) (other : isGeometryName name = false)
    (content : String) : Yields isGeometryName (element name content) [] :=
  .of_unwanted (Spells.element name named content).legible (by simp [element, Event.tagName?, other])

theorem yields_cdataElement (named : isName name) (other : isGeometryName name = false)
    (content : String) : Yields isGeometryName (cdataElement name content) [] := by
  refine .of_unwanted (Spells.cdataElement name named content).legible ?_
  intro e member name' found
  rcases List.mem_cons.1 member with rfl | member
  · exact Option.some.inj found ▸ other
  · rcases List.mem_append.1 member with inside | last
    · obtain ⟨part, -, rfl⟩ := List.mem_map.1 inside
      cases found
    · obtain rfl := List.mem_singleton.1 last
      exact Option.some.inj found ▸ other

theorem yields_opening (named : isName name) (other : isGeometryName name = false)
    {attributes : Attributes} (namedAll : attributes.all fun a => isName a.1) :
    Yields isGeometryName [.opening name attributes] [] :=
  .of_unwanted (by simpa [Event.Legible] using ⟨named, by simpa using namedAll⟩)
    (by simp [Event.tagName?, other])

theorem yields_closing (named : isName name) (other : isGeometryName name = false) :
    Yields isGeometryName [.closing name] [] :=
  .of_unwanted (by simpa [Event.Legible] using named) (by simp [Event.tagName?, other])

theorem yields_empty (named : isName name) (other : isGeometryName name = false)
    {attributes : Attributes} (namedAll : attributes.all fun a => isName a.1) :
    Yields isGeometryName [.empty name attributes] [] :=
  .of_unwanted (by simpa [Event.Legible] using ⟨named, by simpa using namedAll⟩)
    (by simp [Event.tagName?, other])

end Xml

namespace Entry

theorem yields_option {α : Type} {events : α → List Xml.Event}
    (each : ∀ x, Yields isGeometryName (events x) []) (found : Option α) :
    Yields isGeometryName ((found.map events).getD []) [] := by
  cases found with
  | none => exact .nil
  | some x => exact each x

theorem yields_enclosures (enclosures : List Enclosure) :
    Yields isGeometryName (enclosures.map enclosureEvent) [] := by
  induction enclosures with
  | nil => exact .nil
  | cons e rest ih =>
      have one : Yields isGeometryName [enclosureEvent e] [] :=
        Xml.yields_empty _ (by decide) (by decide) (by
          simp only [List.all_cons, List.all_nil, Bool.and_true]
          decide)
      exact one.append ih

/-- Nothing before the geometry of an item has a name of geometries. -/
theorem yields_frontEvents (entry : Entry) : Yields isGeometryName entry.frontEvents [] := by
  have item : Yields isGeometryName [.opening "item" []] [] :=
    Xml.yields_opening _ (by decide) (by decide) rfl
  have title := Xml.yields_element "title" (by decide) (by decide) entry.title
  have published := yields_option
    (Xml.yields_element "pubDate" (by decide) (by decide)) entry.published
  have link := yields_option
    (Xml.yields_cdataElement "link" (by decide) (by decide)) entry.link
  have guid := yields_option
    (Xml.yields_cdataElement "guid" (by decide) (by decide)) entry.guid
  have description := Xml.yields_cdataElement "description" (by decide) (by decide)
    entry.description
  exact item.append (((((title.append published).append link).append guid).append description).append
    (yields_enclosures entry.enclosures))

/-- An item leaves the tokens of its geometry. -/
theorem yields_itemEvents {entry : Entry}
    (made : ∀ m, entry.markup = some m → GeometryEvents m.events) :
    Yields isGeometryName entry.itemEvents
      (((entry.markup.map Markup.events).getD []).flatMap Xml.Event.tokens) := by
  have geometry : Yields isGeometryName
      ((entry.markup.map Markup.events).getD [] ++ [.closing "item"])
      (((entry.markup.map Markup.events).getD []).flatMap Xml.Event.tokens) := by
    cases found : entry.markup with
    | none => exact Xml.yields_closing _ (by decide) (by decide)
    | some m =>
        have names : ∀ name ∈ geometryNames, isGeometryName name = true := by decide
        have geometry := made m found
        exact .of_wanted geometry.legible
          (fun e member name among => names name (geometry.names e member name among))
          geometry.head (by decide) (by decide)
  rw [itemEvents, List.append_assoc]
  exact entry.yields_frontEvents.append geometry

end Entry

/-- A feature is reported as left out exactly if it is, whatever its texts. -/
theorem Feature.skipReports_eq (f : Feature) (templates : Templates) (shape : Shape) :
    f.skipReports templates shape = match f.markups shape with
      | .ok _ => []
      | .error reason => [skipReport f reason] := by
  rw [skipReports, value_entries]
  cases f.markups shape <;> rfl

/-! ## Traces that are alike -/

namespace Trace

/-- Traces that end alike, write the same geometries and leave the same features out. -/
structure Alike (t u : Trace) : Prop where
  failure : t.failure = u.failure
  skips : Log.skips t.log = Log.skips u.log
  geometry : ∃ kept, Yields isGeometryName t.events kept ∧ Yields isGeometryName u.events kept

namespace Alike

/-- Reports do not matter, unless they tell of a feature that is left out. -/
theorem of_logs {log log' : List Log.Entry} (same : Log.skips log = Log.skips log') :
    Alike { log := log } { log := log' } :=
  ⟨rfl, same, [], .nil, .nil⟩

theorem andThen {t u next next' : Trace} (first : t.Alike u) (second : next.Alike next') :
    (t.andThen next).Alike (u.andThen next') := by
  cases failed : t.failure with
  | some cause =>
      have failed' : u.failure = some cause := first.failure ▸ failed
      rw [andThen_of_failure (by simp [failed]), andThen_of_failure (by simp [failed'])]
      exact first
  | none =>
      have ok : u.failure = none := first.failure ▸ failed
      obtain ⟨kept, mine, yours⟩ := first.geometry
      obtain ⟨more, mine', yours'⟩ := second.geometry
      rw [andThen_of_ok failed, andThen_of_ok ok]
      refine ⟨second.failure, ?_, kept ++ more, mine.append mine', yours.append yours'⟩
      simp only [Log.skips_append, first.skips, second.skips]

/-- Rows of traces that are alike one by one. -/
theorem concat {α : Type} {items : List α} {t u : α → Trace}
    (each : ∀ item ∈ items, (t item).Alike (u item)) :
    (concat (items.map t)).Alike (Trace.concat (items.map u)) := by
  induction items with
  | nil => exact of_logs rfl
  | cons item rest ih =>
      exact (each item List.mem_cons_self).andThen
        (ih fun other member => each other (List.mem_cons_of_mem _ member))

end Alike

end Trace

/-- Items with the same geometry do alike. -/
theorem Entry.alike_trace {entry other : Entry} (same : entry.markup = other.markup)
    (made : ∀ m, entry.markup = some m → GeometryEvents m.events) (feature : String) :
    (entry.trace feature).Alike (other.trace feature) := by
  have made' : ∀ m, other.markup = some m → GeometryEvents m.events :=
    fun m found => made m (same ▸ found)
  have unsupported : entry.unsupported? = other.unsupported? := by
    rw [unsupported?, unsupported?, same]
  unfold trace
  rw [unsupported]
  cases other.unsupported? with
  | none =>
      have yields := entry.yields_itemEvents made
      rw [same] at yields
      exact ⟨rfl, rfl, _, yields, other.yields_itemEvents made'⟩
  | some kind => exact ⟨rfl, rfl, [], entry.yields_frontEvents, other.yields_frontEvents⟩

/-- Items do alike in a row. -/
theorem Entry.alike_concat {entries others : List Entry}
    (same : entries.map Entry.markup = others.map Entry.markup)
    (made : ∀ entry ∈ entries, ∀ m, entry.markup = some m → GeometryEvents m.events)
    (feature : String) :
    (Trace.concat (entries.map (Entry.trace feature))).Alike
      (Trace.concat (others.map (Entry.trace feature))) := by
  induction entries generalizing others with
  | nil =>
      obtain rfl := List.map_eq_nil_iff.1 same.symm
      exact .of_logs rfl
  | cons entry rest ih =>
      cases others with
      | nil => cases same
      | cons other more =>
          obtain ⟨one, later⟩ := List.cons.inj same
          exact (alike_trace one (made entry List.mem_cons_self) feature).andThen
            (ih later fun e member => made e (List.mem_cons_of_mem _ member))

/-- The blocks of a feature with whatever texts. -/
theorem Feature.alike_blockTrace (f : Feature) (templates other : Templates) (shape : Shape) :
    (f.blockTrace templates shape).Alike (f.blockTrace other shape) := by
  have reports : Log.skips (f.blockReports templates shape)
      = Log.skips (f.blockReports other shape) := by
    rw [skips_blockReports, skips_blockReports, skipReports_eq, skipReports_eq]
  have markups := (f.map_markup_feedEntries templates shape).trans
    (f.map_markup_feedEntries other shape).symm
  exact (Trace.Alike.of_logs reports).andThen (Entry.alike_concat markups
    (fun entry member m found => geometryEvents_of_mem_feedEntries member found) f.id)

/-! ## Feeds -/

namespace Trace

/-- Events outside the geometries, each run with its own. -/
theorem Alike.of_events {events events' : List Xml.Event}
    (plain : Yields isGeometryName events []) (plain' : Yields isGeometryName events' []) :
    Alike { events := events } { events := events' } :=
  ⟨rfl, rfl, [], plain, plain'⟩

/-- A part of the header with its text, however the text came about. -/
theorem Alike.after {x y : Logged String} {events : String → List Xml.Event}
    (plain : ∀ text, Yields isGeometryName (events text) [])
    (silent : Log.skips x.reports = []) (silent' : Log.skips y.reports = []) :
    (ofSteps (Step.after x fun text => Step.events (events text))).Alike
      (ofSteps (Step.after y fun text => Step.events (events text))) := by
  rw [ofSteps_after, ofSteps_after, ofSteps_events, ofSteps_events]
  exact (of_logs (silent.trans silent'.symm)).andThen (.of_events (plain _) (plain _))

end Trace

theorem Request.skips_channelLink (r : Request) : Log.skips r.channelLink.reports = [] :=
  Log.skips_eq_nil fun _ member => by
    rw [message_of_mem_channelLink member]
    decide

theorem yields_linkEvents (link : String) : Yields isGeometryName (linkEvents link) [] := by
  have self : Yields isGeometryName [.empty "atom:link" [("href", link), ("rel", "self")]] [] :=
    Xml.yields_empty _ (by decide) (by decide) (by
      simp only [List.all_cons, List.all_nil, Bool.and_true]
      decide)
  exact (Xml.yields_cdataElement "link" (by decide) (by decide) link).append self

namespace Service

variable {s t : Service} {r q : Request}

/-- What the caller is told of a run of the feed. -/
def result (s : Service) (r : Request) (collections : List (List Feature)) (run : FeedRun) :
    Except FeedError Summary :=
  match run.delivery.failure with
  | none => .ok (s.planSummary r collections)
  | some cause => .error cause

/-- The feed of a publisher ends as that of its service does. -/
theorem result_service (p : Publisher) (r : Request) (collections : List (List Feature))
    (run : FeedRun) : p.service.result r collections run = p.result r collections run := by
  unfold result Publisher.result
  cases run.delivery.failure with
  | none => exact congrArg Except.ok (p.planSummary_service r collections)
  | some cause => rfl

/-- The shape of a feed is settled by the options and the scheme of the service. -/
theorem shape_eq (standard : s.standard = t.standard) (options : r.options = q.options) :
    r.shape s.standard = q.shape t.standard := by
  simp only [Request.shape, Request.scheme, Request.continuation, standard, options]

theorem skips_channelTitle (s : Service) (r : Request) :
    Log.skips (s.channelTitle r).reports = [] :=
  Log.skips_eq_nil fun _ member => by
    rw [Catalog.message_of_mem_channelTextOf member]
    decide

theorem skips_channelDescription (s : Service) (r : Request) :
    Log.skips (s.channelDescription r).reports = [] :=
  Log.skips_eq_nil fun _ member => by
    rw [Catalog.message_of_mem_channelTextOf member]
    decide

theorem alike_header (s t : Service) (r q : Request) (scheme : Scheme) :
    (Trace.ofSteps (headerSteps (s.channelTitle r) (s.channelDescription r) r scheme)).Alike
      (Trace.ofSteps (headerSteps (t.channelTitle q) (t.channelDescription q) q scheme)) := by
  have root : Yields isGeometryName [.opening "rss" (("version", "2.0") :: namespaceAttributes scheme),
      .opening "channel" []] [] :=
    (Xml.yields_opening "rss" (by decide) (by decide) (named_namespaceAttributes scheme)).append
      (Xml.yields_opening "channel" (by decide) (by decide) rfl)
  have title := Trace.Alike.after (Xml.yields_element "title" (by decide) (by decide))
    (s.skips_channelTitle r) (t.skips_channelTitle q)
  have description := Trace.Alike.after (Xml.yields_element "description" (by decide) (by decide))
    (s.skips_channelDescription r) (t.skips_channelDescription q)
  have link := Trace.Alike.after yields_linkEvents r.skips_channelLink q.skips_channelLink
  simp only [headerSteps, Trace.ofSteps_append, Trace.ofSteps_events]
  exact (((Trace.Alike.of_events root root).andThen title).andThen description).andThen link

/-- The steps of a feed, with each feature in its place. -/
theorem bodySteps_eq (s : Service) (r : Request) (shape : Shape) (features : List Feature) :
    s.bodySteps r shape features
      = headerSteps (s.channelTitle r) (s.channelDescription r) r shape.scheme
        ++ features.zipIdx.flatMap (fun row => row.1.blockSteps (s.templates row.2) shape)
        ++ footerSteps (.ofFeatures shape (s.attended features)) := by
  rw [bodySteps, attended, List.flatMap_map]

/-- **Feeds of the same features in the same shape do alike.** -/
theorem alike_feedTrace (standard : s.standard = t.standard) (options : r.options = q.options)
    (collections : List (List Feature)) :
    (s.feedTrace r collections).Alike (t.feedTrace q collections) := by
  have footer (counts counts' : Summary) :
      (Trace.ofSteps (footerSteps counts)).Alike (Trace.ofSteps (footerSteps counts')) := by
    have closing : Yields isGeometryName footerEvents [] :=
      (Xml.yields_closing "channel" (by decide) (by decide)).append
        (Xml.yields_closing "rss" (by decide) (by decide))
    simp only [footerSteps, Trace.ofSteps_append, Trace.ofSteps_events]
    exact (Trace.Alike.of_events closing closing).andThen (.of_logs rfl)
  rw [feedTrace, feedTrace, plan, plan, shape_eq standard options, Trace.ofSteps_after,
    Trace.ofSteps_after, bodySteps_eq, bodySteps_eq]
  simp only [Trace.ofSteps_append, Trace.ofSteps_flatMap, Feature.ofSteps_blockSteps]
  have blocks := Trace.Alike.concat fun row (_ : row ∈ collections.flatten.zipIdx) =>
    row.1.alike_blockTrace (s.templates row.2) (t.templates row.2) (q.shape t.standard).value
  exact (Trace.Alike.of_logs rfl).andThen (((alike_header s t r q _).andThen blocks).andThen
    (footer _ _))

theorem planSummary_eq (standard : s.standard = t.standard) (options : r.options = q.options)
    (collections : List (List Feature)) :
    s.planSummary r collections = t.planSummary q collections := by
  rw [planSummary, planSummary, shape_eq standard options, Summary.ofFeatures, Summary.ofFeatures,
    attended, attended, List.map_map, List.map_map]
  congr 1
  exact List.map_congr_left fun row _ => row.1.counts_congr (s.templates row.2) _ (t.templates row.2)

/-- Whatever answers a service gets, its feed fails for a geometry without an element only. -/
theorem exists_unsupported_of_failure {collections : List (List Feature)} {cause : FeedError}
    (failed : (s.feedTrace r collections).failure = some cause) :
    ∃ f ∈ collections.flatten, ∃ kind, cause = .gml f.id (.unsupported kind) := by
  -- the feed fails as that of a publisher does, about which this is known
  have alike := alike_feedTrace (s := s) (t := (Publisher.byId s.standard).service) (r := r) rfl rfl
    collections
  rw [alike.failure] at failed
  obtain ⟨-, stop, rfl⟩ := (Publisher.byId s.standard).exists_firstLacking_of_failure r collections
    failed
  exact ⟨stop.feature, stop.feature_mem, _, rfl⟩

theorem result_eq_error_iff (s : Service) (r : Request) (collections : List (List Feature))
    (run : FeedRun) (cause : FeedError) :
    s.result r collections run = .error cause ↔ run.delivery.failure = some cause := by
  unfold result
  split <;> simp_all

/-- **Texts have no say in what is encoded.**  Two services with the same standard scheme,
asked with the same options for the same features, come to the same result on outputs
that take everything, whatever the catalog and the templates answer to each of them at each
call, whatever they are called and wherever they live: the same counts, or the same failure,
which is that of a geometry without an element.  The same features are left out for the same
reasons, and the same geometries are written.  In the entries of a feature each text follows
from the answer of one template and the identifier. -/
theorem deliver_independent_of_texts (standard : s.standard = t.standard)
    (options : r.options = q.options) (collections : List (List Feature)) (output other : Output)
    (accepts : output.room = none) (accepts' : other.room = none) :
    s.result r collections (s.deliver output .standard r collections)
        = t.result q collections (t.deliver other .standard q collections) ∧
      (∀ cause, s.result r collections (s.deliver output .standard r collections) = .error cause →
        ∃ f ∈ collections.flatten, ∃ kind, cause = .gml f.id (.unsupported kind)) ∧
      (∀ (place : Nat) (f : Feature), collections.flatten[place]? = some f → ∀ reason,
        (f.entries (s.templates place) (r.shape s.standard).value).value = .error reason ↔
          (f.entries (t.templates place) (q.shape t.standard).value).value = .error reason) ∧
      Log.skips (s.deliver output .standard r collections).log
        = Log.skips (t.deliver other .standard q collections).log ∧
      (∃ tokens, geometryTokens? (s.deliver output .standard r collections).delivery.bytes
            = some tokens ∧
          geometryTokens? (t.deliver other .standard q collections).delivery.bytes = some tokens) ∧
      ∀ (place : Nat) (f : Feature) (group : EntryGroup), collections.flatten[place]? = some f →
        (f.entries (s.templates place) (r.shape s.standard).value).value = .ok group →
          group.TextsFrom (s.templates place) f := by
  have alike := alike_feedTrace standard options collections
  have counts := planSummary_eq standard options collections
  have shape := shape_eq standard options
  rw [deliver_unlimited s r collections accepts, deliver_unlimited t q collections accepts']
  refine ⟨?_, ?_, ?_, alike.skips, ?_, ?_⟩
  · simp only [result, alike.failure, counts]
  · intro cause error
    exact exists_unsupported_of_failure ((s.result_eq_error_iff r collections _ cause).1 error)
  · intro place f _ reason
    rw [f.value_entries_eq_error_iff, f.value_entries_eq_error_iff, shape]
  · obtain ⟨tokens, mine, yours⟩ := alike.geometry
    exact ⟨tokens, Xml.excerptOfBytes?_bytes mine, Xml.excerptOfBytes?_bytes yours⟩
  · intro place f group _ built
    exact Feature.textsFrom_of_entries built

/-- A service whose catalog has no titles, and whose templates answer for the first feature
alone, but for its title. -/
def fading (standard : Scheme) : Service where
  titles _ _ := .error (.unavailable "no titles")
  abstracts _ _ := .ok {}
  templates
    | 0 => { Templates.byId with title := fun _ => .error (.render "no title") }
    | _ =>
      { title := fun _ => .error (.render "gone")
        link := fun _ => .error (.render "gone")
        description := fun _ => .error (.render "gone")
        published := fun _ => .error (.render "gone")
        enclosures := fun _ => .error (.render "gone") }
  systemName := "fading"
  standard := standard

/-- A request for the continuations of paths. -/
def pathsRequest : Request :=
  { Request.ofOptions [("continuation", "true")] with baseUrl := "", types := [.ofText "paths" ""] }

/-- Two points that are written as two items. -/
def path : Feature := ⟨"path", .empty, some (.multiPoint [⟨0, 0⟩, ⟨1, 2⟩])⟩

/-- A box that ends the feed under the GML scheme. -/
def box : Feature := ⟨"box", .empty, some (.rect ⟨0, 0⟩ ⟨1, 1⟩)⟩

/-- A service that loses its answers on the way fails for the box alone, as does one that
answers everything.  The second point is described by the stand-in for the title. -/
theorem deliver_independent_of_texts_fading :
    (fading .gml).standard = (Publisher.byId .gml).service.standard ∧
      pathsRequest.options = (Request.ofOptions [("continuation", "true")]).options ∧
      (⟨none, ""⟩ : Output).room = none ∧
      (Publisher.byId .gml).result (.ofOptions [("continuation", "true")]) [[path], [box]]
          ((Publisher.byId .gml).deliver ⟨none, ""⟩ .standard (.ofOptions [("continuation", "true")])
            [[path], [box]])
        = .error (.gml "box" (.unsupported "Rect")) ∧
      (fading .gml).result pathsRequest [[path], [box]]
          ((fading .gml).deliver ⟨none, ""⟩ .standard pathsRequest [[path], [box]])
        = .error (.gml "box" (.unsupported "Rect")) ∧
      ∃ group entry,
        (path.entries ((fading .gml).templates 0) ⟨.gml, true⟩).value = .ok group ∧
          group.continuations[0]? = some entry ∧ group.primary.description = "path" ∧
          entry.title = "Continuation of path" ∧ entry.description = "Continuation of path" ∧
          entry.guid = some "path#1" := by
  have independent := deliver_independent_of_texts (s := fading .gml)
    (t := (Publisher.byId .gml).service) (r := pathsRequest)
    (q := .ofOptions [("continuation", "true")]) rfl rfl [[path], [box]] ⟨none, ""⟩ ⟨none, ""⟩ rfl rfl
  have failed : (Publisher.byId .gml).result (.ofOptions [("continuation", "true")]) [[path], [box]]
      ((Publisher.byId .gml).deliver ⟨none, ""⟩ .standard (.ofOptions [("continuation", "true")])
        [[path], [box]])
      = .error (.gml "box" (.unsupported "Rect")) := by
    decide +kernel
  have same := independent.1
  rw [result_service, Publisher.deliver_service, failed] at same
  have shape : (pathsRequest.shape .gml).value = ⟨.gml, true⟩ := by decide +kernel
  have some_group : ∃ group, (path.entries ((fading .gml).templates 0) ⟨.gml, true⟩).value = .ok group ∧
      ∃ entry, group.continuations[0]? = some entry :=
    ⟨_, rfl, _, rfl⟩
  obtain ⟨group, built, entry, found⟩ := some_group
  have texts := independent.2.2.2.2.2 0 path group rfl (shape ▸ built)
  obtain ⟨title, description, -, guid, -, -⟩ := texts.further 0 entry found
  exact ⟨rfl, rfl, rfl, failed, same, group, entry, built, found, texts.description, title,
    description, guid⟩

end Service

end GeoFeed

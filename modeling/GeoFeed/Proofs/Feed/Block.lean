/-
# GeoFeed.Proofs.Feed.Block -- a feed as header, blocks and end

With the standard encoder and an output that takes everything, a feed is its
header, one block for each feature, and its end, one after the other
(`feedTrace_eq`).  The header and the end do not depend on the features, and a
block depends on its feature and the settings of the feed alone.

A block consists of the items of the feature's entries, and a feature without
entries has an empty block (`blockBytes_eq_nil_iff`).  An item ends early only
where the encoder has no element for its geometry; it has then written everything
before the geometry and nothing of it (`Entry.trace`).
-/
import Mathlib.Data.List.Basic
import GeoFeed.Proofs.Feed.Entry
import GeoFeed.Proofs.Feed.Trace

namespace GeoFeed

set_option autoImplicit false

namespace Trace

/-- What steps do with the standard encoder. -/
def ofSteps (steps : List Step) : Trace :=
  concat (steps.map Step.standardTrace)

@[simp]
theorem ofSteps_append (front back : List Step) :
    ofSteps (front ++ back) = (ofSteps front).andThen (ofSteps back) := by
  rw [ofSteps, List.map_append, concat_append, ofSteps, ofSteps]

theorem ofSteps_flatMap {α : Type} (steps : α → List Step) (items : List α) :
    ofSteps (items.flatMap steps) = concat (items.map fun item => ofSteps (steps item)) := by
  rw [ofSteps, List.map_flatMap, concat_flatMap]
  rfl

/-- Events outside all items and in items are written alike. -/
@[simp]
theorem ofSteps_writes (feature : String) (es : List Xml.Event) :
    ofSteps ((Piece.events es).map (.write feature)) = { events := es } := by
  induction es with
  | nil => rfl
  | cons e rest ih =>
      simp only [ofSteps, Piece.events, List.map_cons, concat_cons] at ih ⊢
      rw [ih]
      rfl

@[simp]
theorem ofSteps_events (es : List Xml.Event) : ofSteps (Step.events es) = { events := es } := by
  have same : Step.events es = (Piece.events es).map (.write "") := by
    simp [Step.events, Piece.events]
  rw [same, ofSteps_writes]

@[simp]
theorem ofSteps_reports (entries : List Log.Entry) :
    ofSteps (entries.map .report) = { log := entries } := by
  induction entries with
  | nil => rfl
  | cons entry rest ih =>
      simp only [ofSteps, List.map_cons, concat_cons] at ih ⊢
      rw [ih]
      rfl

theorem ofSteps_after {α : Type} (x : Logged α) (steps : α → List Step) :
    ofSteps (Step.after x steps) = andThen { log := x.reports } (ofSteps (steps x.value)) := by
  rw [Step.after, ofSteps_append, ofSteps_reports]

end Trace

/-! ## Markup and entries -/

namespace Markup

/-- The events of markup, as far as the standard encoder gets. -/
def events : Markup → List Xml.Event
  | simple name content => Xml.element name content
  | latLong lat lon =>
      Xml.element "geo:lat" (Decimal.toText lat) ++ Xml.element "geo:long" (Decimal.toText lon)
  | gml element geometry => (Gml.encode element geometry).events

/-- The kind of a geometry that the standard encoder has no element for. -/
def unsupported? : Markup → Option String
  | gml element geometry => (Gml.encode element geometry).unsupported
  | _ => none

/-- The failure of an item of a feature, by the kind that is not supported. -/
def failure (feature kind : String) : FeedError :=
  .gml feature (.unsupported kind)

theorem ofSteps_pieces (m : Markup) (feature : String) :
    Trace.ofSteps (m.pieces.map (.write feature))
      = { events := m.events, failure := m.unsupported?.map (failure feature) } := by
  cases m with
  | simple name content => exact Trace.ofSteps_writes feature _
  | latLong lat lon => exact Trace.ofSteps_writes feature _
  | gml element geometry => exact Trace.andThen_idle _

/-- The standard encoder fails before it writes anything. -/
theorem events_of_unsupported {m : Markup} (failed : m.unsupported?.isSome) : m.events = [] := by
  cases m with
  | simple name content => simp [unsupported?] at failed
  | latLong lat lon => simp [unsupported?] at failed
  | gml element geometry =>
      simp only [unsupported?, events, Gml.encode] at failed ⊢
      split at failed
      · simp at failed
      · simp

end Markup

namespace Entry

/-- The kind of geometry that keeps an entry from being written. -/
def unsupported? (entry : Entry) : Option String :=
  entry.markup.bind Markup.unsupported?

/-- The events of an item. -/
def itemEvents (entry : Entry) : List Xml.Event :=
  entry.frontEvents ++ (entry.markup.map Markup.events).getD [] ++ [.closing "item"]

/-- What an item of a feature does: all of it is written, or only what comes before
its geometry. -/
def trace (feature : String) (entry : Entry) : Trace :=
  match entry.unsupported? with
  | none => { events := entry.itemEvents }
  | some kind =>
      { events := entry.frontEvents, failure := some (Markup.failure feature kind) }

theorem ofSteps_pieces (entry : Entry) (feature : String) :
    Trace.ofSteps (entry.pieces.map (.write feature)) = entry.trace feature := by
  rw [pieces, List.map_append, List.map_append, Trace.ofSteps_append, Trace.ofSteps_append,
    Trace.ofSteps_writes, Trace.ofSteps_writes]
  cases found : entry.markup with
  | none =>
      have supported : entry.unsupported? = none := by rw [unsupported?, found]; rfl
      simp only [trace, supported, itemEvents, found]
      rfl
  | some m =>
      simp only [Option.map_some, Option.getD_some, m.ofSteps_pieces]
      cases failed : m.unsupported? with
      | none =>
          have supported : entry.unsupported? = none := by
            rw [unsupported?, found, Option.bind_some, failed]
          simp only [trace, supported, itemEvents, found]
          rfl
      | some kind =>
          have unsupported : entry.unsupported? = some kind := by
            rw [unsupported?, found, Option.bind_some, failed]
          simp only [trace, unsupported, Markup.events_of_unsupported (m := m) (by simp [failed])]
          simp [Trace.andThen]

theorem failure_trace (feature : String) (entry : Entry) :
    (entry.trace feature).failure = entry.unsupported?.map (Markup.failure feature) := by
  unfold trace
  split <;> simp_all

theorem log_trace (feature : String) (entry : Entry) : (entry.trace feature).log = [] := by
  unfold trace
  split <;> rfl

theorem events_trace_of_ok {feature : String} {entry : Entry} (ok : entry.unsupported? = none) :
    (entry.trace feature).events = entry.itemEvents := by
  rw [trace, ok]

/-- Entries that come to their end are written one after the other. -/
theorem flatMap_events_trace {feature : String} {entries : List Entry}
    (ok : ∀ entry ∈ entries, entry.unsupported? = none) :
    (entries.map (trace feature)).flatMap Trace.events = entries.flatMap itemEvents := by
  rw [List.flatMap_map]
  exact List.flatMap_congr fun entry member => events_trace_of_ok (ok entry member)

theorem flatMap_log_trace (feature : String) (entries : List Entry) :
    (entries.map (trace feature)).flatMap Trace.log = [] := by
  simp [List.flatMap_map, log_trace]

end Entry

/-! ## Features -/

namespace Feature

variable (f : Feature) (templates : Templates) (shape : Shape)

/-- What is reported about a feature. -/
def blockReports : List Log.Entry :=
  (f.entries templates shape).reports ++
    match (f.entries templates shape).value with
    | .ok _ => []
    | .error reason => [skipReport f reason]

/-- The events of the block of a feature. -/
def blockEvents : List Xml.Event :=
  (f.feedEntries templates shape).flatMap Entry.itemEvents

/-- The bytes of the block of a feature. -/
def blockBytes : List UInt8 :=
  Xml.bytes (f.blockEvents templates shape)

/-- What the block of a feature does. -/
def blockTrace : Trace :=
  Trace.andThen { log := f.blockReports templates shape }
    (Trace.concat ((f.feedEntries templates shape).map (Entry.trace f.id)))

theorem ofSteps_blockSteps :
    Trace.ofSteps (f.blockSteps templates shape) = f.blockTrace templates shape := by
  rw [blockSteps, Trace.ofSteps_after, blockTrace, blockReports, feedEntries]
  cases (f.entries templates shape).value with
  | error reason =>
      have one : Trace.ofSteps [.report (skipReport f reason)]
          = { log := [skipReport f reason] } := rfl
      simp only [one, List.map_nil, Trace.concat_nil, Trace.andThen_idle]
      rfl
  | ok group =>
      have items : Trace.ofSteps (group.pieces.map (.write f.id))
          = Trace.concat (group.toList.map (Entry.trace f.id)) := by
        rw [EntryGroup.pieces, List.map_flatMap, Trace.ofSteps_flatMap]
        simp only [Entry.ofSteps_pieces]
      simp only [items, List.append_nil]

theorem feedEntries_eq_nil_iff :
    f.feedEntries templates shape = [] ↔ f.isSkipped templates shape = true := by
  unfold feedEntries isSkipped
  cases (f.entries templates shape).value with
  | ok group => simp [EntryGroup.toList]
  | error reason => simp

theorem bytes_itemEvents_ne_nil (entry : Entry) : Xml.bytes entry.itemEvents ≠ [] := by
  have first : Xml.bytes entry.itemEvents
      = utf8Bytes (Xml.Event.opening "item" []).toChars ++ _ := Xml.bytes_cons _ _
  rw [first]
  intro empty
  have first_empty := (List.append_eq_nil_iff.1 empty).1
  exact String.utf8EncodeChar_ne_nil (List.flatMap_eq_nil_iff.1 first_empty '<' List.mem_cons_self)

/-- **A feature has an empty block exactly if it is left out.** -/
theorem blockBytes_eq_nil_iff :
    f.blockBytes templates shape = [] ↔ f.isSkipped templates shape = true := by
  rw [← feedEntries_eq_nil_iff, blockBytes, blockEvents, Xml.bytes_flatMap,
    List.flatMap_eq_nil_iff]
  constructor
  · intro empty
    rw [List.eq_nil_iff_forall_not_mem]
    intro entry member
    exact bytes_itemEvents_ne_nil entry (empty entry member)
  · intro left_out entry member
    rw [left_out] at member
    cases member

theorem failure_blockTrace_eq_none_iff :
    (f.blockTrace templates shape).failure = none
      ↔ ∀ entry ∈ f.feedEntries templates shape, entry.unsupported? = none := by
  rw [blockTrace, Trace.andThen_of_ok rfl, Trace.concat_failure_eq_none_iff]
  simp [Entry.failure_trace]

variable {f templates shape}

theorem failure_trace_of_mem {entries : List Entry}
    (ok : ∀ entry ∈ entries, entry.unsupported? = none) :
    ∀ t ∈ entries.map (Entry.trace f.id), t.failure = none := by
  intro t member
  obtain ⟨entry, inside, rfl⟩ := List.mem_map.1 member
  rw [Entry.failure_trace, ok entry inside]
  rfl

/-- A block that comes to its end writes all items. -/
theorem blockTrace_of_ok (ok : (f.blockTrace templates shape).failure = none) :
    f.blockTrace templates shape
      = ⟨f.blockEvents templates shape, none, f.blockReports templates shape⟩ := by
  have supported := (f.failure_blockTrace_eq_none_iff templates shape).1 ok
  rw [blockTrace, Trace.concat_of_ok (failure_trace_of_mem supported), Trace.andThen_of_ok rfl,
    Entry.flatMap_events_trace supported, Entry.flatMap_log_trace, List.append_nil,
    List.nil_append, blockEvents]

/-- **A block stops before the first geometry without an element.** -/
theorem blockTrace_of_unsupported {front back : List Entry} {entry : Entry} {kind : String}
    (entries : f.feedEntries templates shape = front ++ entry :: back)
    (ok : ∀ e ∈ front, e.unsupported? = none) (unsupported : entry.unsupported? = some kind) :
    f.blockTrace templates shape
      = ⟨front.flatMap Entry.itemEvents ++ entry.frontEvents, some (Markup.failure f.id kind),
          f.blockReports templates shape⟩ := by
  have failing : entry.trace f.id
      = { events := entry.frontEvents, failure := some (Markup.failure f.id kind) } := by
    rw [Entry.trace, unsupported]
  have failed : (entry.trace f.id).failure.isSome := by rw [failing]; rfl
  rw [blockTrace, entries, List.map_append, List.map_cons,
    Trace.concat_append_failing (failure_trace_of_mem ok) failed, Trace.andThen_of_ok rfl,
    Entry.flatMap_events_trace ok, Entry.flatMap_log_trace, failing]
  simp

/-- Blocks that come to their end are written and reported one after the other. -/
theorem flatMap_blockTrace {features : List Feature}
    (ok : ∀ f ∈ features, (f.blockTrace templates shape).failure = none) :
    (features.map (·.blockTrace templates shape)).flatMap Trace.events
        = features.flatMap (·.blockEvents templates shape) ∧
      (features.map (·.blockTrace templates shape)).flatMap Trace.log
        = features.flatMap (·.blockReports templates shape) := by
  rw [List.flatMap_map, List.flatMap_map]
  constructor
  · exact List.flatMap_congr fun f member => by rw [blockTrace_of_ok (ok f member)]
  · exact List.flatMap_congr fun f member => by rw [blockTrace_of_ok (ok f member)]

end Feature

/-! ## Feeds -/

/-- The events after the last feature. -/
def footerEvents : List Xml.Event := [.closing "channel", .closing "rss"]

namespace Service

variable (s : Service) (r : Request) (collections : List (List Feature))

/-- What the feed of a service does by itself. -/
def feedTrace : Trace :=
  Trace.ofSteps (s.plan r collections)

/-- **An output without a limit makes of a feed what it does by itself.** -/
theorem deliver_unlimited {output : Output} (accepts : output.room = none) :
    s.deliver output .standard r collections
      = ⟨⟨(s.feedTrace r collections).bytes, output, (s.feedTrace r collections).failure⟩,
          (s.feedTrace r collections).log⟩ := by
  rw [deliver, Output.carryOut_unlimited accepts, Step.traceAll_standard, feedTrace, Trace.ofSteps]

end Service

namespace Publisher

variable (p : Publisher) (r : Request) (collections : List (List Feature))

/-- The events before the first feature. -/
def headerEvents : List Xml.Event :=
  [.opening "rss" (("version", "2.0") :: namespaceAttributes (r.shape p.standard).value.scheme),
      .opening "channel" []]
    ++ Xml.element "title" (p.channelTitle r).value
    ++ Xml.element "description" (p.channelDescription r).value
    ++ linkEvents r.channelLink.value

/-- What is reported before the first feature. -/
def headerReports : List Log.Entry :=
  (r.shape p.standard).reports ++ (p.channelTitle r).reports ++ (p.channelDescription r).reports
    ++ r.channelLink.reports

/-- What the features of a feed do, one after the other. -/
def blockTraces : List Trace :=
  collections.flatten.map fun f => f.blockTrace p.templates (r.shape p.standard).value

/-- What a feed does by itself. -/
def feedTrace : Trace :=
  Trace.ofSteps (p.plan r collections)

/-- **A feed is its header, the blocks of its features, and its end.** -/
theorem feedTrace_eq :
    p.feedTrace r collections
      = Trace.andThen { events := p.headerEvents r, log := p.headerReports r }
          ((Trace.concat (p.blockTraces r collections)).andThen
            { events := footerEvents, log := [summaryReport (p.planSummary r collections)] }) := by
  have footer : Trace.ofSteps (footerSteps (p.planSummary r collections))
      = { events := footerEvents, log := [summaryReport (p.planSummary r collections)] } := by
    rw [footerSteps, Trace.ofSteps_append, Trace.ofSteps_events]
    rfl
  have blocks : Trace.ofSteps (collections.flatten.flatMap
        (·.blockSteps p.templates (r.shape p.standard).value))
      = Trace.concat (p.blockTraces r collections) := by
    rw [Trace.ofSteps_flatMap, blockTraces]
    simp only [Feature.ofSteps_blockSteps]
  have header : Trace.andThen { log := (r.shape p.standard).reports }
        (Trace.ofSteps (headerSteps (p.channelTitle r) (p.channelDescription r) r
          (r.shape p.standard).value.scheme))
      = { events := p.headerEvents r, log := p.headerReports r } := by
    simp only [headerSteps, Trace.ofSteps_append, Trace.ofSteps_events, Trace.ofSteps_after,
      Trace.andThen, List.append_nil, List.nil_append, headerEvents, headerReports, List.append_assoc]
  rw [feedTrace, plan_eq, Trace.ofSteps_after, Trace.ofSteps_append, Trace.ofSteps_append, blocks,
    ← header, ← footer, planSummary, Trace.andThen_assoc, Trace.andThen_assoc]

/-- The feed of a publisher is that of its service. -/
theorem deliver_unlimited {output : Output} (accepts : output.room = none) :
    p.deliver output .standard r collections
      = ⟨⟨(p.feedTrace r collections).bytes, output, (p.feedTrace r collections).failure⟩,
          (p.feedTrace r collections).log⟩ :=
  p.service.deliver_unlimited r collections accepts

/-- A feed fails exactly if one of its blocks does. -/
theorem failure_feedTrace :
    (p.feedTrace r collections).failure = (Trace.concat (p.blockTraces r collections)).failure := by
  rw [feedTrace_eq, Trace.andThen_of_ok rfl]
  cases failed : (Trace.concat (p.blockTraces r collections)).failure with
  | none => rw [Trace.andThen_of_ok failed]
  | some cause => rw [Trace.andThen_of_failure (by simp [failed]), failed]

/-- A feed that comes to its end writes and reports the blocks of all features. -/
theorem feedTrace_of_ok (ok : (p.feedTrace r collections).failure = none) :
    p.feedTrace r collections
      = ⟨p.headerEvents r
            ++ collections.flatten.flatMap
                (·.blockEvents p.templates (r.shape p.standard).value)
            ++ footerEvents,
          none,
          p.headerReports r
            ++ collections.flatten.flatMap
                (·.blockReports p.templates (r.shape p.standard).value)
            ++ [summaryReport (p.planSummary r collections)]⟩ := by
  rw [failure_feedTrace, Trace.concat_failure_eq_none_iff] at ok
  have blocks := Trace.concat_of_ok ok
  obtain ⟨events, log⟩ := Feature.flatMap_blockTrace
    fun f (member : f ∈ collections.flatten) => ok _ (List.mem_map_of_mem member)
  rw [feedTrace_eq, blocks, Trace.andThen_of_ok rfl, Trace.andThen_of_ok rfl]
  simp only [blockTraces, events, log, List.append_assoc]

/-- **A feed stops at its first failing block**, whatever features would follow. -/
theorem feedTrace_of_failing {before after : List Feature} {f : Feature}
    (features : collections.flatten = before ++ f :: after)
    (ok : ∀ f' ∈ before, (f'.blockTrace p.templates (r.shape p.standard).value).failure = none)
    (failed : (f.blockTrace p.templates (r.shape p.standard).value).failure.isSome) :
    p.feedTrace r collections
      = ⟨p.headerEvents r
            ++ before.flatMap (·.blockEvents p.templates (r.shape p.standard).value)
            ++ (f.blockTrace p.templates (r.shape p.standard).value).events,
          (f.blockTrace p.templates (r.shape p.standard).value).failure,
          p.headerReports r
            ++ before.flatMap (·.blockReports p.templates (r.shape p.standard).value)
            ++ (f.blockTrace p.templates (r.shape p.standard).value).log⟩ := by
  have earlier : ∀ t ∈ before.map (·.blockTrace p.templates (r.shape p.standard).value),
      t.failure = none := by
    intro t member
    obtain ⟨f', inside, rfl⟩ := List.mem_map.1 member
    exact ok f' inside
  have blocks : Trace.concat (p.blockTraces r collections)
      = ⟨before.flatMap (·.blockEvents p.templates (r.shape p.standard).value)
            ++ (f.blockTrace p.templates (r.shape p.standard).value).events,
          (f.blockTrace p.templates (r.shape p.standard).value).failure,
          before.flatMap (·.blockReports p.templates (r.shape p.standard).value)
            ++ (f.blockTrace p.templates (r.shape p.standard).value).log⟩ := by
    obtain ⟨events, log⟩ := Feature.flatMap_blockTrace ok
    rw [blockTraces, features, List.map_append, List.map_cons,
      Trace.concat_append_failing earlier failed, events, log]
  have stops : (Trace.concat (p.blockTraces r collections)).failure.isSome := by
    rw [blocks]
    exact failed
  rw [feedTrace_eq, Trace.andThen_of_failure stops, Trace.andThen_of_ok rfl, blocks]
  simp only [List.append_assoc]

end Publisher

/-! ## What steps there are -/

namespace Step

theorem mem_after {α : Type} {x : Logged α} {steps : α → List Step} {step : Step}
    (member : step ∈ after x steps) : (∃ entry, step = .report entry) ∨ step ∈ steps x.value := by
  rcases List.mem_append.1 member with report | later
  · obtain ⟨entry, -, rfl⟩ := List.mem_map.1 report
    exact .inl ⟨entry, rfl⟩
  · exact .inr later

theorem mem_events {es : List Xml.Event} {step : Step} (member : step ∈ events es) :
    ∃ e ∈ es, step = .write "" (.event e) := by
  obtain ⟨e, inside, rfl⟩ := List.mem_map.1 member
  exact ⟨e, inside, rfl⟩

end Step

theorem Feature.mem_blockSteps {f : Feature} {templates : Templates} {shape : Shape} {step : Step}
    (member : step ∈ f.blockSteps templates shape) :
    (∃ entry, step = .report entry) ∨
      ∃ entry ∈ f.feedEntries templates shape, ∃ piece ∈ entry.pieces, step = .write f.id piece := by
  rcases Step.mem_after member with report | member
  · exact .inl report
  · unfold feedEntries
    cases value : (f.entries templates shape).value with
    | error reason =>
        rw [value] at member
        exact .inl ⟨_, List.mem_singleton.1 member⟩
    | ok group =>
        rw [value] at member
        obtain ⟨piece, inside, rfl⟩ := List.mem_map.1 member
        obtain ⟨entry, written, among⟩ := List.mem_flatMap.1 inside
        exact .inr ⟨entry, written, piece, among, rfl⟩

namespace Publisher

variable {p : Publisher} {r : Request} {collections : List (List Feature)} {step : Step}

theorem mem_headerSteps (member : step ∈ headerSteps (p.channelTitle r) (p.channelDescription r) r
      (r.shape p.standard).value.scheme) :
    (∃ entry, step = .report entry) ∨ ∃ e ∈ p.headerEvents r, step = .write "" (.event e) := by
  -- whatever part of the header a step is in, its event is in the same part of the events
  have within {es : List Xml.Event} (inside : step ∈ Step.events es)
      (part : ∀ e ∈ es, e ∈ p.headerEvents r) :
      ∃ e ∈ p.headerEvents r, step = .write "" (.event e) := by
    obtain ⟨e, among, rfl⟩ := Step.mem_events inside
    exact ⟨e, part e among, rfl⟩
  rw [headerSteps, List.mem_append, List.mem_append, List.mem_append] at member
  rcases member with ((root | title) | description) | link
  · exact .inr (within root fun e inside => by
      simp only [headerEvents, List.mem_append, inside, true_or])
  · exact (Step.mem_after title).imp id fun title => within title fun e inside => by
      simp only [headerEvents, List.mem_append, inside, true_or, or_true]
  · exact (Step.mem_after description).imp id fun description => within description fun e inside => by
      simp only [headerEvents, List.mem_append, inside, true_or, or_true]
  · exact (Step.mem_after link).imp id fun link => within link fun e inside => by
      simp only [headerEvents, List.mem_append, inside, or_true]

/-- **What a step of a feed can be:** a report, an event of the header or of the end, or a
piece of an item. -/
theorem mem_plan (member : step ∈ p.plan r collections) :
    (∃ entry, step = .report entry) ∨
      (∃ e ∈ p.headerEvents r ++ footerEvents, step = .write "" (.event e)) ∨
      ∃ f ∈ collections.flatten, ∃ entry ∈ f.feedEntries p.templates (r.shape p.standard).value,
        ∃ piece ∈ entry.pieces, step = .write f.id piece := by
  rw [plan_eq] at member
  rcases Step.mem_after member with report | member
  · exact .inl report
  rw [List.mem_append, List.mem_append] at member
  rcases member with (header | block) | footer
  · refine (mem_headerSteps header).imp id fun ⟨e, inside, same⟩ => .inl ⟨e, ?_, same⟩
    exact List.mem_append_left _ inside
  · obtain ⟨f, among, inside⟩ := List.mem_flatMap.1 block
    exact (Feature.mem_blockSteps inside).imp id fun item => .inr ⟨f, among, item⟩
  · rcases List.mem_append.1 footer with closing | report
    · obtain ⟨e, inside, same⟩ := Step.mem_events closing
      exact .inr (.inl ⟨e, List.mem_append_right _ inside, same⟩)
    · exact .inl ⟨_, List.mem_singleton.1 report⟩

end Publisher

end GeoFeed

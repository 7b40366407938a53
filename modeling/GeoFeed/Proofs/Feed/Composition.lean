/-
# GeoFeed.Proofs.Feed.Composition -- a feed is made of its features

A complete feed is a header, the blocks of its features in order, and the two tags
that end it.  The header knows nothing of the features, and a block nothing but its
own feature.  A feature that is left out has an empty block, so taking it away
changes nothing, and neither does another grouping of the features.

The counts tell what is there: every feature is counted as an item or as left out,
and the tags that open an item are as many as the items and continuations counted.

Main statement: `deliver_composition`.
-/
import Mathlib.Algebra.GroupWithZero.Nat
import GeoFeed.Proofs.Feed.Element

namespace GeoFeed

set_option autoImplicit false

/-! ## Counting tags -/

namespace Xml

/-- Whether an event begins an element of this name. -/
def Event.opens (name : String) : Event → Bool
  | opening other _ => other == name
  | empty other _ => other == name
  | _ => false

/-- Whether a token begins an element of this name. -/
def Token.opens (name : String) : Token → Bool
  | opening other _ => other == name
  | empty other _ => other == name
  | _ => false

theorem countP_tokens (name : String) (e : Event) :
    e.tokens.countP (Token.opens name) = [e].countP (Event.opens name) := by
  cases e with
  | text content =>
      simp only [Event.tokens, List.countP_map, List.countP_singleton, Event.opens,
        Bool.false_eq_true, if_false, List.countP_eq_zero]
      intro c _
      exact Bool.false_ne_true
  | declaration => rfl
  | opening other attributes => rfl
  | closing other => rfl
  | empty other attributes => rfl
  | cdata content => rfl

/-- A reader finds as many elements of a name as events begin one. -/
theorem countP_flatMap_tokens (name : String) (events : List Event) :
    (events.flatMap Event.tokens).countP (Token.opens name) = events.countP (Event.opens name) := by
  induction events with
  | nil => rfl
  | cons e rest ih =>
      rw [List.flatMap_cons, List.countP_append, ih, countP_tokens, ← List.countP_append,
        List.singleton_append]

theorem countP_element (name other content : String) :
    (Xml.element other content).countP (Event.opens name) = if other = name then 1 else 0 := by
  simp [Xml.element, List.countP_cons, Event.opens]

theorem countP_cdataElement (name other content : String) :
    (Xml.cdataElement other content).countP (Event.opens name) = if other = name then 1 else 0 := by
  have inside : (cdataEvents content).countP (Event.opens name) = 0 := by
    rw [cdataEvents, List.countP_map, List.countP_eq_zero]
    intro part _
    exact Bool.false_ne_true
  simp [Xml.cdataElement, List.countP_cons, Event.opens, inside]

end Xml

namespace Gml

theorem countP_inside (name other : String) (content : List Xml.Event) :
    (inside other content).countP (Xml.Event.opens name)
      = content.countP (Xml.Event.opens name) + if other = name then 1 else 0 := by
  simp [inside, List.countP_cons, Xml.Event.opens]

/-- No element of a fragment is an item. -/
theorem countP_encode (element : Element) (geometry : Geometry) :
    (encode element geometry).events.countP (Xml.Event.opens "item") = 0 := by
  unfold encode
  fun_cases events? element geometry <;>
    simp [pointEvents, lineEvents, polygonEvents, ringEvents, positionsEvents, membersEvents,
      countP_inside, Xml.countP_element, List.countP_flatMap, Function.comp_def]

end Gml

theorem Markup.countP_events {m : Markup} (named : m.Named) :
    m.events.countP (Xml.Event.opens "item") = 0 := by
  cases m with
  | simple name content =>
      have other := (by decide : ∀ name ∈ simpleNames, name ≠ "item") name named
      rw [events, Xml.countP_element, if_neg other]
  | latLong lat lon => simp [events, Xml.countP_element]
  | gml element geometry => exact Gml.countP_encode element geometry

namespace Entry

/-- A part that may be missing has no item if it never has one. -/
theorem countP_option {α : Type} {events : α → List Xml.Event}
    (each : ∀ x, (events x).countP (Xml.Event.opens "item") = 0) (found : Option α) :
    ((found.map events).getD []).countP (Xml.Event.opens "item") = 0 := by
  cases found with
  | none => rfl
  | some x => exact each x

theorem countP_frontEvents (entry : Entry) :
    entry.frontEvents.countP (Xml.Event.opens "item") = 1 := by
  have published := countP_option (Xml.countP_element "item" "pubDate") entry.published
  have link := countP_option (Xml.countP_cdataElement "item" "link") entry.link
  have guid := countP_option (Xml.countP_cdataElement "item" "guid") entry.guid
  have enclosures : (entry.enclosures.map enclosureEvent).countP (Xml.Event.opens "item") = 0 := by
    rw [List.countP_map, List.countP_eq_zero]
    intro e _
    exact (by decide : ¬ ("enclosure" == "item") = true)
  simp [frontEvents, Xml.Event.opens, Xml.countP_element, Xml.countP_cdataElement, published, link,
    guid, enclosures]

/-- An item is one item. -/
theorem countP_itemEvents {entry : Entry} (named : ∀ m, entry.markup = some m → m.Named) :
    entry.itemEvents.countP (Xml.Event.opens "item") = 1 := by
  have geometry : ((entry.markup.map Markup.events).getD []).countP (Xml.Event.opens "item") = 0 := by
    cases found : entry.markup with
    | none => rfl
    | some m => exact Markup.countP_events (named m found)
  rw [itemEvents, List.countP_append, List.countP_append, countP_frontEvents, geometry]
  rfl

end Entry

/-- The block of a feature has an item for each entry. -/
theorem Feature.countP_blockEvents (f : Feature) (templates : Templates) (shape : Shape) :
    (f.blockEvents templates shape).countP (Xml.Event.opens "item")
      = (f.feedEntries templates shape).length := by
  have ones : (f.feedEntries templates shape).map
        (List.countP (Xml.Event.opens "item") ∘ Entry.itemEvents)
      = (f.feedEntries templates shape).map fun _ => 1 :=
    List.map_congr_left fun entry member =>
      Entry.countP_itemEvents fun m found => named_of_mem_feedEntries member found
  rw [blockEvents, List.countP_flatMap, ones]
  simp

/-! ## Features that are left out -/

namespace Feature

variable {f : Feature} {templates : Templates} {shape : Shape}

theorem blockEvents_of_isSkipped (skipped : f.isSkipped templates shape) :
    f.blockEvents templates shape = [] := by
  rw [blockEvents, (f.feedEntries_eq_nil_iff templates shape).2 skipped, List.flatMap_nil]

theorem failure_blockTrace_of_isSkipped (skipped : f.isSkipped templates shape) :
    (f.blockTrace templates shape).failure = none := by
  rw [failure_blockTrace_eq_none_iff, (f.feedEntries_eq_nil_iff templates shape).2 skipped]
  intro entry member
  cases member

/-- The features that are not left out, in order. -/
def kept (templates : Templates) (shape : Shape) (features : List Feature) : List Feature :=
  features.filter fun f => !f.isSkipped templates shape

theorem flatMap_blockEvents_kept (features : List Feature) :
    (kept templates shape features).flatMap (·.blockEvents templates shape)
      = features.flatMap (·.blockEvents templates shape) := by
  induction features with
  | nil => rfl
  | cons f rest ih =>
      rw [List.flatMap_cons, kept]
      cases skipped : f.isSkipped templates shape with
      | true =>
          rw [List.filter_cons_of_neg (by simp [skipped]), blockEvents_of_isSkipped skipped]
          exact ih
      | false =>
          rw [List.filter_cons_of_pos (by simp [skipped]), List.flatMap_cons]
          exact congrArg _ ih

/-- Features that come to their end still do among others that are left out. -/
theorem failure_of_kept {features others : List Feature}
    (ok : ∀ f ∈ features, (f.blockTrace templates shape).failure = none)
    (same : kept templates shape others = kept templates shape features) :
    ∀ f ∈ others, (f.blockTrace templates shape).failure = none := by
  intro f member
  cases skipped : f.isSkipped templates shape with
  | true => exact failure_blockTrace_of_isSkipped skipped
  | false =>
      have among : f ∈ kept templates shape others := List.mem_filter.2 ⟨member, by simp [skipped]⟩
      rw [same] at among
      exact ok f (List.mem_of_mem_filter among)

end Feature

/-! ## Counts -/

namespace Feature

variable (f : Feature) (templates : Templates) (shape : Shape)

/-- A feature counts as an item or as left out, and its entries are counted. -/
theorem counts_eq :
    (f.counts templates shape).items + (f.counts templates shape).skipped = 1 ∧
      (f.counts templates shape).skipped = [f].countP (·.isSkipped templates shape) ∧
      (f.counts templates shape).items + (f.counts templates shape).continuations
        = (f.feedEntries templates shape).length := by
  unfold counts feedEntries
  rw [List.countP_singleton, isSkipped]
  cases (f.entries templates shape).value with
  | ok group => simp [EntryGroup.toList, Nat.add_comm]
  | error reason => simp

end Feature

/-- Counts are added field by field. -/
theorem Summary.foldl_add (counts : List Summary) (start : Summary) :
    counts.foldl Summary.add start
      = ⟨start.items + (counts.map Summary.items).sum,
          start.continuations + (counts.map Summary.continuations).sum,
          start.skipped + (counts.map Summary.skipped).sum⟩ := by
  induction counts generalizing start with
  | nil => rfl
  | cons s rest ih =>
      rw [List.foldl_cons, ih, add]
      simp only [List.map_cons, List.sum_cons, Nat.add_assoc]

/-- Going on with the counts of more features. -/
theorem foldl_counts (templates : Templates) (shape : Shape) (features : List Feature)
    (start : Summary) :
    let counts := (features.map (·.counts templates shape)).foldl Summary.add start
    counts.items + counts.skipped = start.items + start.skipped + features.length ∧
      counts.skipped = start.skipped + features.countP (·.isSkipped templates shape) ∧
      counts.items + counts.continuations = start.items + start.continuations
        + (features.flatMap (·.feedEntries templates shape)).length := by
  induction features generalizing start with
  | nil => exact ⟨rfl, rfl, rfl⟩
  | cons f rest ih =>
      obtain ⟨all, left_out, entries⟩ := ih (start.add (f.counts templates shape))
      obtain ⟨one, skipped, written⟩ := f.counts_eq templates shape
      rw [List.countP_singleton] at skipped
      simp only [List.map_cons, List.foldl_cons, List.length_cons, List.countP_cons,
        List.flatMap_cons, List.length_append]
      simp only [Summary.add] at all left_out entries ⊢
      refine ⟨by omega, by omega, by omega⟩

namespace Publisher

variable (p : Publisher) (r : Request) (collections : List (List Feature))

/-- What the counts of a feed say. -/
theorem planSummary_spec :
    (p.planSummary r collections).items + (p.planSummary r collections).skipped
        = collections.flatten.length ∧
      (p.planSummary r collections).skipped
        = collections.flatten.countP (·.isSkipped p.templates (r.shape p.standard).value) ∧
      (p.planSummary r collections).items + (p.planSummary r collections).continuations
        = (p.feedEntries r collections).length := by
  have counts := foldl_counts p.templates (r.shape p.standard).value collections.flatten {}
  simpa [planSummary, summary, feedEntries] using counts

/-- A reader finds an item for every entry of a feed. -/
theorem countP_feedTrace (ok : (p.feedTrace r collections).failure = none) :
    (p.feedTrace r collections).events.countP (Xml.Event.opens "item")
      = (p.feedEntries r collections).length := by
  have blocks : (collections.flatten.flatMap
        (·.blockEvents p.templates (r.shape p.standard).value)).countP (Xml.Event.opens "item")
      = (p.feedEntries r collections).length := by
    rw [feedEntries, List.countP_flatMap, List.length_flatMap]
    simp only [Function.comp_def, Feature.countP_blockEvents]
  rw [feedTrace_of_ok p r collections ok, List.countP_append, List.countP_append, blocks]
  simp [headerEvents, footerEvents, linkEvents, Xml.Event.opens, Xml.countP_element,
    Xml.countP_cdataElement]

/-- **Features that are left out, and how features are grouped, leave no bytes.** -/
theorem delivery_of_kept {output : Output} (accepts : output.room = none)
    (ok : (p.feedTrace r collections).failure = none) {others : List (List Feature)}
    (same : Feature.kept p.templates (r.shape p.standard).value others.flatten
      = Feature.kept p.templates (r.shape p.standard).value collections.flatten) :
    (p.deliver output .standard r others).delivery
      = (p.deliver output .standard r collections).delivery := by
  have features : ∀ f ∈ collections.flatten,
      (f.blockTrace p.templates (r.shape p.standard).value).failure = none := by
    rw [failure_feedTrace, Trace.concat_failure_eq_none_iff] at ok
    intro f member
    exact ok _ (List.mem_map_of_mem member)
  have ok' : (p.feedTrace r others).failure = none := by
    rw [failure_feedTrace, Trace.concat_failure_eq_none_iff]
    intro t member
    obtain ⟨f, inside, rfl⟩ := List.mem_map.1 member
    exact Feature.failure_of_kept features same f inside
  rw [deliver_unlimited p r others accepts, deliver_unlimited p r collections accepts,
    feedTrace_of_ok p r others ok', feedTrace_of_ok p r collections ok,
    ← Feature.flatMap_blockEvents_kept others.flatten, same, Feature.flatMap_blockEvents_kept]
  rfl

/-- **A complete feed is made of its features.**  Its bytes are a header, the block of
each feature, and the end; a block is empty exactly if the feature is left out.  The
counts are those of the features, of the features left out, and of the items that a
reader finds.  Feeds that differ only in features that are left out, or in how the
features are grouped, have the same bytes. -/
theorem deliver_composition (output : Output) (accepts : output.room = none) (counts : Summary)
    (complete : p.result r collections (p.deliver output .standard r collections) = .ok counts) :
    (p.deliver output .standard r collections).delivery.bytes
        = Xml.bytes (p.headerEvents r)
          ++ collections.flatten.flatMap (·.blockBytes p.templates (r.shape p.standard).value)
          ++ utf8Bytes "</channel></rss>".toList ∧
      (∀ f : Feature, f.blockBytes p.templates (r.shape p.standard).value = []
        ↔ f.isSkipped p.templates (r.shape p.standard).value = true) ∧
      counts.items + counts.skipped = collections.flatten.length ∧
      counts.skipped
        = collections.flatten.countP (·.isSkipped p.templates (r.shape p.standard).value) ∧
      (∃ tokens,
        Xml.tokensOfBytes? (p.deliver output .standard r collections).delivery.bytes = some tokens ∧
          tokens.countP (Xml.Token.opens "item") = counts.items + counts.continuations) ∧
      ∀ others : List (List Feature),
        Feature.kept p.templates (r.shape p.standard).value others.flatten
            = Feature.kept p.templates (r.shape p.standard).value collections.flatten →
          (p.deliver output .standard r others).delivery
            = (p.deliver output .standard r collections).delivery := by
  have run := deliver_unlimited p r collections accepts
  obtain ⟨ok, rfl⟩ := (p.result_eq_ok_iff r collections _ counts).1 complete
  rw [run] at ok
  obtain ⟨all, left_out, entries⟩ := p.planSummary_spec r collections
  have legible := p.legible_feedTrace_of_ok r collections ok
  refine ⟨?_, fun f => f.blockBytes_eq_nil_iff _ _, all, left_out, ?_,
    fun others same => p.delivery_of_kept r collections accepts ok same⟩
  · have footer : Xml.bytes footerEvents = utf8Bytes "</channel></rss>".toList := by
      decide +kernel
    rw [run, feedTrace_of_ok p r collections ok]
    simp only [Trace.bytes, Xml.bytes_append, Xml.bytes_flatMap, Feature.blockBytes, footer]
  · rw [run]
    refine ⟨_, Xml.tokensOfBytes?_bytes legible, ?_⟩
    rw [Xml.countP_flatMap_tokens, countP_feedTrace p r collections ok, entries]

/-- Of two features, one is left out for want of a geometry, and taking it away from the
feed changes no byte. -/
theorem deliver_without_left_out :
    (⟨none, ""⟩ : Output).room = none ∧
      (Publisher.byId .latLong).result (.ofOptions [])
          [[⟨"nowhere", .empty, none⟩], [⟨"here", .empty, some (.point ⟨1, 2⟩)⟩]]
          ((Publisher.byId .latLong).deliver ⟨none, ""⟩ .standard (.ofOptions [])
            [[⟨"nowhere", .empty, none⟩], [⟨"here", .empty, some (.point ⟨1, 2⟩)⟩]])
        = .ok ⟨1, 0, 1⟩ ∧
      ((Publisher.byId .latLong).deliver ⟨none, ""⟩ .standard (.ofOptions [])
          [[⟨"here", .empty, some (.point ⟨1, 2⟩)⟩]]).delivery
        = ((Publisher.byId .latLong).deliver ⟨none, ""⟩ .standard (.ofOptions [])
            [[⟨"nowhere", .empty, none⟩], [⟨"here", .empty, some (.point ⟨1, 2⟩)⟩]]).delivery := by
  have complete : (Publisher.byId .latLong).result (.ofOptions [])
      [[⟨"nowhere", .empty, none⟩], [⟨"here", .empty, some (.point ⟨1, 2⟩)⟩]]
      ((Publisher.byId .latLong).deliver ⟨none, ""⟩ .standard (.ofOptions [])
        [[⟨"nowhere", .empty, none⟩], [⟨"here", .empty, some (.point ⟨1, 2⟩)⟩]])
      = .ok ⟨1, 0, 1⟩ := by
    rfl
  obtain ⟨-, -, -, -, -, same⟩ := deliver_composition _ _ _ ⟨none, ""⟩ rfl ⟨1, 0, 1⟩ complete
  exact ⟨rfl, complete, same [[⟨"here", .empty, some (.point ⟨1, 2⟩)⟩]] rfl⟩

end Publisher

end GeoFeed

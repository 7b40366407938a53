/-
# GeoFeed.Proofs.Feed.Legal -- feeds with characters that XML does not have

A feed writes the texts it is given.  None is looked through for characters that XML
does not have, so one identifier with a control in it makes a document that no reader
takes (`not_all_legal`).

But only those texts can do that.  The characters of a complete document that XML does
not have are those of the texts that the feed carries, in order (`strays_document`): the
two texts of the channel and the texts of the items.  Links of channels are visible
characters, whatever the base, the types and the output format are; geometries are
numbers; and the rest is fixed.  And what the carried texts are made from was supplied:
the name of the system, titles and abstracts from the catalog, identifiers, and what the
templates answered (`Supplies`).

Main statement: `deliverDocument_legal`.
-/
import GeoFeed.Proofs.Feed.Markup
import GeoFeed.Proofs.Feed.Reading
import GeoFeed.Proofs.Feed.Supply
import GeoFeed.Proofs.Url.Service

namespace GeoFeed

set_option autoImplicit false

open Xml (strays)

namespace Entry

theorem content_option {element : String → List Xml.Event}
    (holds : ∀ text, (element text).flatMap Xml.Event.content = text.toList) (found : Option String) :
    ((found.map element).getD []).flatMap Xml.Event.content
      = found.toList.flatMap String.toList := by
  cases found with
  | none => rfl
  | some text => simpa using holds text

theorem content_enclosures (enclosures : List Enclosure) :
    (enclosures.map enclosureEvent).flatMap Xml.Event.content
      = (enclosures.flatMap Enclosure.texts).flatMap String.toList := by
  rw [List.flatMap_map, List.flatMap_assoc]
  exact List.flatMap_congr fun e _ => by
    simp [enclosureEvent, Xml.Event.content, Enclosure.texts]

theorem content_frontEvents (entry : Entry) :
    entry.frontEvents.flatMap Xml.Event.content = entry.texts.flatMap String.toList := by
  have item : Xml.Event.content (.opening "item" []) = [] := rfl
  simp only [frontEvents, texts, List.flatMap_cons, List.flatMap_append, item, List.nil_append,
    Xml.content_element, Xml.content_cdataElement, content_enclosures,
    content_option (Xml.content_element "pubDate"), content_option (Xml.content_cdataElement "link"),
    content_option (Xml.content_cdataElement "guid"), List.append_assoc]

/-- The strays of an item are those of its texts. -/
theorem strays_itemEvents {entry : Entry}
    (made : ∀ m, entry.markup = some m → GeometryEvents m.events) :
    strays (entry.itemEvents.flatMap Xml.Event.content)
      = strays (entry.texts.flatMap String.toList) := by
  have geometry : strays (((entry.markup.map Markup.events).getD []).flatMap Xml.Event.content)
      = [] := by
    cases found : entry.markup with
    | none => rfl
    | some m => exact (made m found).strays
  have closing : [Xml.Event.closing "item"].flatMap Xml.Event.content = [] := rfl
  rw [itemEvents, List.flatMap_append, List.flatMap_append, content_frontEvents, closing,
    List.append_nil, Xml.strays_append, geometry, List.append_nil]

end Entry

/-- A link of a channel has no strays, whatever it is made from. -/
theorem Request.strays_channelLink (r : Request) : strays r.channelLink.value.toList = [] := by
  have missing : strays missingLink.toList = [] := by decide
  unfold channelLink link
  cases r.types with
  | nil => exact missing
  | cons first rest =>
      simp only
      cases built : Url.service r.baseUrl "wfs"
          [("request", "GetFeature"), ("typeName", first.toText),
            ("outputFormat", r.outputFormat)] with
      | error cause => exact missing
      | ok url =>
          have seen := Xml.strays_of_visible (Url.visible_of_service built)
          simpa [Url.toText] using seen

namespace Publisher

variable (p : Publisher) (r : Request) (collections : List (List Feature))

theorem strays_blocks (templates : Templates) (shape : Shape) (features : List Feature) :
    strays ((features.flatMap (·.blockEvents templates shape)).flatMap Xml.Event.content)
      = strays (((features.flatMap (·.feedEntries templates shape)).flatMap Entry.texts).flatMap
          String.toList) := by
  simp only [List.flatMap_assoc, Feature.blockEvents, Xml.strays_flatMap]
  refine List.flatMap_congr fun f _ => List.flatMap_congr fun entry member => ?_
  have item := Entry.strays_itemEvents fun m found =>
    Feature.geometryEvents_of_mem_feedEntries member found
  rwa [Xml.strays_flatMap, Xml.strays_flatMap] at item

/-- What the events of a channel hold. -/
theorem content_channelEvents :
    (p.channelEvents r collections).flatMap Xml.Event.content
      = (p.channelTitle r).value.toList ++ (p.channelDescription r).value.toList
        ++ (r.channelLink.value.toList ++ (r.channelLink.value.toList ++ "self".toList))
        ++ (collections.flatten.flatMap
            (·.blockEvents p.templates (r.shape p.standard).value)).flatMap Xml.Event.content := by
  have channel : Xml.Event.content (.opening "channel" []) = [] := rfl
  have closing : [Xml.Event.closing "channel"].flatMap Xml.Event.content = [] := rfl
  have self : [Xml.Event.empty "atom:link" [("href", r.channelLink.value), ("rel", "self")]].flatMap
      Xml.Event.content = r.channelLink.value.toList ++ "self".toList := by
    simp only [List.flatMap_cons, List.flatMap_nil, Xml.Event.content, List.append_nil]
  rw [channelEvents, linkEvents, List.flatMap_cons, List.flatMap_append, List.flatMap_append,
    List.flatMap_append, List.flatMap_append, List.flatMap_append, Xml.content_element,
    Xml.content_element, Xml.content_cdataElement, channel, closing, self, List.nil_append,
    List.append_nil]

/-- The events of a feed whose geometries all have elements. -/
def wholeEvents : List Xml.Event :=
  .opening "rss" (p.rootAttributes r) :: (p.channelEvents r collections ++ [.closing "rss"])

theorem legible_wholeEvents : ∀ e ∈ p.wholeEvents r collections, e.Legible :=
  ((p.spells_channel r collections).around "rss" _ (by decide) (p.named_rootAttributes r)).legible

/-- **The strays of a feed are those of the texts that it carries.** -/
theorem strays_wholeEvents :
    strays ((p.wholeEvents r collections).flatMap Xml.Event.content)
      = strays ((p.carriedTexts r collections).flatMap String.toList) := by
  have root : strays (Xml.Event.content (.opening "rss" (p.rootAttributes r))) = [] := by
    unfold rootAttributes
    cases (r.shape p.standard).value.scheme <;> decide +kernel
  have closing : [Xml.Event.closing "rss"].flatMap Xml.Event.content = [] := rfl
  have self : strays "self".toList = [] := by decide
  rw [wholeEvents, List.flatMap_cons, List.flatMap_append, closing, content_channelEvents,
    List.append_nil, Xml.strays_append, root, List.nil_append]
  simp only [Xml.strays_append, r.strays_channelLink, self, strays_blocks, List.nil_append,
    carriedTexts, feedEntries, List.flatMap_cons, List.append_assoc]

/-- The strays of a document of the standard encoder are those of the texts that it carries. -/
theorem strays_document (ok : (p.feedTrace r collections).failure = none) :
    strays (Xml.eventsToChars (.declaration :: (p.feedTrace r collections).events))
      = strays ((p.carriedTexts r collections).flatMap String.toList) := by
  have legible : ∀ e ∈ Xml.Event.declaration :: p.wholeEvents r collections, e.Legible :=
    List.forall_mem_cons.2 ⟨trivial, p.legible_wholeEvents r collections⟩
  have declaration : Xml.Event.content .declaration = [] := rfl
  rw [events_feedTrace_of_ok p r collections ok, ← wholeEvents, Xml.strays_eventsToChars legible,
    List.flatMap_cons, declaration, List.nil_append, strays_wholeEvents]

variable {p r collections}

/-- A stray in an event of a feed was supplied. -/
theorem supplied_of_stray {e : Xml.Event} (member : e ∈ p.wholeEvents r collections) {c : Char}
    (inside : c ∈ e.toChars) (stray : Xml.isChar c = false) :
    ∃ source, p.Supplies r collections source ∧ c ∈ source.toList := by
  have held : c ∈ strays e.content := by
    rw [← Xml.strays_toChars (p.legible_wholeEvents r collections e member)]
    exact Xml.mem_strays.2 ⟨inside, stray⟩
  have whole : c ∈ strays ((p.wholeEvents r collections).flatMap Xml.Event.content) :=
    Xml.mem_strays.2 ⟨List.mem_flatMap.2 ⟨e, member, (Xml.mem_strays.1 held).1⟩, stray⟩
  rw [strays_wholeEvents] at whole
  obtain ⟨text, carried, among⟩ := List.mem_flatMap.1 (Xml.mem_strays.1 whole).1
  exact traced_of_mem_carriedTexts carried c among stray

/-- Where everything that was supplied is legal, so is what a feed carries. -/
theorem strays_carriedTexts_of_supplies
    (legal : ∀ source, p.Supplies r collections source → strays source.toList = []) :
    strays ((p.carriedTexts r collections).flatMap String.toList) = [] := by
  rw [Xml.strays_eq_nil_iff]
  intro c member
  by_contra stray
  obtain ⟨text, carried, among⟩ := List.mem_flatMap.1 member
  obtain ⟨source, supplied, inside⟩ :=
    traced_of_mem_carriedTexts carried c among ((Bool.not_eq_true _).mp stray)
  exact stray (Xml.strays_eq_nil_iff.1 (legal source supplied) c inside)

end Publisher

/-! ## Other encoders -/

namespace Step

/-- Whether steps come to the encoder for a geometry, after so many other calls. -/
def Encodes (steps : List Step) (calls : Nat) (element : Gml.Element) (geometry : Geometry) : Prop :=
  ∃ front feature back,
    steps = front ++ .write feature (.fragment element geometry) :: back ∧ totalCalls front = calls

theorem Encodes.cons {steps : List Step} {calls : Nat} {element : Gml.Element} {geometry : Geometry}
    (step : Step) (made : Encodes steps calls element geometry) :
    Encodes (step :: steps) (step.calls + calls) element geometry := by
  obtain ⟨front, feature, back, rfl, rfl⟩ := made
  exact ⟨step :: front, feature, back, rfl, rfl⟩

/-- Whatever encoder there is, an event is one of a step's own, or one of a call of the
encoder that the steps come to. -/
theorem mem_traceAll {encoders : Encoders} {calls : Nat} {steps : List Step} {e : Xml.Event}
    (member : e ∈ (traceAll encoders calls steps).events) :
    (∃ feature, .write feature (.event e) ∈ steps) ∨
      ∃ before element geometry, Encodes steps before element geometry ∧
        e ∈ (encoders (calls + before) element geometry).events := by
  induction steps generalizing calls with
  | nil => cases member
  | cons step rest ih =>
      -- the events of this step count whether the row ends with it or goes on
      have one (here : e ∈ (step.trace encoders calls).events) :
          (∃ feature, .write feature (.event e) ∈ step :: rest) ∨
            ∃ before element geometry, Encodes (step :: rest) before element geometry ∧
              e ∈ (encoders (calls + before) element geometry).events := by
        cases step with
        | report entry => cases here
        | write feature piece =>
            cases piece with
            | event own =>
                obtain rfl := List.mem_singleton.1 here
                exact .inl ⟨feature, List.mem_cons_self⟩
            | fragment element geometry =>
                exact .inr ⟨0, element, geometry, ⟨[], feature, rest, rfl, rfl⟩, here⟩
      rw [traceAll] at member
      cases ok : (step.trace encoders calls).failure with
      | some cause =>
          rw [Trace.andThen_of_failure (by simp [ok])] at member
          exact one member
      | none =>
          rw [Trace.andThen_of_ok ok] at member
          rcases List.mem_append.1 member with here | later
          · exact one here
          · rcases ih later with ⟨feature, inside⟩ | ⟨before, element, geometry, made, foreign⟩
            · exact .inl ⟨feature, List.mem_cons_of_mem _ inside⟩
            · rw [Nat.add_assoc] at foreign
              exact .inr ⟨_, element, geometry, made.cons step, foreign⟩

end Step

/-- The events that an item writes by itself are among its events. -/
theorem Entry.mem_itemEvents_of_piece {entry : Entry} {e : Xml.Event}
    (member : .event e ∈ entry.pieces) : e ∈ entry.itemEvents := by
  have plain {es : List Xml.Event} (inside : .event e ∈ Piece.events es) : e ∈ es := by
    simpa [Piece.events] using inside
  rw [pieces, List.mem_append, List.mem_append] at member
  rw [itemEvents, List.mem_append, List.mem_append]
  rcases member with (front | markup) | closing
  · exact .inl (.inl (plain front))
  · refine .inl (.inr ?_)
    cases found : entry.markup with
    | none =>
        rw [found] at markup
        cases markup
    | some m =>
        rw [found] at markup
        cases m with
        | simple name content => exact plain markup
        | latLong lat lon => exact plain markup
        | gml element geometry => cases List.mem_singleton.1 markup
  · exact .inr (plain closing)

namespace Publisher

variable (p : Publisher) (r : Request) (collections : List (List Feature))

/-- The events that a feed writes by itself are among its events. -/
theorem mem_wholeEvents_of_step {feature : String} {e : Xml.Event}
    (member : .write feature (.event e) ∈ p.plan r collections) :
    e ∈ p.wholeEvents r collections := by
  rcases mem_plan member with
    ⟨report, same⟩ | ⟨own, inside, same⟩ | ⟨f, among, entry, written, piece, inside, same⟩
  · cases same
  · cases same
    simp only [headerEvents, footerEvents, List.mem_append, List.mem_cons, List.not_mem_nil,
      or_false] at inside
    simp only [wholeEvents, channelEvents, rootAttributes, List.mem_append, List.mem_cons,
      List.not_mem_nil, or_false]
    tauto
  · cases same
    have item : e ∈ collections.flatten.flatMap
        (·.blockEvents p.templates (r.shape p.standard).value) :=
      List.mem_flatMap.2 ⟨f, among,
        List.mem_flatMap.2 ⟨entry, written, Entry.mem_itemEvents_of_piece inside⟩⟩
    simp only [wholeEvents, channelEvents, List.mem_append, List.mem_cons, item, true_or, or_true]

/-- A stray of a document was supplied, or its encoder wrote it. -/
theorem source_of_stray {encoders : Encoders} {c : Char}
    (member : c ∈ Xml.eventsToChars (p.documentTrace encoders r collections).events)
    (stray : Xml.isChar c = false) :
    (∃ source, p.Supplies r collections source ∧ c ∈ source.toList) ∨
      ∃ calls element geometry,
        Step.Encodes (p.documentSteps r collections) calls element geometry ∧
          ∃ e ∈ (encoders calls element geometry).events, c ∈ e.toChars := by
  -- a character belongs to an event, which is one of the document's own or the encoder's
  obtain ⟨e, written, inside⟩ := List.mem_flatMap.1 member
  rcases Step.mem_traceAll written with
    ⟨feature, own⟩ | ⟨calls, element, geometry, made, foreign⟩
  · refine .inl ?_
    rcases List.mem_append.1 own with first | later
    · obtain ⟨first, among, same⟩ := Step.mem_events first
      cases same
      obtain rfl := List.mem_singleton.1 among
      have legal : strays Xml.Event.declaration.toChars = [] := by decide +kernel
      rw [Xml.strays_eq_nil_iff.1 legal c inside] at stray
      cases stray
    · exact supplied_of_stray (p.mem_wholeEvents_of_step r collections later) inside stray
  · rw [Nat.zero_add] at foreign
    exact .inr ⟨calls, element, geometry, made, e, foreign, inside⟩

/-- **A complete document is as legal as the texts that were supplied for it.**  Whatever
the output and the encoder, a character in it that XML does not have stands in a text
that was supplied, or the encoder wrote it when the document came to a geometry.  The
standard encoder writes none: the strays of its documents are, in order, those of the texts
that the feed carries, and where all that was supplied is legal, so is the document. -/
theorem deliverDocument_legal (output : Output) (flushRefusal : Option String)
    (encoders : Encoders) (counts : Summary)
    (complete : p.result r collections
      (p.deliverDocument output flushRefusal encoders r collections) = .ok counts) :
    ∃ document, Url.textOfBytes?
        (p.deliverDocument output flushRefusal encoders r collections).delivery.bytes
          = some document ∧
      (∀ c ∈ document.toList, Xml.isChar c = false →
        (∃ source, p.Supplies r collections source ∧ c ∈ source.toList) ∨
          ∃ calls element geometry,
            Step.Encodes (p.documentSteps r collections) calls element geometry ∧
              ∃ e ∈ (encoders calls element geometry).events, c ∈ e.toChars) ∧
      (encoders = .standard →
        strays document.toList = strays ((p.carriedTexts r collections).flatMap String.toList) ∧
          ((∀ source, p.Supplies r collections source → strays source.toList = []) →
            ∀ c ∈ document.toList, Xml.isChar c = true)) := by
  have run := p.deliverDocument_of_fits encoders r collections flushRefusal
    (p.fits_of_complete r collections complete)
  refine ⟨String.ofList (Xml.eventsToChars (p.documentTrace encoders r collections).events),
    ?_, ?_, ?_⟩
  · rw [run]
    exact Xml.textOfBytes?_utf8Bytes _
  · intro c member stray
    rw [String.toList_ofList] at member
    exact p.source_of_stray r collections member stray
  · rintro rfl
    obtain ⟨ok, -⟩ := p.bytes_of_result_ok r collections complete
    have events : (p.documentTrace .standard r collections).events
        = .declaration :: (p.feedTrace r collections).events := by
      rw [documentTrace_standard, Trace.andThen_of_ok rfl]
      rfl
    rw [events, String.toList_ofList, p.strays_document r collections ok]
    refine ⟨rfl, fun legal => Xml.strays_eq_nil_iff.1 ?_⟩
    rw [p.strays_document r collections ok, strays_carriedTexts_of_supplies legal]

/-- A feature is written whatever its identifier is. -/
theorem result_control :
    (Publisher.byId .simple).result (.ofOptions []) [[⟨"\x01", .empty, none⟩]]
        ((Publisher.byId .simple).deliverDocument ⟨none, ""⟩ none .standard (.ofOptions [])
          [[⟨"\x01", .empty, none⟩]])
        = .ok ⟨1, 0, 0⟩ := by
  decide +kernel

/-- The strays of this document are the controls that its identifier puts into the item. -/
theorem deliverDocument_legal_control :
    (Publisher.byId .simple).result (.ofOptions []) [[⟨"\x01", .empty, none⟩]]
        ((Publisher.byId .simple).deliverDocument ⟨none, ""⟩ none .standard (.ofOptions [])
          [[⟨"\x01", .empty, none⟩]])
        = .ok ⟨1, 0, 0⟩ ∧
      ∃ document, Url.textOfBytes? ((Publisher.byId .simple).deliverDocument ⟨none, ""⟩ none
            .standard (.ofOptions []) [[⟨"\x01", .empty, none⟩]]).delivery.bytes
          = some document ∧
        strays document.toList
          = strays (((Publisher.byId .simple).carriedTexts (.ofOptions [])
              [[⟨"\x01", .empty, none⟩]]).flatMap String.toList) := by
  obtain ⟨document, read, -, standard⟩ := (Publisher.byId .simple).deliverDocument_legal
    (.ofOptions []) [[⟨"\x01", .empty, none⟩]] ⟨none, ""⟩ none .standard ⟨1, 0, 0⟩ result_control
  exact ⟨result_control, document, read, (standard rfl).1⟩

/-- Not every complete document is legal: nothing keeps a control in an identifier out. -/
theorem not_all_legal :
    ¬ ∀ (p : Publisher) (r : Request) (collections : List (List Feature)) (counts : Summary),
        p.result r collections (p.deliverDocument ⟨none, ""⟩ none .standard r collections)
            = .ok counts →
          ∀ document, Url.textOfBytes?
              (p.deliverDocument ⟨none, ""⟩ none .standard r collections).delivery.bytes
                = some document →
            ∀ c ∈ document.toList, Xml.isChar c = true := by
  intro legal
  obtain ⟨ok, bytes⟩ := (Publisher.byId .simple).bytes_of_result_ok _ _ result_control
  have all := legal _ _ _ _ result_control _ (by rw [bytes]; exact Xml.textOfBytes?_utf8Bytes _)
  rw [String.toList_ofList, ← Xml.strays_eq_nil_iff, strays_document _ _ _ ok] at all
  have stray : '\x01' ∈ strays (((Publisher.byId .simple).carriedTexts (.ofOptions [])
      [[⟨"\x01", .empty, none⟩]]).flatMap String.toList) := by
    decide +kernel
  rw [all] at stray
  cases stray

end Publisher

end GeoFeed

/-
# GeoFeed.Proofs.Feed.Reading -- reading a feed back

A reader of feeds takes the bytes of a document, reads the element that they spell,
and takes the fields of the channel and of its items off it: a title first, then
what may be missing, then the description, then enclosures, and what is left is the
geometry.  A document of another shape is refused.

Whatever texts a feed carries, they come back as they were, each in its own field,
and nothing else comes back (`deliverDocument_read`).  So no text can end the field
that it stands in, or begin another one.
-/
import GeoFeed.Proofs.Feed.Element
import GeoFeed.Proofs.Feed.Limit

namespace GeoFeed

set_option autoImplicit false

/-! ## Items -/

/-- What a reader finds in an item. -/
structure Item where
  title : String
  published : Option String
  link : Option String
  guid : Option String
  description : String
  enclosures : List Enclosure
  geometry : List Xml.Element

/-- What an entry has to say. -/
def Entry.item (entry : Entry) : Item where
  title := entry.title
  published := entry.published
  link := entry.link
  guid := entry.guid
  description := entry.description
  enclosures := entry.enclosures
  geometry := (entry.markup.map Markup.elements).getD []

namespace Reader

/-- Take the text of an element that holds nothing else. -/
def text? (name : String) : List Xml.Element → Option (String × List Xml.Element)
  | [] => none
  | e :: rest =>
      if e.name = name ∧ e.attributes = [] ∧ e.children.isEmpty then some (e.text, rest) else none

/-- Take the text of an element that may be missing. -/
def optional (name : String) (es : List Xml.Element) : Option String × List Xml.Element :=
  match text? name es with
  | some (text, rest) => (some text, rest)
  | none => (none, es)

/-- Read an enclosure. -/
def enclosure? : Xml.Element → Option Enclosure
  | ⟨"enclosure", [("url", url), ("length", length), ("type", mediaType)], "", []⟩ =>
      some ⟨url, length, mediaType⟩
  | _ => none

/-- Take all enclosures that come next. -/
def enclosures : List Xml.Element → List Enclosure × List Xml.Element
  | [] => ([], [])
  | e :: rest =>
      match enclosure? e with
      | none => ([], e :: rest)
      | some one => (one :: (enclosures rest).1, (enclosures rest).2)

/-- Read an item. -/
def item? : Xml.Element → Option Item
  | ⟨"item", [], "", children⟩ => do
      let (title, rest) ← text? "title" children
      let (published, rest) := optional "pubDate" rest
      let (link, rest) := optional "link" rest
      let (guid, rest) := optional "guid" rest
      let (description, rest) ← text? "description" rest
      let (enclosures, geometry) := enclosures rest
      pure { title, published, link, guid, description, enclosures, geometry }
  | _ => none

/-! ## Reading items -/

theorem text?_leaf (name text : String) (rest : List Xml.Element) :
    text? name (.leaf name text :: rest) = some (text, rest) := by
  simp [text?, Xml.Element.leaf]

/-- A text that may be missing is found if it is there, and else nothing is taken. -/
theorem optional_append (name : String) (found : Option String) {rest : List Xml.Element}
    (other : ∀ e ∈ rest.head?, e.name ≠ name) :
    optional name ((found.map (Xml.Element.leaf name)).toList ++ rest) = (found, rest) := by
  cases found with
  | some text =>
      have taken := text?_leaf name text rest
      simp only [optional, Option.map_some, Option.toList_some, List.singleton_append, taken]
  | none =>
      have absent : text? name rest = none := by
        cases rest with
        | nil => rfl
        | cons e rest => exact if_neg fun same => other e rfl same.1
      simp only [optional, Option.map_none, Option.toList_none, List.nil_append, absent]

theorem enclosure?_enclosureElement (e : Enclosure) :
    enclosure? (Entry.enclosureElement e) = some e := rfl

/-- An element without attributes is no enclosure. -/
theorem enclosure?_of_attributes_nil {e : Xml.Element} (plain : e.attributes = []) :
    enclosure? e = none := by
  unfold enclosure?
  split
  · cases plain
  · rfl

theorem enclosures_append (all : List Enclosure) {rest : List Xml.Element}
    (plain : ∀ e ∈ rest.head?, e.attributes = []) :
    enclosures (all.map Entry.enclosureElement ++ rest) = (all, rest) := by
  induction all with
  | nil =>
      cases rest with
      | nil => rfl
      | cons e rest =>
          rw [List.map_nil, List.nil_append, enclosures, enclosure?_of_attributes_nil (plain e rfl)]
  | cons one all ih =>
      rw [List.map_cons, List.cons_append, enclosures, enclosure?_enclosureElement, ih]

/-- The elements of a geometry have no attributes. -/
theorem attributes_of_mem_elements {m : Markup} {e : Xml.Element} (member : e ∈ m.elements) :
    e.attributes = [] := by
  cases m with
  | simple name content =>
      obtain rfl := List.mem_singleton.1 member
      rfl
  | latLong lat lon =>
      rcases List.mem_cons.1 member with rfl | member
      · rfl
      · obtain rfl := List.mem_singleton.1 member
        rfl
  | gml element geometry =>
      obtain found := Option.mem_toList.1 member
      unfold Gml.element? at found
      split at found
      all_goals
        cases found
      all_goals
        rfl

/-- What comes first of a part that may be missing and what follows it. -/
theorem head_optional (name : String) {other : String} (differ : name ≠ other) (found : Option String)
    {rest : List Xml.Element} (next : ∀ e ∈ rest.head?, e.name ≠ other) :
    ∀ e ∈ ((found.map (Xml.Element.leaf name)).toList ++ rest).head?, e.name ≠ other := by
  cases found with
  | none => exact next
  | some text =>
      intro e first
      obtain rfl : Xml.Element.leaf name text = e := by simpa using first
      exact differ

/-- **An item is read as what its entry has to say.** -/
theorem item?_element (entry : Entry) : item? entry.element = some entry.item := by
  have plain : ∀ e ∈ ((entry.markup.map Markup.elements).getD []).head?, e.attributes = [] := by
    intro e first
    cases found : entry.markup with
    | none => simp [found] at first
    | some m =>
        rw [found] at first
        exact attributes_of_mem_elements (List.mem_of_mem_head? first)
  have description : ∀ other, "description" ≠ other →
      ∀ e ∈ (Xml.Element.leaf "description" entry.description
        :: (entry.enclosures.map Entry.enclosureElement
          ++ (entry.markup.map Markup.elements).getD [])).head?, e.name ≠ other := by
    intro other differ e first
    obtain rfl : Xml.Element.leaf "description" entry.description = e := by simpa using first
    exact differ
  have guid := optional_append "guid" entry.guid (description "guid" (by decide))
  have link := optional_append "link" entry.link
    (head_optional "guid" (by decide) entry.guid (description "link" (by decide)))
  have published := optional_append "pubDate" entry.published
    (head_optional "link" (by decide) entry.link
      (head_optional "guid" (by decide) entry.guid (description "pubDate" (by decide))))
  simp only [item?, Entry.element, Entry.elements, text?_leaf, Option.bind_eq_bind, Option.bind_some,
    published, link, guid, enclosures_append entry.enclosures plain]
  rfl

theorem mapM_item? (entries : List Entry) :
    (entries.map Entry.element).mapM item? = some (entries.map Entry.item) := by
  induction entries with
  | nil => rfl
  | cons entry rest ih => simp [item?_element, ih]

end Reader

/-! ## Feeds -/

/-- What a reader finds in a feed. -/
structure Feed where
  attributes : Xml.Attributes
  title : String
  description : String
  link : String
  /-- The address that a feed gives as its own. -/
  selfLink : String
  items : List Item

namespace Reader

/-- Take the address that a feed gives as its own. -/
def selfLink? : List Xml.Element → Option (String × List Xml.Element)
  | ⟨"atom:link", [("href", href), ("rel", "self")], "", []⟩ :: rest => some (href, rest)
  | _ => none

/-- Read a feed. -/
def feed? : Xml.Element → Option Feed
  | ⟨"rss", attributes, "", [⟨"channel", [], "", children⟩]⟩ => do
      let (title, rest) ← text? "title" children
      let (description, rest) ← text? "description" rest
      let (link, rest) ← text? "link" rest
      let (selfLink, rest) ← selfLink? rest
      let items ← rest.mapM item?
      pure { attributes, title, description, link, selfLink, items }
  | _ => none

end Reader

/-- Read the bytes of a feed. -/
def Feed.ofBytes? (bytes : List UInt8) : Option Feed := do
  let root ← Xml.ofBytes? bytes
  Reader.feed? root

namespace Publisher

variable (p : Publisher) (r : Request) (collections : List (List Feature))

/-- What a feed has to say. -/
def feed : Feed where
  attributes := p.rootAttributes r
  title := (p.channelTitle r).value
  description := (p.channelDescription r).value
  link := r.channelLink.value
  selfLink := r.channelLink.value
  items := (p.feedEntries r collections).map Entry.item

/-- A channel is read as what the feed has to say. -/
theorem feed?_channelElement :
    Reader.feed? ⟨"rss", p.rootAttributes r, "", [p.channelElement r collections]⟩
      = some (p.feed r collections) := by
  have address (rest : List Xml.Element) : Reader.selfLink?
      (⟨"atom:link", [("href", r.channelLink.value), ("rel", "self")], "", []⟩ :: rest)
        = some (r.channelLink.value, rest) := rfl
  simp only [Reader.feed?, channelElement, headerElements, List.cons_append, List.nil_append,
    Reader.text?_leaf, Option.bind_eq_bind, Option.bind_some, address, Reader.mapM_item?]
  rfl

/-! ## Reading what was delivered -/

/-- What a complete document does with the standard encoder. -/
theorem documentTrace_standard :
    p.documentTrace .standard r collections
      = Trace.andThen { events := [.declaration] } (p.feedTrace r collections) := by
  have declaration : Trace.ofSteps (Step.events [.declaration]) = { events := [.declaration] } :=
    Trace.ofSteps_events _
  rw [documentTrace, Step.traceAll_standard, documentSteps, List.map_append, Trace.concat_append,
    feedTrace, ← declaration, Trace.ofSteps, Trace.ofSteps]

/-- A document that comes to its end has all bytes of its feed. -/
theorem bytes_of_complete {output : Output} (accepts : output.room = none)
    {flushRefusal : Option String} {counts : Summary}
    (complete : p.result r collections
      (p.deliverDocument output flushRefusal .standard r collections) = .ok counts) :
    (p.feedTrace r collections).failure = none ∧
      (p.deliverDocument output flushRefusal .standard r collections).delivery.bytes
        = Xml.bytes (.declaration :: (p.feedTrace r collections).events) := by
  have run := p.deliverDocument_of_fits .standard r collections flushRefusal
    (Output.fits_of_unlimited accepts _)
  rw [documentTrace_standard, Trace.andThen_of_ok rfl] at run
  obtain ⟨ok, -⟩ := (p.result_eq_ok_iff r collections _ counts).1 complete
  rw [run] at ok ⊢
  exact ⟨(Option.or_eq_none_iff.1 ok).1, rfl⟩

/-- **A complete document is read as what the feed has to say**: the texts of its
channel, and one item for every entry, in the order of the features, each with the
texts, the enclosures and the geometry of that entry. -/
theorem deliverDocument_read (output : Output) (accepts : output.room = none)
    (flushRefusal : Option String) (counts : Summary)
    (complete : p.result r collections
      (p.deliverDocument output flushRefusal .standard r collections) = .ok counts) :
    Feed.ofBytes? (p.deliverDocument output flushRefusal .standard r collections).delivery.bytes
      = some (p.feed r collections) := by
  obtain ⟨ok, bytes⟩ := p.bytes_of_complete r collections accepts complete
  have channel := p.spells_channel r collections
  have root := Xml.ofBytes?_document (by decide : Xml.isName "rss") (p.named_rootAttributes r) channel
  rw [Feed.ofBytes?, bytes, p.events_feedTrace_of_ok r collections ok, root, Option.bind_eq_bind,
    Option.bind_some]
  exact p.feed?_channelElement r collections

/-- Markup in an identifier, and so in all texts of an item, is read as text. -/
theorem deliverDocument_read_markup :
    (⟨none, ""⟩ : Output).room = none ∧
      (Publisher.byId .simple).result (.ofOptions []) [[⟨"]]></item>&<\"'", .empty, none⟩]]
          ((Publisher.byId .simple).deliverDocument ⟨none, ""⟩ none .standard (.ofOptions [])
            [[⟨"]]></item>&<\"'", .empty, none⟩]])
        = .ok ⟨1, 0, 0⟩ ∧
      Feed.ofBytes? ((Publisher.byId .simple).deliverDocument ⟨none, ""⟩ none .standard
            (.ofOptions []) [[⟨"]]></item>&<\"'", .empty, none⟩]]).delivery.bytes
        = some ((Publisher.byId .simple).feed (.ofOptions [])
            [[⟨"]]></item>&<\"'", .empty, none⟩]]) := by
  have complete : (Publisher.byId .simple).result (.ofOptions [])
      [[⟨"]]></item>&<\"'", .empty, none⟩]]
      ((Publisher.byId .simple).deliverDocument ⟨none, ""⟩ none .standard (.ofOptions [])
        [[⟨"]]></item>&<\"'", .empty, none⟩]])
      = .ok ⟨1, 0, 0⟩ := by
    decide +kernel
  exact ⟨rfl, complete, deliverDocument_read _ _ _ ⟨none, ""⟩ rfl none ⟨1, 0, 0⟩ complete⟩

/-! ## Documents that are complete -/

/-- A document that comes to its end on some output fits there. -/
theorem fits_of_complete {output : Output} {encoders : Encoders} {flushRefusal : Option String}
    {counts : Summary}
    (complete : p.result r collections
      (p.deliverDocument output flushRefusal encoders r collections) = .ok counts) :
    output.Fits (p.documentTrace encoders r collections).bytes.length := by
  obtain ⟨ended, -⟩ := (p.result_eq_ok_iff r collections _ counts).1 complete
  refine Output.fits_of_carryOut ?_
  by_contra failed
  rw [deliverDocument, FeedRun.andThen_of_failure (Option.isSome_iff_ne_none.2 failed)] at ended
  exact failed ended

/-- A complete document has all bytes of its feed, whatever the output. -/
theorem bytes_of_result_ok {output : Output} {flushRefusal : Option String} {counts : Summary}
    (complete : p.result r collections
      (p.deliverDocument output flushRefusal .standard r collections) = .ok counts) :
    (p.feedTrace r collections).failure = none ∧
      (p.deliverDocument output flushRefusal .standard r collections).delivery.bytes
        = Xml.bytes (.declaration :: (p.feedTrace r collections).events) := by
  have run := p.deliverDocument_of_fits .standard r collections flushRefusal
    (p.fits_of_complete r collections complete)
  rw [documentTrace_standard, Trace.andThen_of_ok rfl] at run
  obtain ⟨ok, -⟩ := (p.result_eq_ok_iff r collections _ counts).1 complete
  rw [run] at ok ⊢
  exact ⟨(Option.or_eq_none_iff.1 ok).1, rfl⟩

/-- The events of a feed are read as what it has to say. -/
theorem ofBytes?_of_ok (ok : (p.feedTrace r collections).failure = none) :
    Feed.ofBytes? (Xml.bytes (.declaration :: (p.feedTrace r collections).events))
      = some (p.feed r collections) := by
  have root := Xml.ofBytes?_document (by decide : Xml.isName "rss") (p.named_rootAttributes r)
    (p.spells_channel r collections)
  rw [Feed.ofBytes?, p.events_feedTrace_of_ok r collections ok, root, Option.bind_eq_bind,
    Option.bind_some]
  exact p.feed?_channelElement r collections

end Publisher

end GeoFeed

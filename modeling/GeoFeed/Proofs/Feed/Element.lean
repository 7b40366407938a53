/-
# GeoFeed.Proofs.Feed.Element -- the elements of a feed

What the events of a feed spell, from the inside out: the geometry of an item, the
item itself, the channel.  Each part has its elements as a function of its data, and
a lemma that its events spell them (`Xml.Spells`), whatever texts it carries.

Main statement: `spells_channel`.
-/
import GeoFeed.Proofs.Feed.Block
import GeoFeed.Proofs.Xml.Tree

namespace GeoFeed

set_option autoImplicit false

open Xml (Spells)

/-! ## GML -/

namespace Gml

/-- An element around others. -/
def enclosing (name : String) (children : List Xml.Element) : Xml.Element := ⟨name, [], "", children⟩

def pointElement (place : Coordinate) : Xml.Element :=
  enclosing "gml:Point" [.leaf "gml:pos" place.latLon]

def positionsElement (path : Path) : Xml.Element :=
  .leaf "gml:posList" (Path.latLons path)

def lineElement (path : Path) : Xml.Element :=
  enclosing "gml:LineString" [positionsElement path]

def ringElement (boundary : String) (ring : Path) : Xml.Element :=
  enclosing boundary [enclosing "gml:LinearRing" [positionsElement ring]]

def polygonElement (area : Polygon) : Xml.Element :=
  enclosing "gml:Polygon"
    (ringElement "gml:exterior" area.exterior :: area.interiors.map (ringElement "gml:interior"))

def membersElement {α : Type} (name member : String) (element : α → Xml.Element) (parts : List α) :
    Xml.Element :=
  enclosing name (parts.map fun part => enclosing member [element part])

/-- A geometry as an element, where there is one. -/
def element? : Element → Geometry → Option Xml.Element
  | .point, .point place => some (pointElement place)
  | .lineString, .lineString path => some (lineElement path)
  | .polygon, .polygon area => some (polygonElement area)
  | .multiPoint, .multiPoint places =>
      some (membersElement "gml:MultiPoint" "gml:pointMember" pointElement places)
  | .multiLineString, .multiLineString paths =>
      some (membersElement "gml:MultiLineString" "gml:lineStringMember" lineElement paths)
  | .multiPolygon, .multiPolygon areas =>
      some (membersElement "gml:MultiPolygon" "gml:polygonMember" polygonElement areas)
  | _, _ => none

theorem spells_inside {name : String} (named : Xml.isName name) {events : List Xml.Event}
    {children : List Xml.Element} (content : Spells events [] children) :
    Spells (inside name events) [] [enclosing name children] :=
  content.around name [] named rfl

theorem spells_point (place : Coordinate) : Spells (pointEvents place) [] [pointElement place] :=
  spells_inside (by decide) (.element _ (by decide) _)

theorem spells_positions (path : Path) :
    Spells (positionsEvents path) [] [positionsElement path] :=
  .element _ (by decide) _

theorem spells_line (path : Path) : Spells (lineEvents path) [] [lineElement path] :=
  spells_inside (by decide) (spells_positions path)

theorem spells_ring {boundary : String} (named : Xml.isName boundary) (ring : Path) :
    Spells (ringEvents boundary ring) [] [ringElement boundary ring] :=
  spells_inside named (spells_inside (by decide) (spells_positions ring))

theorem spells_rings (area : Polygon) :
    Spells (ringEvents "gml:exterior" area.exterior
        ++ area.interiors.flatMap (ringEvents "gml:interior")) []
      (ringElement "gml:exterior" area.exterior
        :: area.interiors.map (ringElement "gml:interior")) := by
  have holes : Spells (area.interiors.flatMap (ringEvents "gml:interior")) []
      (area.interiors.map (ringElement "gml:interior")) := by
    rw [← List.flatMap_pure_eq_map]
    exact .flatMap fun ring _ => spells_ring (by decide) ring
  exact (spells_ring (by decide) area.exterior).append holes

theorem spells_polygon (area : Polygon) : Spells (polygonEvents area) [] [polygonElement area] :=
  spells_inside (by decide) (spells_rings area)

section Members

variable {α : Type} {name member : String} (named' : Xml.isName member)
  {events : α → List Xml.Event} {element : α → Xml.Element}
  (each : ∀ part, Spells (events part) [] [element part]) (parts : List α)

include named' each

theorem spells_parts : Spells (parts.flatMap fun part => inside member (events part)) []
    (parts.map fun part => enclosing member [element part]) := by
  rw [← List.flatMap_pure_eq_map]
  exact .flatMap fun part _ => spells_inside named' (each part)

theorem spells_members (named : Xml.isName name) :
    Spells (membersEvents name member events parts) [] [membersElement name member element parts] :=
  spells_inside named (spells_parts named' each parts)

end Members

/-- **A fragment spells the element of its geometry**, or nothing where there is none. -/
theorem spells_encode (element : Element) (geometry : Geometry) :
    Spells (encode element geometry).events [] (element? element geometry).toList := by
  unfold encode
  fun_cases events? element geometry with
  | case1 place => exact spells_point place
  | case2 path => exact spells_line path
  | case3 area => exact spells_polygon area
  | case4 places => exact spells_members (by decide) spells_point places (by decide)
  | case5 paths => exact spells_members (by decide) spells_line paths (by decide)
  | case6 areas => exact spells_members (by decide) spells_polygon areas (by decide)
  | case7 =>
      rw [element?]
      · exact .nil
      all_goals assumption

end Gml

/-! ## Items -/

namespace Markup

/-- The elements of a markup. -/
def elements : Markup → List Xml.Element
  | simple name content => [.leaf name content]
  | latLong lat lon =>
      [.leaf "geo:lat" (Decimal.toText lat), .leaf "geo:long" (Decimal.toText lon)]
  | gml element geometry => (Gml.element? element geometry).toList

/-- The names of the elements of simple markups. -/
def simpleNames : List String := ["georss:point", "georss:line", "georss:polygon"]

/-- Whether the element of a simple markup has one of these names. -/
def Named : Markup → Prop
  | simple name _ => name ∈ simpleNames
  | _ => True

theorem named_ofPath {name : String} (named : name ∈ simpleNames) {path : Path} {m : Markup}
    (found : ofPath name path = some m) : m.Named := by
  unfold ofPath at found
  split at found
  · cases found
  · cases found
    exact named

theorem named_ofSimple {g : Geometry} {m : Markup} (found : ofSimple g = some m) : m.Named := by
  unfold ofSimple at found
  split at found
  · cases found
    exact (by decide : "georss:point" ∈ simpleNames)
  · exact named_ofPath (by decide) found
  · exact named_ofPath (by decide) found
  · cases found

theorem spells {m : Markup} (named : m.Named) : Spells m.events [] m.elements := by
  cases m with
  | simple name content =>
      have isName := (by decide : ∀ name ∈ simpleNames, Xml.isName name) name named
      exact .element name isName content
  | latLong lat lon => exact (Spells.element _ (by decide) _).append (.element _ (by decide) _)
  | gml element geometry => exact Gml.spells_encode element geometry

end Markup

/-- The simple markups of a feed have their names. -/
theorem Feature.named_of_mem_feedEntries {f : Feature} {templates : Templates} {shape : Shape}
    {entry : Entry} (member : entry ∈ f.feedEntries templates shape) {m : Markup}
    (found : entry.markup = some m) : m.Named := by
  obtain ⟨g, same⟩ := markup_of_mem_feedEntries member found
  unfold Scheme.markup at same
  cases scheme : shape.scheme with
  | simple =>
      simp only [scheme, Except.ok.injEq] at same
      exact Markup.named_ofSimple same
  | gml =>
      simp only [scheme, Except.ok.injEq, Option.some.injEq] at same
      subst same
      trivial
  | latLong =>
      simp only [scheme] at same
      split at same
      · cases same
        trivial
      · cases same

namespace Entry

def enclosureElement (e : Enclosure) : Xml.Element :=
  ⟨"enclosure", [("url", e.url), ("length", e.length), ("type", e.mediaType)], "", []⟩

/-- The elements inside an item. -/
def elements (entry : Entry) : List Xml.Element :=
  .leaf "title" entry.title
    :: ((entry.published.map (Xml.Element.leaf "pubDate")).toList
      ++ ((entry.link.map (Xml.Element.leaf "link")).toList
        ++ ((entry.guid.map (Xml.Element.leaf "guid")).toList
          ++ .leaf "description" entry.description
          :: (entry.enclosures.map enclosureElement
            ++ (entry.markup.map Markup.elements).getD []))))

/-- An item as an element. -/
def element (entry : Entry) : Xml.Element := ⟨"item", [], "", entry.elements⟩

/-- A part that may be missing spells its elements where it is there. -/
theorem spells_option {α : Type} {events : α → List Xml.Event} {element : α → Xml.Element}
    (each : ∀ x, Spells (events x) [] [element x]) (found : Option α) :
    Spells ((found.map events).getD []) [] (found.map element).toList := by
  cases found with
  | none => exact .nil
  | some x => exact each x

theorem spells_enclosures (enclosures : List Enclosure) :
    Spells (enclosures.map enclosureEvent) [] (enclosures.map enclosureElement) := by
  rw [← List.flatMap_pure_eq_map, ← List.flatMap_pure_eq_map]
  refine .flatMap fun e _ => .empty "enclosure" _ (by decide) ?_
  simp only [List.all_cons, List.all_nil, Bool.and_true]
  decide

/-- **An item spells its element.** -/
theorem spells {entry : Entry} (named : ∀ m, entry.markup = some m → m.Named) :
    Spells entry.itemEvents [] [entry.element] := by
  have geometry : Spells ((entry.markup.map Markup.events).getD []) []
      ((entry.markup.map Markup.elements).getD []) := by
    cases found : entry.markup with
    | none => exact .nil
    | some m => exact Markup.spells (named m found)
  have title := Spells.element "title" (by decide) entry.title
  have published := spells_option (Spells.element "pubDate" (by decide)) entry.published
  have link := spells_option (Spells.cdataElement "link" (by decide)) entry.link
  have guid := spells_option (Spells.cdataElement "guid" (by decide)) entry.guid
  have description := Spells.cdataElement "description" (by decide) entry.description
  have enclosures := spells_enclosures entry.enclosures
  have content := (((((title.append published).append link).append guid).append description).append
    enclosures).append geometry
  have item := content.around "item" [] (by decide) rfl
  simpa [itemEvents, frontEvents, element, elements] using item

end Entry

/-! ## Channels -/

/-- The attributes of a root have names. -/
theorem named_namespaceAttributes (scheme : Scheme) :
    (("version", "2.0") :: namespaceAttributes scheme).all fun a => Xml.isName a.1 := by
  cases scheme with
  | simple => decide
  | gml => decide
  | latLong => decide

namespace Publisher

variable (p : Publisher) (r : Request) (collections : List (List Feature))

/-- The entries of a feed, in the order of its features. -/
def feedEntries : List Entry :=
  collections.flatten.flatMap (·.feedEntries p.templates (r.shape p.standard).value)

/-- The attributes of the root. -/
def rootAttributes : Xml.Attributes :=
  ("version", "2.0") :: namespaceAttributes (r.shape p.standard).value.scheme

/-- The elements of a channel before its items. -/
def headerElements : List Xml.Element :=
  [.leaf "title" (p.channelTitle r).value, .leaf "description" (p.channelDescription r).value,
    .leaf "link" r.channelLink.value,
    ⟨"atom:link", [("href", r.channelLink.value), ("rel", "self")], "", []⟩]

/-- A channel as an element. -/
def channelElement : Xml.Element :=
  ⟨"channel", [], "", p.headerElements r ++ (p.feedEntries r collections).map Entry.element⟩

theorem named_rootAttributes : (p.rootAttributes r).all fun a => Xml.isName a.1 :=
  named_namespaceAttributes _

theorem spells_link (link : String) :
    Spells (linkEvents link) []
      [.leaf "link" link, ⟨"atom:link", [("href", link), ("rel", "self")], "", []⟩] := by
  refine (Spells.cdataElement "link" (by decide) link).append (.empty "atom:link" _ (by decide) ?_)
  simp only [List.all_cons, List.all_nil, Bool.and_true]
  decide

/-- The blocks of features spell the items of their entries. -/
theorem spells_blocks (templates : Templates) (shape : Shape) (features : List Feature) :
    Spells (features.flatMap (·.blockEvents templates shape)) []
      ((features.flatMap (·.feedEntries templates shape)).map Entry.element) := by
  rw [List.map_flatMap]
  refine .flatMap fun f _ => ?_
  rw [Feature.blockEvents, ← List.flatMap_pure_eq_map]
  exact .flatMap fun entry member =>
    Entry.spells fun m found => Feature.named_of_mem_feedEntries member found

/-- The events of a channel. -/
def channelEvents : List Xml.Event :=
  .opening "channel" []
    :: (Xml.element "title" (p.channelTitle r).value
        ++ Xml.element "description" (p.channelDescription r).value
        ++ linkEvents r.channelLink.value
        ++ collections.flatten.flatMap (·.blockEvents p.templates (r.shape p.standard).value)
        ++ [.closing "channel"])

/-- **A channel spells its element.** -/
theorem spells_channel :
    Spells (p.channelEvents r collections) [] [p.channelElement r collections] := by
  have title := Spells.element "title" (by decide) (p.channelTitle r).value
  have description := Spells.element "description" (by decide) (p.channelDescription r).value
  have items := spells_blocks p.templates (r.shape p.standard).value collections.flatten
  exact (((title.append description).append (spells_link _)).append items).around "channel" []
    (by decide) rfl

/-- A feed that comes to its end is a channel inside the root. -/
theorem events_feedTrace_of_ok (ok : (p.feedTrace r collections).failure = none) :
    (p.feedTrace r collections).events
      = .opening "rss" (p.rootAttributes r) :: (p.channelEvents r collections ++ [.closing "rss"]) := by
  rw [feedTrace_of_ok p r collections ok]
  simp only [headerEvents, footerEvents, rootAttributes, channelEvents, List.cons_append,
    List.nil_append, List.append_assoc]

/-- A feed that comes to its end can be read. -/
theorem legible_feedTrace_of_ok (ok : (p.feedTrace r collections).failure = none) :
    ∀ e ∈ (p.feedTrace r collections).events, e.Legible := by
  rw [events_feedTrace_of_ok p r collections ok]
  exact ((p.spells_channel r collections).around "rss" _ (by decide)
    (p.named_rootAttributes r)).legible

end Publisher

end GeoFeed

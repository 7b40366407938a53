/-
# GeoFeed.Proofs.Gml.Reading -- reading a fragment back

A fragment says what kind of geometry it holds, how its members and rings are arranged,
and the text of each number (`Outline`).  A reader takes this off the element that the
bytes of the fragment spell: the kind from the names of the tags, the members and rings
in their order, and from each list of positions the texts between single spaces, of which
the first of two is a latitude, the `y` of a coordinate.

The standard encoder writes a geometry as the element of its kind and as nothing else,
and what it writes is read as the outline of the geometry.  Empty paths, rings and
geometries are no exception: numbers are never written as an empty text or with a space,
so an empty list of positions is told apart from all others.  Two geometries with one
fragment then have one outline.

Main statement: `writeFragment_read`.
-/
import GeoFeed.Proofs.Feed.Element

namespace GeoFeed.Gml

set_option autoImplicit false

/-! ## Outlines -/

/-- A coordinate as it is written: the texts of its two numbers. -/
structure PlaceText where
  x : String
  y : String
deriving Repr, DecidableEq

/-- A path, or the ring of a polygon, as it is written. -/
abbrev PathText := List PlaceText

structure AreaText where
  exterior : PathText
  interiors : List PathText
deriving Repr, DecidableEq

/-- What a fragment tells of a geometry. -/
inductive Outline where
  | point (place : PlaceText)
  | lineString (path : PathText)
  | polygon (area : AreaText)
  | multiPoint (places : List PlaceText)
  | multiLineString (paths : List PathText)
  | multiPolygon (areas : List AreaText)
deriving Repr, DecidableEq

def PlaceText.of (place : Coordinate) : PlaceText :=
  ⟨Decimal.toText place.x, Decimal.toText place.y⟩

def PathText.of (path : Path) : PathText := path.map PlaceText.of

def AreaText.of (area : Polygon) : AreaText :=
  ⟨PathText.of area.exterior, area.interiors.map PathText.of⟩

/-- The outline of a geometry of a kind that has an element of its own. -/
def Outline.of? : Geometry → Option Outline
  | .point place => some (.point (.of place))
  | .lineString path => some (.lineString (.of path))
  | .polygon area => some (.polygon (.of area))
  | .multiPoint places => some (.multiPoint (places.map .of))
  | .multiLineString paths => some (.multiLineString (paths.map .of))
  | .multiPolygon areas => some (.multiPolygon (areas.map .of))
  | _ => none

/-! ## The reader -/

/-- Pair the texts of numbers, latitude before longitude. -/
def pairs? : List String → Option PathText
  | [] => some []
  | [_] => none
  | lat :: lon :: rest => (pairs? rest).map (⟨lon, lat⟩ :: ·)

/-- Read a list of positions. -/
def positions? (text : String) : Option PathText :=
  if text = "" then some [] else pairs? ((Text.pieces (· == ' ') text.toList).map String.ofList)

/-- The positions in an element of the given name that holds nothing else. -/
def positionsIn? (name : String) : Xml.Element → Option PathText
  | ⟨found, [], text, []⟩ => if found = name then positions? text else none
  | _ => none

/-- The elements in an element of the given name that holds nothing else. -/
def childrenIn? (name : String) : Xml.Element → Option (List Xml.Element)
  | ⟨found, [], "", children⟩ => if found = name then some children else none
  | _ => none

/-- The element in an element of the given name that holds nothing else. -/
def childIn? (name : String) (e : Xml.Element) : Option Xml.Element :=
  match childrenIn? name e with
  | some [child] => some child
  | _ => none

def place? (e : Xml.Element) : Option PlaceText :=
  match (childIn? "gml:Point" e).bind (positionsIn? "gml:pos") with
  | some [place] => some place
  | _ => none

def path? (e : Xml.Element) : Option PathText :=
  (childIn? "gml:LineString" e).bind (positionsIn? "gml:posList")

def ring? (boundary : String) (e : Xml.Element) : Option PathText :=
  (childIn? boundary e).bind fun ring =>
    (childIn? "gml:LinearRing" ring).bind (positionsIn? "gml:posList")

def area? (e : Xml.Element) : Option AreaText :=
  match childrenIn? "gml:Polygon" e with
  | some (exterior :: interiors) => do
      pure ⟨← ring? "gml:exterior" exterior, ← interiors.mapM (ring? "gml:interior")⟩
  | _ => none

/-- Read the members of a geometry of several parts. -/
def members? {α : Type} (name member : String) (read : Xml.Element → Option α) (e : Xml.Element) :
    Option (List α) :=
  (childrenIn? name e).bind fun children =>
    children.mapM fun child => (childIn? member child).bind read

/-- Read a fragment; the name of its element tells the kind of the geometry. -/
def Outline.read? (e : Xml.Element) : Option Outline :=
  match e.name with
  | "gml:Point" => (place? e).map .point
  | "gml:LineString" => (path? e).map .lineString
  | "gml:Polygon" => (area? e).map .polygon
  | "gml:MultiPoint" => (members? "gml:MultiPoint" "gml:pointMember" place? e).map .multiPoint
  | "gml:MultiLineString" =>
      (members? "gml:MultiLineString" "gml:lineStringMember" path? e).map .multiLineString
  | "gml:MultiPolygon" =>
      (members? "gml:MultiPolygon" "gml:polygonMember" area? e).map .multiPolygon
  | _ => none

/-! ## Positions -/

/-- The two numbers of a coordinate in the order in which they are written. -/
def numbers (place : Coordinate) : List String := [Decimal.toText place.y, Decimal.toText place.x]

theorem space_free (x : Float) : ∀ c ∈ (Decimal.toText x).toList, (c == ' ') = false := by
  intro c member
  have number := Decimal.toText_chars x member
  by_contra space
  obtain rfl : c = ' ' := by simpa using space
  exact absurd number (by decide)

/-- The spaces in a list of positions part its numbers. -/
theorem pieces_latLons (place : Coordinate) (rest : Path) :
    Text.pieces (· == ' ') (Path.latLons (place :: rest)).toList
      = ((place :: rest).flatMap numbers).map String.toList := by
  induction rest generalizing place with
  | nil =>
      have shape : (Path.latLons [place]).toList
          = (Decimal.toText place.y).toList ++ ' ' :: (Decimal.toText place.x).toList := by
        simp [Path.latLons, Coordinate.latLon]
      rw [shape, Text.pieces_append_cons (space_free place.y) rfl,
        Text.pieces_of_free (space_free place.x)]
      rfl
  | cons next rest ih =>
      have shape : (Path.latLons (place :: next :: rest)).toList
          = (Decimal.toText place.y).toList ++ ' ' :: ((Decimal.toText place.x).toList
            ++ ' ' :: (Path.latLons (next :: rest)).toList) := by
        simp [Path.latLons, Coordinate.latLon, String.intercalate_cons_cons]
      rw [shape, Text.pieces_append_cons (space_free place.y) rfl,
        Text.pieces_append_cons (space_free place.x) rfl, ih next]
      rfl

theorem pairs?_numbers (path : Path) : pairs? (path.flatMap numbers) = some (PathText.of path) := by
  induction path with
  | nil => rfl
  | cons place rest ih =>
      rw [List.flatMap_cons]
      simp only [numbers, List.cons_append, List.nil_append, pairs?] at ih ⊢
      rw [ih]
      rfl

/-- **Positions are read as they are, in their order.** -/
theorem positions?_latLons (path : Path) : positions? (Path.latLons path) = some (PathText.of path) := by
  cases path with
  | nil => rfl
  | cons place rest =>
      have parted := pieces_latLons place rest
      have nonempty : Path.latLons (place :: rest) ≠ "" := by
        intro empty
        rw [empty] at parted
        simp [Text.pieces, numbers] at parted
      rw [positions?, if_neg nonempty, parted, List.map_map]
      have texts : String.ofList ∘ String.toList = id := funext fun _ => String.ofList_toList
      rw [texts, List.map_id, pairs?_numbers]

/-! ## Elements -/

theorem positionsIn?_leaf (name : String) (path : Path) :
    positionsIn? name (.leaf name (Path.latLons path)) = some (PathText.of path) := by
  rw [Xml.Element.leaf, positionsIn?, if_pos rfl, positions?_latLons]

theorem childrenIn?_enclosing (name : String) (children : List Xml.Element) :
    childrenIn? name (enclosing name children) = some children :=
  if_pos rfl

theorem childIn?_enclosing (name : String) (child : Xml.Element) :
    childIn? name (enclosing name [child]) = some child := by
  rw [childIn?, childrenIn?_enclosing]

/-- The position of a point is written like a list of one position. -/
theorem place?_pointElement (place : Coordinate) :
    place? (pointElement place) = some (.of place) := by
  have position := positionsIn?_leaf "gml:pos" [place]
  rw [place?, pointElement, childIn?_enclosing, Option.bind_some]
  simp only [Path.latLons, List.map_cons, List.map_nil, String.intercalate_singleton] at position
  rw [position]
  rfl

theorem path?_lineElement (path : Path) : path? (lineElement path) = some (.of path) := by
  rw [path?, lineElement, childIn?_enclosing, Option.bind_some, positionsElement,
    positionsIn?_leaf]

theorem ring?_ringElement (boundary : String) (ring : Path) :
    ring? boundary (ringElement boundary ring) = some (.of ring) := by
  rw [ring?, ringElement, childIn?_enclosing, Option.bind_some, childIn?_enclosing,
    Option.bind_some, positionsElement, positionsIn?_leaf]

/-- What is read back one by one is read back in a row. -/
theorem mapM_map_of_read {α β : Type} {write : α → Xml.Element} {read : Xml.Element → Option β}
    {text : α → β} (each : ∀ x, read (write x) = some (text x)) (xs : List α) :
    (xs.map write).mapM read = some (xs.map text) := by
  induction xs with
  | nil => rfl
  | cons x rest ih => simp [each, ih]

theorem area?_polygonElement (area : Polygon) : area? (polygonElement area) = some (.of area) := by
  rw [area?, polygonElement, childrenIn?_enclosing]
  simp only [ring?_ringElement, mapM_map_of_read (ring?_ringElement "gml:interior"),
    Option.bind_eq_bind, Option.bind_some]
  rfl

theorem members?_membersElement {α β : Type} (name member : String) {element : α → Xml.Element}
    {read : Xml.Element → Option β} {text : α → β} (each : ∀ x, read (element x) = some (text x))
    (parts : List α) :
    members? name member read (membersElement name member element parts)
      = some (parts.map text) := by
  have one : ∀ x, (childIn? member (enclosing member [element x])).bind read = some (text x) := by
    intro x
    rw [childIn?_enclosing, Option.bind_some, each]
  rw [members?, membersElement, childrenIn?_enclosing, Option.bind_some]
  exact mapM_map_of_read one parts

/-- **The element of a geometry is read as its outline.** -/
theorem Outline.read?_of_element? {element : Element} {g : Geometry} {root : Xml.Element}
    (found : element? element g = some root) :
    ∃ outline, of? g = some outline ∧ read? root = some outline := by
  unfold element? at found
  split at found
  · obtain rfl := Option.some.inj found
    exact ⟨_, rfl, congrArg (Option.map _) (place?_pointElement _)⟩
  · obtain rfl := Option.some.inj found
    exact ⟨_, rfl, congrArg (Option.map _) (path?_lineElement _)⟩
  · obtain rfl := Option.some.inj found
    exact ⟨_, rfl, congrArg (Option.map _) (area?_polygonElement _)⟩
  · obtain rfl := Option.some.inj found
    exact ⟨_, rfl, congrArg (Option.map _) (members?_membersElement _ _ place?_pointElement _)⟩
  · obtain rfl := Option.some.inj found
    exact ⟨_, rfl, congrArg (Option.map _) (members?_membersElement _ _ path?_lineElement _)⟩
  · obtain rfl := Option.some.inj found
    exact ⟨_, rfl, congrArg (Option.map _) (members?_membersElement _ _ area?_polygonElement _)⟩
  · cases found

/-! ## Fragments -/

/-- The standard encoder has events for the element of a geometry's own kind only. -/
theorem isSome_events?_iff (element : Element) (g : Geometry) :
    (events? element g).isSome ↔ element = .ofGeometry g ∧ element ≠ .geometry := by
  cases g <;> cases element <;> simp [events?, Element.ofGeometry]

/-- A fragment is one element with the name that was asked for. -/
theorem exists_root_of_events? {element : Element} {g : Geometry} {events : List Xml.Event}
    (found : events? element g = some events) :
    ∃ root, Xml.rootOfBytes? (Xml.bytes events) = some root ∧ root.name = element.qualifiedName ∧
      element? element g = some root := by
  unfold events? at found
  have read {name : String} (named : Xml.isName name) {content : List Xml.Event}
      {children : List Xml.Element} (spelled : Xml.Spells content [] children) :
      Xml.rootOfBytes? (Xml.bytes (inside name content)) = some (enclosing name children) :=
    Xml.rootOfBytes?_bytes named rfl spelled
  split at found
  · obtain rfl := Option.some.inj found
    exact ⟨_, read (by decide) (.element _ (by decide) _), rfl, rfl⟩
  · obtain rfl := Option.some.inj found
    exact ⟨_, read (by decide) (spells_positions _), rfl, rfl⟩
  · obtain rfl := Option.some.inj found
    exact ⟨_, read (by decide) (spells_rings _), rfl, rfl⟩
  · obtain rfl := Option.some.inj found
    exact ⟨_, read (by decide) (spells_parts (by decide) spells_point _), rfl, rfl⟩
  · obtain rfl := Option.some.inj found
    exact ⟨_, read (by decide) (spells_parts (by decide) spells_line _), rfl, rfl⟩
  · obtain rfl := Option.some.inj found
    exact ⟨_, read (by decide) (spells_parts (by decide) spells_polygon _), rfl, rfl⟩
  · cases found

section Writing

variable {output : Output} (unlimited : output.room = none) {element : Element} {g : Geometry}

include unlimited in
theorem writeFragment_of_some {events : List Xml.Event} (found : events? element g = some events) :
    output.writeFragment encode element g = ⟨Xml.bytes events, output, none⟩ := by
  rw [Output.writeFragment]
  simp only [encode, found, Output.writeAll_unlimited unlimited]
  rw [Delivery.mapFailure, Delivery.andThen]
  simp [Xml.bytes]

theorem writeFragment_of_none (none_ : events? element g = none) :
    output.writeFragment encode element g = ⟨[], output, some (.unsupported g.kindName)⟩ := by
  rw [Output.writeFragment]
  simp only [encode, none_]
  rfl

end Writing

/-- **A fragment holds its geometry.**  The standard encoder writes a geometry as the
element of its kind, where there is one, and refuses every other element before the first
byte, naming the kind of the geometry.  What it writes is one element of the name that was
asked for, and is read as the outline of the geometry: its kind, its members and rings in
their order, empty ones included, and the text of every number in its place.  So two
geometries of different outlines have different fragments. -/
theorem writeFragment_read (output : Output) (unlimited : output.room = none) (element : Element)
    (g : Geometry) :
    ((output.writeFragment encode element g).failure = none ↔
      element = .ofGeometry g ∧ element ≠ .geometry) ∧
    ((output.writeFragment encode element g).failure ≠ none →
      output.writeFragment encode element g = ⟨[], output, some (.unsupported g.kindName)⟩) ∧
    ((output.writeFragment encode element g).failure = none →
      ∃ root outline, Xml.rootOfBytes? (output.writeFragment encode element g).bytes = some root ∧
        root.name = element.qualifiedName ∧ Outline.read? root = some outline ∧
        Outline.of? g = some outline) ∧
    ∀ (other : Element) (h : Geometry),
      (output.writeFragment encode element g).failure = none →
      (output.writeFragment encode other h).failure = none →
      (output.writeFragment encode element g).bytes = (output.writeFragment encode other h).bytes →
        Outline.of? g = Outline.of? h := by
  have written : ∀ (element : Element) (g : Geometry),
      (output.writeFragment encode element g).failure = none →
        ∃ root outline, Xml.rootOfBytes? (output.writeFragment encode element g).bytes = some root ∧
          root.name = element.qualifiedName ∧ Outline.read? root = some outline ∧
          Outline.of? g = some outline := by
    intro element g ok
    cases found : events? element g with
    | none => cases (congrArg Delivery.failure (writeFragment_of_none found)).symm.trans ok
    | some events =>
        obtain ⟨root, spelled, named, same⟩ := exists_root_of_events? found
        obtain ⟨outline, outlined, read⟩ := Outline.read?_of_element? same
        rw [writeFragment_of_some unlimited found]
        exact ⟨root, outline, spelled, named, read, outlined⟩
  refine ⟨?_, ?_, written element g, ?_⟩
  · rw [← isSome_events?_iff]
    cases found : events? element g with
    | none => simp [writeFragment_of_none found]
    | some events => simp [writeFragment_of_some unlimited found]
  · intro failed
    cases found : events? element g with
    | none => exact writeFragment_of_none found
    | some events => exact absurd (by rw [writeFragment_of_some unlimited found]) failed
  · intro other h ok ok' same
    obtain ⟨root, outline, spelled, -, read, outlined⟩ := written element g ok
    obtain ⟨root', outline', spelled', -, read', outlined'⟩ := written other h ok'
    obtain rfl := Option.some.inj (spelled.symm.trans (same ▸ spelled'))
    rw [outlined, outlined', ← read, ← read']

/-- Two paths, the first of them empty, come back as they were written. -/
theorem writeFragment_read_paths :
    (⟨none, ""⟩ : Output).room = none ∧
      ∃ root, Xml.rootOfBytes? ((⟨none, ""⟩ : Output).writeFragment encode .multiLineString
          (.multiLineString [[], [⟨1, 2⟩, ⟨3.5, -4⟩]])).bytes = some root ∧
        Outline.read? root = some (.multiLineString [[], [⟨"1", "2"⟩, ⟨"3.5", "-4"⟩]]) := by
  obtain ⟨written, -, read, -⟩ := writeFragment_read ⟨none, ""⟩ rfl .multiLineString
    (.multiLineString [[], [⟨1, 2⟩, ⟨3.5, -4⟩]])
  obtain ⟨root, outline, spelled, -, found, outlined⟩ := read (written.2 ⟨rfl, by decide⟩)
  have texts : Outline.of? (.multiLineString [[], [⟨1, 2⟩, ⟨3.5, -4⟩]])
      = some (.multiLineString [[], [⟨"1", "2"⟩, ⟨"3.5", "-4"⟩]]) := by
    decide +kernel
  exact ⟨rfl, root, spelled, found.trans (outlined.symm.trans texts)⟩

end GeoFeed.Gml

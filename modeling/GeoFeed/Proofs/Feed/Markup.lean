/-
# GeoFeed.Proofs.Feed.Markup -- the events of geometries

Whatever the scheme and the geometry, its markup is made of one kind of events: pairs
of tags with names of geometries, around others of the kind or around numbers
(`GeometryEvents`).  This is settled once for all schemes (`of_markup`), and what is
true of such events follows by induction on how they are put together: they are
legible, they begin with a tag, all their tags have names of geometries, and no
character of theirs is unknown to XML.
-/
import GeoFeed.Proofs.Feed.Element
import GeoFeed.Proofs.Xml.Excerpt
import GeoFeed.Proofs.Xml.Legal

namespace GeoFeed

set_option autoImplicit false

/-! ## Numbers -/

/-- A text of numbers with spaces between them. -/
def Numeric (text : String) : Prop :=
  ∀ c ∈ text.toList, Decimal.isNumberChar c = true ∨ c = ' '

theorem numeric_toText (x : Float) : Numeric (Decimal.toText x) :=
  fun _ member => .inl (Decimal.toText_chars x member)

theorem Numeric.append {s t : String} (first : Numeric s) (second : Numeric t) :
    Numeric (s ++ t) := by
  simpa [Numeric, or_imp, forall_and] using And.intro first second

theorem numeric_space : Numeric " " := by
  simp [Numeric]

theorem numeric_latLon (place : Coordinate) : Numeric place.latLon :=
  ((numeric_toText place.y).append numeric_space).append (numeric_toText place.x)

theorem numeric_latLons (path : Path) : Numeric (Path.latLons path) := by
  intro c member
  rw [Path.latLons, String.toList_intercalate] at member
  rcases Url.mem_intercalate member with space | ⟨part, inside, found⟩
  · exact numeric_space c space
  · rw [List.map_map] at inside
    obtain ⟨place, -, rfl⟩ := List.mem_map.1 inside
    exact numeric_latLon place c found

/-- Numbers have no character that XML does not have. -/
theorem Numeric.strays {text : String} (numeric : Numeric text) : Xml.strays text.toList = [] := by
  refine Xml.strays_eq_nil_iff.2 fun c member => ?_
  rcases numeric c member with number | rfl
  · refine Xml.isChar_of_isVisible ?_
    simp only [Decimal.isNumberChar, Bool.or_eq_true, beq_iff_eq] at number
    rcases number with ((((((digit | rfl) | rfl) | rfl) | rfl) | rfl) | rfl) | rfl
    · exact Url.isVisible_of_isAlphanum (by simp [Char.isAlphanum, digit])
    all_goals decide
  · decide

/-! ## Geometries -/

/-- The names of the elements that make up geometries. -/
def geometryNames : List String :=
  ["georss:point", "georss:line", "georss:polygon", "geo:lat", "geo:long",
    "gml:Point", "gml:pos", "gml:LineString", "gml:posList", "gml:Polygon", "gml:exterior",
    "gml:interior", "gml:LinearRing", "gml:MultiPoint", "gml:pointMember", "gml:MultiLineString",
    "gml:lineStringMember", "gml:MultiPolygon", "gml:polygonMember"]

/-- Events of which geometries are made. -/
inductive GeometryEvents : List Xml.Event → Prop
  | nil : GeometryEvents []
  | append {front back : List Xml.Event} :
      GeometryEvents front → GeometryEvents back → GeometryEvents (front ++ back)
  | around {name : String} {content : List Xml.Event} :
      name ∈ geometryNames → GeometryEvents content →
        GeometryEvents (.opening name [] :: (content ++ [.closing name]))
  | numbers {name text : String} :
      name ∈ geometryNames → Numeric text → GeometryEvents (Xml.element name text)

namespace GeometryEvents

theorem flatMap {α : Type} {events : α → List Xml.Event} (each : ∀ part, GeometryEvents (events part))
    (parts : List α) : GeometryEvents (parts.flatMap events) := by
  induction parts with
  | nil => exact nil
  | cons part rest ih => exact (each part).append ih

/-! ### Geometries are made of them -/

theorem point (place : Coordinate) : GeometryEvents (Gml.pointEvents place) :=
  .around (by decide) (.numbers (by decide) (numeric_latLon place))

theorem positions (path : Path) : GeometryEvents (Gml.positionsEvents path) :=
  .numbers (by decide) (numeric_latLons path)

theorem line (path : Path) : GeometryEvents (Gml.lineEvents path) :=
  .around (by decide) (positions path)

theorem ring {boundary : String} (named : boundary ∈ geometryNames) (ring : Path) :
    GeometryEvents (Gml.ringEvents boundary ring) :=
  .around named (.around (by decide) (positions ring))

theorem polygon (area : Polygon) : GeometryEvents (Gml.polygonEvents area) :=
  .around (by decide) ((ring (by decide) area.exterior).append
    (flatMap (fun hole => ring (by decide) hole) area.interiors))

theorem members {α : Type} {name member : String} (named : name ∈ geometryNames)
    (named' : member ∈ geometryNames) {events : α → List Xml.Event}
    (each : ∀ part, GeometryEvents (events part)) (parts : List α) :
    GeometryEvents (Gml.membersEvents name member events parts) :=
  .around named (flatMap (fun part => .around named' (each part)) parts)

theorem encode (element : Gml.Element) (geometry : Geometry) :
    GeometryEvents (Gml.encode element geometry).events := by
  unfold Gml.encode
  fun_cases Gml.events? element geometry with
  | case1 place => exact point place
  | case2 path => exact line path
  | case3 area => exact polygon area
  | case4 places => exact members (by decide) (by decide) point places
  | case5 paths => exact members (by decide) (by decide) line paths
  | case6 areas => exact members (by decide) (by decide) polygon areas
  | case7 => exact nil

theorem of_path {name : String} (named : name ∈ geometryNames) {path : Path} {m : Markup}
    (found : Markup.ofPath name path = some m) : GeometryEvents m.events := by
  unfold Markup.ofPath at found
  split at found
  · cases found
  · cases found
    exact .numbers named (numeric_latLons path)

theorem of_simple {g : Geometry} {m : Markup} (found : Markup.ofSimple g = some m) :
    GeometryEvents m.events := by
  unfold Markup.ofSimple at found
  split at found
  · cases found
    exact .numbers (by decide) (numeric_latLon _)
  · exact of_path (by decide) found
  · exact of_path (by decide) found
  · cases found

/-- **The markup of a geometry is made of them under every scheme.** -/
theorem of_markup {scheme : Scheme} {g : Geometry} {m : Markup}
    (found : scheme.markup g = .ok (some m)) : GeometryEvents m.events := by
  unfold Scheme.markup at found
  cases scheme with
  | simple => exact of_simple (Except.ok.inj found)
  | gml =>
      cases found
      exact encode _ _
  | latLong =>
      simp only at found
      split at found
      · cases found
        exact (numbers (by decide) (numeric_toText _)).append
          (.numbers (by decide) (numeric_toText _))
      · cases found

/-! ### What they are like -/

variable {events : List Xml.Event}

theorem legible (made : GeometryEvents events) : ∀ e ∈ events, e.Legible := by
  have names : ∀ name ∈ geometryNames, Xml.isName name = true := by decide
  induction made with
  | nil => simp
  | append _ _ first second => exact List.forall_mem_append.2 ⟨first, second⟩
  | around named _ inside =>
      simpa [Xml.Event.Legible, names _ named, or_imp, forall_and] using inside
  | numbers named _ => simp [Xml.element, Xml.Event.Legible, names _ named]

theorem names (made : GeometryEvents events) :
    ∀ e ∈ events, ∀ name ∈ e.tagName?, name ∈ geometryNames := by
  induction made with
  | nil => simp
  | append _ _ first second => exact List.forall_mem_append.2 ⟨first, second⟩
  | around named _ inside =>
      simpa [Xml.Event.tagName?, named, or_imp, forall_and] using inside
  | numbers named _ => simp [Xml.element, Xml.Event.tagName?, named]

/-- What they begin with is a tag. -/
theorem head (made : GeometryEvents events) :
    ∀ t ∈ (events.flatMap Xml.Event.tokens).head?, t.tagName?.isSome := by
  have opening (name : String) (more : List Xml.Event) :
      ∀ t ∈ ((Xml.Event.opening name [] :: more).flatMap Xml.Event.tokens).head?,
        t.tagName?.isSome := by
    intro t first
    obtain rfl := Option.some.inj first
    rfl
  induction made with
  | nil => simp
  | @append front back _ _ first second =>
      rw [List.flatMap_append]
      cases tokens : front.flatMap Xml.Event.tokens with
      | nil => simpa using second
      | cons t rest =>
          rw [tokens] at first
          exact first
  | around => exact opening _ _
  | numbers => exact opening _ _

/-- They hold no character that XML does not have. -/
theorem strays (made : GeometryEvents events) :
    Xml.strays (events.flatMap Xml.Event.content) = [] := by
  induction made with
  | nil => rfl
  | append _ _ first second => rw [List.flatMap_append, Xml.strays_append, first, second]; rfl
  | around _ _ inside =>
      simpa [Xml.Event.content] using inside
  | @numbers name text _ numeric =>
      rw [Xml.content_element, numeric.strays]

end GeometryEvents

/-- The markups of a feed are made of them. -/
theorem Feature.geometryEvents_of_mem_feedEntries {f : Feature} {templates : Templates}
    {shape : Shape} {entry : Entry} (member : entry ∈ f.feedEntries templates shape) {m : Markup}
    (found : entry.markup = some m) : GeometryEvents m.events := by
  obtain ⟨g, same⟩ := markup_of_mem_feedEntries member found
  exact .of_markup same

end GeoFeed

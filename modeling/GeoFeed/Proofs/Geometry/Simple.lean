/-
# GeoFeed.Proofs.Geometry.Simple -- what a simple element tells

The simple scheme tells the vertices of a point, of a path or of the exterior ring of a
polygon, and nothing of any other geometry.  Its element is named for the kind, and its
content gives the vertices back: single spaces part it into numbers, two for each vertex,
the latitude first (`TellsPath`).

A number is written with one character at least and without a space, so no space of the
content stands at an end or next to another one: each of these would make an empty token
(`nil_mem_pieces`).  Two geometries with one markup are then of one kind and have the same
numbers in the same order; what differs between them is what is not told, the interior
rings of a polygon, and whether the geometry was wrapped once.

Main statement: `Scheme.markup_simple_tells`.
-/
import GeoFeed.Geometry.Markup
import GeoFeed.Proofs.Gml.Reading

namespace GeoFeed

set_option autoImplicit false

/-! ## Tokens -/

/-- The tokens of a text: what stands between its spaces. -/
def tokens (content : String) : List String :=
  (Text.pieces (· == ' ') content.toList).map String.ofList

/-- A content that tells the vertices of a path. -/
structure TellsPath (content : String) (path : Path) : Prop where
  tokens_eq : tokens content = path.flatMap fun c => [Decimal.toText c.y, Decimal.toText c.x]
  count : (tokens content).length = 2 * path.length
  nonempty : ∀ token ∈ tokens content, token ≠ ""
  paired : Gml.pairs? (tokens content) = some (.of path)
  not_leading : ∀ rest, content.toList ≠ ' ' :: rest
  not_trailing : ∀ front, content.toList ≠ front ++ [' ']
  not_doubled : ∀ front rest, content.toList ≠ front ++ ' ' :: ' ' :: rest

/-- A mark with nothing or another mark on one side leaves an empty piece. -/
theorem Text.nil_mem_pieces {isMark : Char → Bool} {mark : Char} (isOne : isMark mark = true)
    {front rest : List Char} (bare : front = [] ∨ rest = [] ∨ ∃ more, rest = mark :: more) :
    [] ∈ Text.pieces isMark (front ++ mark :: rest) := by
  rw [Text.pieces_append_mark isOne, List.mem_append]
  rcases bare with rfl | rfl | ⟨more, rfl⟩
  · left
    simp [Text.pieces]
  · right
    simp [Text.pieces]
  · right
    simp [Text.pieces, isOne]

theorem tokens_latLons (place : Coordinate) (rest : Path) :
    tokens (Path.latLons (place :: rest)) = (place :: rest).flatMap Gml.numbers := by
  have texts : String.ofList ∘ String.toList = id := funext fun _ => String.ofList_toList
  rw [tokens, Gml.pieces_latLons, List.map_map, texts, List.map_id]

theorem ne_empty_of_mem_numbers {path : Path} {token : String}
    (member : token ∈ path.flatMap Gml.numbers) : token ≠ "" := by
  obtain ⟨place, -, member⟩ := List.mem_flatMap.1 member
  have written : ∀ x, Decimal.toText x ≠ "" := by
    intro x empty
    apply Decimal.toText_ne_nil x
    rw [empty]
    rfl
  rcases List.mem_pair.1 member with rfl | rfl
  · exact written place.y
  · exact written place.x

/-- **The coordinates of a path are told by the text that is written for them.** -/
theorem tellsPath_latLons (place : Coordinate) (rest : Path) :
    TellsPath (Path.latLons (place :: rest)) (place :: rest) := by
  have split := tokens_latLons place rest
  have nonempty : ∀ token ∈ tokens (Path.latLons (place :: rest)), token ≠ "" := by
    intro token member
    rw [split] at member
    exact ne_empty_of_mem_numbers member
  have full : [] ∉ Text.pieces (· == ' ') (Path.latLons (place :: rest)).toList := by
    intro member
    exact nonempty _ (List.mem_map_of_mem member) rfl
  have two : ∀ path : Path, (path.flatMap Gml.numbers).length = 2 * path.length := by
    intro path
    induction path with
    | nil => rfl
    | cons c path ih =>
        rw [List.flatMap_cons, List.length_append, ih, List.length_cons]
        simp only [Gml.numbers, List.length_cons, List.length_nil]
        omega
  refine ⟨split, ?_, nonempty, ?_, ?_, ?_, ?_⟩
  · rw [split, two]
  · rw [split, Gml.pairs?_numbers]
  · intro after same
    apply full
    rw [same]
    show [] ∈ Text.pieces (· == ' ') ([] ++ ' ' :: after)
    exact Text.nil_mem_pieces rfl (.inl rfl)
  · intro front same
    apply full
    rw [same]
    exact Text.nil_mem_pieces rfl (.inr (.inl rfl))
  · intro front after same
    apply full
    rw [same]
    exact Text.nil_mem_pieces rfl (.inr (.inr ⟨after, rfl⟩))

/-- What a content tells is told by no other path but one with the same numbers. -/
theorem TellsPath.same_numbers {content : String} {path path' : Path}
    (tells : TellsPath content path) (tells' : TellsPath content path') :
    Gml.PathText.of path = Gml.PathText.of path' := by
  apply Option.some.inj
  rw [← tells.paired, tells'.paired]

/-! ## Kinds and their elements -/

namespace Geometry

/-- The vertices that a simple element tells. -/
def vertices : Geometry → Path
  | .point place => [place]
  | .lineString path => path
  | .polygon area => area.exterior
  | _ => []

/-- The simple element for a kind of geometry. -/
def simpleName? : Geometry → Option String
  | .point _ => some "georss:point"
  | .lineString _ => some "georss:line"
  | .polygon _ => some "georss:polygon"
  | _ => none

/-- A point, a path with a vertex, or a polygon whose exterior ring has one. -/
def HasSimple (g : Geometry) : Prop :=
  (∃ place, g = .point place) ∨
  (∃ first rest, g = .lineString (first :: rest)) ∨
  ∃ first rest interiors, g = .polygon ⟨first :: rest, interiors⟩

/-- Kinds with one element are one kind. -/
theorem kindName_eq_of_simpleName? {g h : Geometry} {name : String}
    (named : g.simpleName? = some name) (named' : h.simpleName? = some name) :
    g.kindName = h.kindName := by
  cases g with
  | point | lineString | polygon =>
      cases named
      cases h with
      | point | lineString | polygon => first | rfl | simp [simpleName?] at named'
      | _ => cases named'
  | _ => cases named

end Geometry

namespace Markup

/-- A geometry has no simple markup, or it is of a kind with an element that tells its
vertices, of which there is one at least. -/
theorem ofSimple_cases (g : Geometry) :
    (ofSimple g = none ∧ ¬ g.HasSimple) ∨
    g.HasSimple ∧ ∃ name first rest, g.simpleName? = some name ∧ g.vertices = first :: rest ∧
      ofSimple g = some (.simple name (Path.latLons (first :: rest))) := by
  cases g with
  | point place =>
      refine .inr ⟨.inl ⟨place, rfl⟩, "georss:point", place, [], rfl, rfl, ?_⟩
      rw [ofSimple, Path.latLons, List.map_cons, List.map_nil, String.intercalate_singleton]
  | lineString path =>
      cases path with
      | nil => exact .inl ⟨rfl, by simp [Geometry.HasSimple]⟩
      | cons first rest =>
          exact .inr ⟨.inr (.inl ⟨first, rest, rfl⟩), "georss:line", first, rest, rfl, rfl, rfl⟩
  | polygon area =>
      obtain ⟨exterior, interiors⟩ := area
      cases exterior with
      | nil => exact .inl ⟨rfl, by simp [Geometry.HasSimple]⟩
      | cons first rest =>
          exact .inr ⟨.inr (.inr ⟨first, rest, interiors, rfl⟩), "georss:polygon", first, rest, rfl,
            rfl, rfl⟩
  | _ => exact .inl ⟨rfl, by simp [Geometry.HasSimple]⟩

theorem ofSimple_eq_none_iff (g : Geometry) : ofSimple g = none ↔ ¬ g.HasSimple := by
  obtain ⟨absent, lacking⟩ | ⟨has, name, first, rest, -, -, found⟩ := ofSimple_cases g
  · exact iff_of_true absent lacking
  · rw [found]
    exact iff_of_false nofun (not_not_intro has)

/-- A simple markup is the element of the kind, and its content tells the vertices. -/
theorem tells_of_ofSimple {g : Geometry} {m : Markup} (found : ofSimple g = some m) :
    ∃ name content, m = .simple name content ∧ g.simpleName? = some name ∧
      TellsPath content g.vertices := by
  obtain ⟨absent, -⟩ | ⟨-, name, first, rest, named, shape, present⟩ := ofSimple_cases g
  · cases absent.symm.trans found
  · cases present.symm.trans found
    rw [shape]
    exact ⟨name, _, rfl, named, tellsPath_latLons first rest⟩

end Markup

/-- **What a simple element tells.**  The simple scheme never fails, and it has markup for a
geometry, unwrapped once, exactly if that is a point, a path with a vertex or a polygon
whose exterior ring has one.  The markup is the element of the kind, with a content that
tells the vertices in their order.  The interior rings of a polygon make no difference to
it, and two geometries with one markup, unwrapped once, are of one kind and have the same
numbers at their vertices. -/
theorem Scheme.markup_simple_tells (g : Geometry) :
    (∃ markup, Scheme.simple.markup g = .ok markup) ∧
    (Scheme.simple.markup g = .ok none ↔ ¬ g.unwrap.HasSimple) ∧
    (∀ m, Scheme.simple.markup g = .ok (some m) →
      ∃ name content, m = .simple name content ∧ g.unwrap.simpleName? = some name ∧
        TellsPath content g.unwrap.vertices) ∧
    (∀ h exterior interiors interiors', g.unwrap = .polygon ⟨exterior, interiors⟩ →
      h.unwrap = .polygon ⟨exterior, interiors'⟩ →
      Scheme.simple.markup g = Scheme.simple.markup h) ∧
    ∀ h m, Scheme.simple.markup g = .ok (some m) → Scheme.simple.markup h = .ok (some m) →
      g.unwrap.kindName = h.unwrap.kindName ∧
      Gml.PathText.of g.unwrap.vertices = Gml.PathText.of h.unwrap.vertices := by
  have markup_eq : ∀ h : Geometry, Scheme.simple.markup h = .ok (Markup.ofSimple h.unwrap) :=
    fun _ => rfl
  refine ⟨⟨_, markup_eq g⟩, ?_, ?_, ?_, ?_⟩
  · rw [markup_eq, Except.ok.injEq]
    exact Markup.ofSimple_eq_none_iff g.unwrap
  · intro m found
    exact Markup.tells_of_ofSimple (Except.ok.inj found)
  · intro h exterior interiors interiors' whole whole'
    rw [markup_eq, markup_eq, whole, whole']
    rfl
  · intro h m found found'
    obtain ⟨name, content, rfl, named, tells⟩ := Markup.tells_of_ofSimple (Except.ok.inj found)
    obtain ⟨name', content', same, named', tells'⟩ := Markup.tells_of_ofSimple (Except.ok.inj found')
    obtain ⟨rfl, rfl⟩ := Markup.simple.inj same
    exact ⟨Geometry.kindName_eq_of_simpleName? named named', tells.same_numbers tells'⟩

end GeoFeed

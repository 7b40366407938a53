/-
# GeoFeed.Proofs.Geometry.Unwrapping -- a geometry of one part

A geometry of exactly one part is treated as that part, and then taken as it stands
(`Scheme.markup_eq`): one level is unwrapped and no more.  For a part that is not of one
part itself this is all there is to unwrap, so the geometry has the markup of its part
under every scheme.

A part that is of one part itself shows the difference.  By itself it would be unwrapped;
as a part it is taken as it stands.  The simple scheme has no element for it, so that
nothing is said about the place in it, and GML gets the element of the part and not the
one of the place.  Only a place on the globe is found for the one where it is found for
the other: whether there is one is a matter of extent, and which one, of the pieces that
are summed, and these are the same.  So a place or a path that is wrapped once is not
told from one that is not, and wrapped twice it has no simple markup left.

Main statement: `Scheme.markup_of_one_part`; `Scheme.not_markup_collection_eq` is a
place that gets lost.
-/
import GeoFeed.Proofs.Geometry.Extent

namespace GeoFeed

set_option autoImplicit false

namespace Geometry

/-- Whether a geometry is made of exactly one part. -/
def IsOfOnePart (g : Geometry) : Prop := ∃ only, g.parts? = some [only]

/-- A geometry inside so many collections, each of which holds nothing else. -/
def wrap : Nat → Geometry → Geometry
  | 0, g => g
  | n + 1, g => .collection [wrap n g]

theorem unwrap_of_parts? {g only : Geometry} (single : g.parts? = some [only]) : g.unwrap = only := by
  simp [unwrap, single]

theorem unwrap_of_not_isOfOnePart {g : Geometry} (other : ¬ g.IsOfOnePart) : g.unwrap = g := by
  unfold unwrap
  split
  · rename_i only single
    exact absurd ⟨only, single⟩ other
  · rfl

theorem not_isOfOnePart_of_parts?_none {g : Geometry} (none_ : g.parts? = none) :
    ¬ g.IsOfOnePart := by
  rintro ⟨only, single⟩
  cases none_.symm.trans single

theorem isOfOnePart_wrap (n : Nat) {g : Geometry} (inner : g.IsOfOnePart) :
    (g.wrap n).IsOfOnePart := by
  cases n with
  | zero => exact inner
  | succ n => exact ⟨_, rfl⟩

/-- The geometries of one part. -/
theorem eq_of_parts? {g only : Geometry} (single : g.parts? = some [only]) :
    g = .collection [only] ∨
    (∃ place, g = .multiPoint [place] ∧ only = .point place) ∨
    (∃ path, g = .multiLineString [path] ∧ only = .lineString path) ∨
    ∃ area, g = .multiPolygon [area] ∧ only = .polygon area := by
  cases g with
  | collection members => exact .inl (congrArg _ (Option.some.inj single))
  | multiPoint places | multiLineString paths | multiPolygon areas =>
      simp only [parts?, Option.some.injEq, List.map_eq_singleton_iff] at single
      obtain ⟨x, rfl, rfl⟩ := single
      simp
  | _ => cases single

/-- A part is smaller than what it is a part of. -/
theorem ne_of_parts? {g only : Geometry} (single : g.parts? = some [only]) : g ≠ only := by
  obtain rfl | ⟨place, rfl, rfl⟩ | ⟨path, rfl, rfl⟩ | ⟨area, rfl, rfl⟩ := eq_of_parts? single
  · intro same
    have size := congrArg sizeOf same
    simp only [List.cons.sizeOf_spec, List.nil.sizeOf_spec, collection.sizeOf_spec] at size
    omega
  all_goals nofun

/-- A part of a geometry whose parts are of one kind is not of one part itself. -/
theorem not_isOfOnePart_of_not_collection {whole only : Geometry}
    (single : whole.parts? = some [only]) (plain : ∀ members, whole ≠ .collection members) :
    ¬ only.IsOfOnePart := by
  apply not_isOfOnePart_of_parts?_none
  obtain rfl | ⟨place, rfl, rfl⟩ | ⟨path, rfl, rfl⟩ | ⟨area, rfl, rfl⟩ := eq_of_parts? single
  · exact absurd rfl (plain [only])
  all_goals rfl

/-- The mean over all pieces of a geometry.  It is the centroid but for points, segments and
boxes, which have theirs without a sum. -/
def weighed? (g : Geometry) : Option Coordinate :=
  (Centroid.addGeometry none g).map Balance.mean

theorem centroid?_of_parts? {g : Geometry} {parts : List Geometry}
    (several : g.parts? = some parts) : g.centroid? = g.weighed? := by
  cases g with
  | point | line | rect => cases several
  | _ => rfl

/-- The pieces of a geometry of one part are those of the part. -/
theorem addGeometry_of_parts? {g only : Geometry} (single : g.parts? = some [only]) :
    Centroid.addGeometry none g = Centroid.addGeometry none only := by
  obtain rfl | ⟨place, rfl, rfl⟩ | ⟨path, rfl, rfl⟩ | ⟨area, rfl, rfl⟩ := eq_of_parts? single
  · rw [Centroid.addGeometry, Centroid.addMembers, Centroid.addMembers]
  all_goals rfl

theorem weighed?_of_parts? {g only : Geometry} (single : g.parts? = some [only]) :
    g.weighed? = only.weighed? := by
  rw [weighed?, weighed?, addGeometry_of_parts? single]

theorem ofSimple_of_parts? {g : Geometry} {parts : List Geometry} (several : g.parts? = some parts) :
    Markup.ofSimple g = none := by
  cases g with
  | point | lineString | polygon => cases several
  | _ => rfl

end Geometry

namespace Scheme

/-- The markup of a geometry that is taken as it stands. -/
def markupAsIs (scheme : Scheme) (g : Geometry) : Except GeometryError (Option Markup) :=
  match scheme with
  | simple => .ok (Markup.ofSimple g)
  | gml => .ok (some (.gml (Gml.Element.ofGeometry g) g))
  | latLong =>
      match g.centroid? with
      | some centre => .ok (some (.latLong centre.y centre.x))
      | none => .error .noCentroid

theorem markup_eq (scheme : Scheme) (g : Geometry) : scheme.markup g = scheme.markupAsIs g.unwrap := by
  cases scheme <;> rfl

theorem markup_of_parts? (scheme : Scheme) {whole only : Geometry}
    (single : whole.parts? = some [only]) : scheme.markup whole = scheme.markupAsIs only := by
  rw [markup_eq, Geometry.unwrap_of_parts? single]

theorem markup_of_not_isOfOnePart (scheme : Scheme) {g : Geometry} (other : ¬ g.IsOfOnePart) :
    scheme.markup g = scheme.markupAsIs g := by
  rw [markup_eq, Geometry.unwrap_of_not_isOfOnePart other]

theorem exists_markup_latLong_iff (g : Geometry) :
    (∃ markup, latLong.markup g = .ok markup) ↔ g.HasExtent := by
  constructor
  · rintro ⟨markup, found⟩
    by_contra without
    rw [markup_latLong_of_no_extent without] at found
    cases found
  · exact exists_markup_of_extent

/-- The place that is found tells the centroid. -/
theorem markupAsIs_latLong_inj {g h : Geometry} :
    latLong.markupAsIs g = latLong.markupAsIs h ↔ g.centroid? = h.centroid? := by
  constructor
  · intro same
    unfold markupAsIs at same
    cases found : g.centroid? <;> cases found' : h.centroid? <;>
      simp only [found, found', reduceCtorEq, Except.ok.injEq, Option.some.injEq,
        Markup.latLong.injEq] at same ⊢
    rename_i p q
    obtain ⟨y, x⟩ := same
    cases p
    cases q
    exact congrArg₂ Coordinate.mk x y
  · intro same
    simp only [markupAsIs, same]

section Single

variable {whole only : Geometry} (single : whole.parts? = some [only])

include single

theorem markup_of_part (scheme : Scheme) (other : ¬ only.IsOfOnePart) :
    scheme.markup whole = scheme.markup only := by
  rw [scheme.markup_of_parts? single, scheme.markup_of_not_isOfOnePart other]

/-- A part of one part that is taken as it stands has no simple markup. -/
theorem markup_simple_of_nested (inner : only.IsOfOnePart) : simple.markup whole = .ok none := by
  obtain ⟨place, found⟩ := inner
  rw [simple.markup_of_parts? single, markupAsIs, Geometry.ofSimple_of_parts? found]

/-- GML gets such a part itself, and of the part by itself what is in it. -/
theorem markup_gml_ne_of_nested (inner : only.IsOfOnePart) :
    gml.markup whole ≠ gml.markup only := by
  obtain ⟨place, found⟩ := inner
  rw [gml.markup_of_parts? single, gml.markup_of_parts? found]
  intro same
  simp only [markupAsIs, Except.ok.injEq, Option.some.injEq, Markup.gml.injEq] at same
  exact Geometry.ne_of_parts? found same.2

theorem markup_simple_eq_iff :
    simple.markup whole = simple.markup only ↔
      (only.IsOfOnePart → simple.markup only = .ok none) := by
  by_cases inner : only.IsOfOnePart
  · rw [markup_simple_of_nested single inner]
    exact ⟨fun same _ => same.symm, fun lost => (lost inner).symm⟩
  · simp [markup_of_part single simple inner, inner]

theorem markup_gml_eq_iff : gml.markup whole = gml.markup only ↔ ¬ only.IsOfOnePart :=
  ⟨fun same inner => markup_gml_ne_of_nested single inner same, markup_of_part single gml⟩

/-- The place that is found for the whole is the mean over the pieces of the inner part. -/
theorem markup_latLong_eq_iff {inner : Geometry} (found : only.parts? = some [inner]) :
    latLong.markup whole = latLong.markup only ↔ inner.weighed? = inner.centroid? := by
  rw [latLong.markup_of_parts? single, latLong.markup_of_parts? found, markupAsIs_latLong_inj,
    Geometry.centroid?_of_parts? found, Geometry.weighed?_of_parts? found]

theorem exists_markup_latLong_of_part :
    (∃ markup, latLong.markup whole = .ok markup) ↔ ∃ markup, latLong.markup only = .ok markup := by
  rw [exists_markup_latLong_iff, exists_markup_latLong_iff, ← whole.hasExtent_unwrap_iff,
    Geometry.unwrap_of_parts? single]

end Single

/-- **A geometry of one part has the markup of that part, one level deep.**  It has it
under every scheme where the part is not of one part itself, and so for every point, path
and polygon in a geometry of several of its kind.  Where the part is of one part itself,
it is taken as it stands: nothing is said about it under the simple scheme, even if
something is said about it by itself, and for GML its markup is never the one that it has
by itself.  A place on the globe is found for the one where it is found for the other, and
it is the same place where the mean over the pieces of what is inside is its centroid.
Wrapped further, the geometry has no simple markup, and for GML it is a collection. -/
theorem markup_of_one_part (whole only : Geometry) (single : whole.parts? = some [only]) :
    (¬ only.IsOfOnePart → ∀ scheme : Scheme, scheme.markup whole = scheme.markup only) ∧
    ((∀ members, whole ≠ .collection members) →
      ∀ scheme : Scheme, scheme.markup whole = scheme.markup only) ∧
    (simple.markup whole = simple.markup only ↔
      (only.IsOfOnePart → simple.markup only = .ok none)) ∧
    (gml.markup whole = gml.markup only ↔ ¬ only.IsOfOnePart) ∧
    (∀ inner, only.parts? = some [inner] →
      (latLong.markup whole = latLong.markup only ↔ inner.weighed? = inner.centroid?)) ∧
    ((∃ markup, latLong.markup whole = .ok markup) ↔
      ∃ markup, latLong.markup only = .ok markup) ∧
    ∀ n : Nat,
      simple.markup (whole.wrap (n + 1)) = .ok none ∧
      gml.markup (whole.wrap (n + 1))
        = .ok (some (.gml (Gml.Element.ofGeometry (whole.wrap n)) (whole.wrap n))) := by
  refine ⟨fun other scheme => markup_of_part single scheme other, ?_,
    markup_simple_eq_iff single, markup_gml_eq_iff single,
    fun inner => markup_latLong_eq_iff single, exists_markup_latLong_of_part single, ?_⟩
  · intro plain scheme
    exact markup_of_part single scheme (Geometry.not_isOfOnePart_of_not_collection single plain)
  · intro n
    exact ⟨markup_simple_of_nested rfl (Geometry.isOfOnePart_wrap n ⟨only, single⟩), rfl⟩

/-- A point in two collections has no simple markup and for GML not the one of the inner
collection, but it is found on the globe. -/
theorem markup_of_point_in_two :
    (Geometry.collection [.collection [.point ⟨3, 4⟩]]).parts?
        = some [.collection [.point ⟨3, 4⟩]] ∧
      simple.markup (.collection [.collection [.point ⟨3, 4⟩]])
        ≠ simple.markup (.collection [.point ⟨3, 4⟩]) ∧
      gml.markup (.collection [.collection [.point ⟨3, 4⟩]])
        ≠ gml.markup (.collection [.point ⟨3, 4⟩]) ∧
      latLong.markup (.collection [.collection [.point ⟨3, 4⟩]])
        = latLong.markup (.collection [.point ⟨3, 4⟩]) := by
  obtain ⟨-, -, simple_, gml_, latLong_, -, -⟩ :=
    markup_of_one_part (.collection [.collection [.point ⟨3, 4⟩]]) _ rfl
  have inner : (Geometry.collection [.point ⟨3, 4⟩]).IsOfOnePart := ⟨_, rfl⟩
  have x : (3 : Float) * 1.0 / 1.0 = 3 := by decide +kernel
  have y : (4 : Float) * 1.0 / 1.0 = 4 := by decide +kernel
  refine ⟨rfl, fun same => ?_, fun same => gml_.1 same inner, (latLong_ _ rfl).2 ?_⟩
  · cases Except.ok.inj (simple_.1 same inner)
  · exact congrArg some (congrArg₂ Coordinate.mk x y)

/-- Not every geometry of one part has the markup of that part: of a point in two
collections the second one is not unwrapped, and the place is lost. -/
theorem not_markup_collection_eq :
    ¬ ∀ (scheme : Scheme) (g : Geometry), scheme.markup (.collection [g]) = scheme.markup g := by
  intro same
  have lost := same .simple (.collection [.point ⟨3, 4⟩])
  cases Except.ok.inj lost

end Scheme

end GeoFeed

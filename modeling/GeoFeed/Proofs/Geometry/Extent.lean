/-
# GeoFeed.Proofs.Geometry.Extent -- where there is something to locate

A geometry has extent if there is a place in it: points, segments, boxes and triangles
always have one, a path has one with its first coordinate, a polygon with the first
coordinate of its exterior ring, and a geometry of several parts if some part has one,
however deep the parts are nested.  Holes alone are nothing to locate.

Extent alone settles whether there is a centroid (`isSome_centroid?`).  The sum that it
is the mean of is replaced by a piece of a higher dimension and passes over a piece of a
lower one, and pieces collapse and holes are taken away; but once something has been
added, something stays, whatever the arithmetic yields.  A weight that is zero, infinite
or undefined is a weight still.  So all that a step of the sum does about presence is
said by `Registers`, one lemma for each kind of piece.

Main statement: `Feature.entries_of_extent`.
-/
import GeoFeed.Proofs.Feed.Continuation

namespace GeoFeed

set_option autoImplicit false

namespace Geometry

/-- Whether there is anything to locate in a geometry. -/
inductive HasExtent : Geometry → Prop
  | point (place : Coordinate) : HasExtent (.point place)
  | line (start stop : Coordinate) : HasExtent (.line start stop)
  | rect (least greatest : Coordinate) : HasExtent (.rect least greatest)
  | triangle (first second third : Coordinate) : HasExtent (.triangle first second third)
  | lineString {path : Path} : path ≠ [] → HasExtent (.lineString path)
  | polygon {area : Polygon} : area.exterior ≠ [] → HasExtent (.polygon area)
  /-- Of several parts one is enough. -/
  | part {g part : Geometry} {parts : List Geometry} :
      g.parts? = some parts → part ∈ parts → HasExtent part → HasExtent g

theorem hasExtent_lineString_iff {path : Path} : HasExtent (.lineString path) ↔ path ≠ [] := by
  constructor
  · intro has
    cases has with
    | lineString nonempty => exact nonempty
    | part several => cases several
  · exact .lineString

theorem hasExtent_polygon_iff {area : Polygon} :
    HasExtent (.polygon area) ↔ area.exterior ≠ [] := by
  constructor
  · intro has
    cases has with
    | polygon nonempty => exact nonempty
    | part several => cases several
  · exact .polygon

theorem hasExtent_iff_of_parts? {g : Geometry} {parts : List Geometry}
    (several : g.parts? = some parts) : g.HasExtent ↔ ∃ part ∈ parts, part.HasExtent := by
  constructor
  · intro has
    cases has with
    | part others member inside =>
        obtain rfl := Option.some.inj (several.symm.trans others)
        exact ⟨_, member, inside⟩
    | _ => cases several
  · rintro ⟨part, member, inside⟩
    exact .part several member inside

/-- Parts of one kind. -/
theorem hasExtent_iff_of_map {α : Type} {g : Geometry} {kind : α → Geometry} {parts : List α}
    (several : g.parts? = some (parts.map kind)) :
    g.HasExtent ↔ ∃ x ∈ parts, (kind x).HasExtent := by
  simp [hasExtent_iff_of_parts? several]

/-- A geometry of exactly one part has extent where that part has. -/
theorem hasExtent_unwrap_iff (g : Geometry) : g.unwrap.HasExtent ↔ g.HasExtent := by
  unfold unwrap
  split
  · rename_i only single
    simp [hasExtent_iff_of_parts? single]
  · rfl

end Geometry

/-! ## Presence of a sum -/

namespace Centroid

/-- Whether adding such a piece leaves something exactly where there was something, or
where the piece has something to add. -/
def Registers {α : Type} (add : State → α → State) (has : α → Prop) : Prop :=
  ∀ s x, (add s x).isSome ↔ s.isSome ∨ has x

theorem Registers.foldl {α : Type} {add : State → α → State} {has : α → Prop}
    (each : Registers add has) : Registers (List.foldl add) fun xs => ∃ x ∈ xs, has x := by
  intro s xs
  induction xs generalizing s with
  | nil => simp
  | cons x rest ih => simp [ih, each s x, or_assoc]

theorem isSome_add (s : State) (b : Balance) : (add s b).isSome := by
  cases s <;> rfl

theorem isSome_of_dimensionAtLeast {s : State} {d : Nat} (high : s.dimensionAtLeast d = true) :
    s.isSome := by
  cases s with
  | none => cases high
  | some b => rfl

/-- A piece that is passed over for its dimension finds something of a higher one. -/
theorem Registers.unless {α : Type} {add : State → α → State} {has : α → Prop}
    (each : Registers add has) (d : Nat) :
    Registers (fun s x => if s.dimensionAtLeast d then s else add s x) has := by
  intro s x
  simp only
  split
  · rename_i high
    simp [isSome_of_dimensionAtLeast high]
  · exact each s x

theorem isSome_addPlace (s : State) (place : Coordinate) : (addPlace s place).isSome :=
  isSome_add s _

theorem isSome_addSegment (s : State) (start stop : Coordinate) :
    (addSegment s start stop).isSome := by
  unfold addSegment
  split
  · exact isSome_addPlace s start
  · exact isSome_add s _

theorem registers_place : Registers addPlace fun _ => True := by
  intro s place
  simp [isSome_addPlace]

theorem registers_segment :
    Registers (fun s (segment : Coordinate × Coordinate) => addSegment s segment.1 segment.2)
      fun _ => True := by
  intro s segment
  simp [isSome_addSegment]

/-- A path of one coordinate has no segments; it is added as a place. -/
theorem registers_path : Registers addPath (· ≠ []) := by
  refine Registers.unless (fun s path => ?_) 2
  match path with
  | [] => simp [addSegments, segments]
  | [only] => simp [isSome_addPlace]
  | first :: second :: rest =>
      refine (registers_segment.foldl s (segments (first :: second :: rest))).trans ?_
      simp [segments]

theorem registers_ring : Registers addRing (· ≠ []) := by
  intro s ring
  cases ring with
  | nil => simp [addRing]
  | cons first rest =>
      simp only [addRing]
      split
      · split
        · simp [isSome_addPlace]
        · exact registers_path s (first :: rest)
      · simp [isSome_add]

/-- Holes can take the weight of the exterior ring away, but not its coordinates. -/
theorem registers_polygon : Registers addPolygon (·.exterior ≠ []) := by
  intro s area
  have ring := registers_ring none area.exterior
  unfold addPolygon
  split
  · rename_i nothing
    simp_all
  · rename_i edge found
    have nonempty : area.exterior ≠ [] := by simpa [found] using ring
    split
    · simp [isSome_add, nonempty]
    · simp only
      split
      · exact registers_path s area.exterior
      · simp [isSome_add, nonempty]

theorem isSome_addRect (s : State) (least greatest : Coordinate) :
    (addRect s least greatest).isSome := by
  unfold addRect
  split
  · exact isSome_addPlace s least
  · split
    · exact isSome_addSegment _ _ _
    · exact isSome_add s _

theorem isSome_addTriangle (s : State) (a b c : Coordinate) : (addTriangle s a b c).isSome := by
  unfold addTriangle
  split
  · split
    · exact isSome_addPlace s a
    · exact isSome_addSegment _ _ _
  · exact isSome_add s _

section Geometries

open GeoFeed.Geometry (HasExtent hasExtent_iff_of_map hasExtent_iff_of_parts? hasExtent_lineString_iff
  hasExtent_polygon_iff)

mutual

/-- **Adding a geometry leaves something exactly where something was, or where the
geometry has extent.**  The induction is on the geometry, and for a collection on its
members, since these are added to what the ones before have left. -/
theorem registers_geometry (s : State) :
    ∀ g : Geometry, (addGeometry s g).isSome ↔ s.isSome ∨ g.HasExtent
  | .point place => by simp [addGeometry, isSome_addPlace, HasExtent.point]
  | .line start stop => by simp [addGeometry, isSome_addSegment, HasExtent.line]
  | .rect least greatest => by simp [addGeometry, isSome_addRect, HasExtent.rect]
  | .triangle a b c => by simp [addGeometry, isSome_addTriangle, HasExtent.triangle]
  | .lineString path => by
      rw [addGeometry, hasExtent_lineString_iff]
      exact registers_path s path
  | .polygon area => by
      rw [addGeometry, hasExtent_polygon_iff]
      exact registers_polygon s area
  | .multiPoint places => by
      rw [addGeometry, hasExtent_iff_of_map rfl]
      simpa [HasExtent.point] using registers_place.foldl.unless 1 s places
  | .multiLineString paths => by
      rw [addGeometry, hasExtent_iff_of_map rfl]
      simpa [hasExtent_lineString_iff] using registers_path.foldl.unless 2 s paths
  | .multiPolygon areas => by
      rw [addGeometry, hasExtent_iff_of_map rfl]
      simpa [hasExtent_polygon_iff] using registers_polygon.foldl s areas
  | .collection members => by
      rw [addGeometry, hasExtent_iff_of_parts? rfl]
      exact registers_members s members

theorem registers_members (s : State) : ∀ members : List Geometry,
    (addMembers s members).isSome ↔ s.isSome ∨ ∃ g ∈ members, g.HasExtent
  | [] => by simp [addMembers]
  | g :: rest => by
      rw [addMembers, registers_members (addGeometry s g) rest, registers_geometry s g, or_assoc,
        List.exists_mem_cons_iff]

end

end Geometries

end Centroid

namespace Geometry

/-- **A geometry has a centroid exactly if it has extent.** -/
theorem isSome_centroid? (g : Geometry) : g.centroid?.isSome ↔ g.HasExtent := by
  have summed : (Centroid.addGeometry none g).isSome ↔ g.HasExtent := by
    simpa using Centroid.registers_geometry none g
  cases g with
  | point place => simp [centroid?, HasExtent.point]
  | line start stop => simp [centroid?, HasExtent.line]
  | rect least greatest => simp [centroid?, HasExtent.rect]
  | _ => rwa [centroid?, Option.isSome_map] <;> nofun

end Geometry

/-! ## Markups and entries -/

/-- Under the latitude-longitude scheme a geometry without extent has no markup, and every
other one has. -/
theorem Scheme.markup_latLong_of_no_extent {g : Geometry} (without : ¬ g.HasExtent) :
    Scheme.latLong.markup g = .error .noCentroid := by
  rw [← g.hasExtent_unwrap_iff, ← g.unwrap.isSome_centroid?, Option.not_isSome_iff_eq_none]
    at without
  simp only [Scheme.markup, without]

theorem Scheme.exists_markup_of_extent {g : Geometry} (has : g.HasExtent) :
    ∃ markup, Scheme.latLong.markup g = .ok markup := by
  rw [← g.hasExtent_unwrap_iff, ← g.unwrap.isSome_centroid?] at has
  obtain ⟨centre, found⟩ := Option.isSome_iff_exists.1 has
  exact ⟨some (.latLong centre.y centre.x), by simp only [Scheme.markup, found]⟩

namespace Feature

variable (f : Feature) (templates : Templates) (shape : Shape) {continuation : Bool}

/-- Under the latitude-longitude scheme there is one entry, for the geometry as a whole. -/
theorem value_entries_latLong :
    (f.entries templates ⟨.latLong, continuation⟩).value =
      match f.geometry with
      | none => .error .missingGeometry
      | some whole => (Scheme.latLong.entryMarkup whole).map fun markup =>
          .ofMarkups f.id (templates.itemText f).value [markup] := by
  have value : (f.entries templates ⟨.latLong, continuation⟩).value
      = f.group ⟨.latLong, continuation⟩ (templates.itemText f).value := rfl
  rw [value, Feature.group, Feature.located]
  cases f.geometry with
  | none => rfl
  | some whole =>
      simp only [bind, Except.bind, List.mapM_cons]
      cases Scheme.latLong.entryMarkup whole <;> rfl

variable {f}

theorem entries_of_no_extent {whole : Geometry} (found : f.geometry = some whole)
    (without : ¬ whole.HasExtent) :
    (f.entries templates ⟨.latLong, continuation⟩).value = .error (.geometry .noCentroid) := by
  rw [value_entries_latLong, found]
  simp only [Scheme.entryMarkup, Scheme.markup_latLong_of_no_extent without]
  rfl

theorem exists_group_of_extent {whole : Geometry} (found : f.geometry = some whole)
    (has : whole.HasExtent) :
    ∃ group, (f.entries templates ⟨.latLong, continuation⟩).value = .ok group := by
  obtain ⟨markup, located⟩ := Scheme.exists_markup_of_extent has
  rw [value_entries_latLong, found]
  simp only [Scheme.entryMarkup, located]
  exact ⟨_, rfl⟩

variable (f)

/-- **A feature is left out exactly where a place on the globe is asked for and there is
nothing to locate.**  It then has no geometry, or one without extent, and the reason tells
which.  Rings need not be closed for this, and neither the arithmetic of centroids nor
taking a geometry of one part as that part has a say in it. -/
theorem entries_of_extent :
    ((f.entries templates shape).value = .error .missingGeometry ↔
      shape.scheme = .latLong ∧ f.geometry = none) ∧
    ((f.entries templates shape).value = .error (.geometry .noCentroid) ↔
      shape.scheme = .latLong ∧ ∃ whole, f.geometry = some whole ∧ ¬ whole.HasExtent) ∧
    ((∃ group, (f.entries templates shape).value = .ok group) ↔
      (shape.scheme = .latLong → ∃ whole, f.geometry = some whole ∧ whole.HasExtent)) ∧
    ∀ g : Geometry, (g.centroid?.isSome ↔ g.HasExtent) ∧ (g.unwrap.centroid?.isSome ↔ g.HasExtent) := by
  rw [← and_assoc, ← and_assoc]
  refine ⟨?_, fun g => ⟨g.isSome_centroid?, g.unwrap.isSome_centroid?.trans g.hasExtent_unwrap_iff⟩⟩
  obtain ⟨scheme, continuation⟩ := shape
  by_cases latLong : scheme = .latLong
  · subst latLong
    cases found : f.geometry with
    | none =>
        have left_out : (f.entries templates ⟨.latLong, continuation⟩).value
            = .error .missingGeometry := by
          rw [value_entries_latLong, found]
        simp [left_out]
    | some whole =>
        by_cases has : whole.HasExtent
        · have kept : ∃ group, (f.entries templates ⟨.latLong, continuation⟩).value = .ok group :=
            exists_group_of_extent templates found has
          obtain ⟨group, built⟩ := kept
          simp [built, has]
        · simp [entries_of_no_extent templates found has, has]
  · obtain ⟨group, built⟩ := f.exists_group templates latLong continuation
    simp [built, latLong]

/-- A path along nothing, and a hole without an edge in an inner collection, are nothing to
locate. -/
theorem entries_of_extent_nowhere :
    (entries ⟨"pit", .empty,
        some (.collection [.lineString [], .collection [.polygon ⟨[], [[⟨1, 2⟩]]⟩]])⟩
      Templates.byId ⟨.latLong, true⟩).value = .error (.geometry .noCentroid) := by
  obtain ⟨-, left_out, -, extent⟩ := entries_of_extent ⟨"pit", .empty,
    some (.collection [.lineString [], .collection [.polygon ⟨[], [[⟨1, 2⟩]]⟩]])⟩
    Templates.byId ⟨.latLong, true⟩
  exact left_out.2 ⟨rfl, _, rfl, (extent _).1.not.1 (by decide)⟩

end Feature

end GeoFeed

/-
# GeoFeed.Proofs.Feed.Splitting -- the parts of a feature, one entry each

A geometry of several parts is split over the entries of its feature: the first part
goes with the primary entry and, where continuations are asked for, every further part
with a continuation of its own, in the order of the parts.  None is lost, none is
taken twice, and the number in the guid of a continuation is the place of its part.
A geometry that is one part itself is not split, and under the latitude-longitude
scheme none is.

The continuations of a row of markups are seen place by place
(`Entry.getElem?_continuationsFrom`); everything about them follows from the markups
that are located for the feature.

Main statement: `entries_split`.
-/
import GeoFeed.Proofs.Feed.Entry
import GeoFeed.Proofs.Feed.Trace

namespace GeoFeed

set_option autoImplicit false

/-! ## Continuations in a row -/

namespace Entry

/-- An entry that goes on with a primary one: the continuation of the given number. -/
structure Continues (entry primary : Entry) (id : String) (number : Nat) : Prop where
  title : entry.title = "Continuation of " ++ primary.title
  description : entry.description = "Continuation of " ++ primary.title
  link : entry.link = primary.link
  guid : entry.guid = some (primary.link.getD id ++ "#" ++ toString number)
  published : entry.published = none
  enclosures : entry.enclosures = []

theorem continues_continuation (id : String) (text : ItemText) (first : Option Markup)
    (number : Nat) (markup : Option Markup) :
    (continuation id text number markup).Continues (primary text first) id number :=
  ⟨rfl, rfl, rfl, rfl, rfl, rfl⟩

variable (id : String) (text : ItemText) (number : Nat) (markups : List (Option Markup))

@[simp]
theorem length_continuationsFrom :
    (continuationsFrom id text number markups).length = markups.length := by
  induction markups generalizing number with
  | nil => rfl
  | cons markup rest ih => rw [continuationsFrom, List.length_cons, ih, List.length_cons]

/-- At each place stands the continuation for the markup at that place. -/
theorem getElem?_continuationsFrom (place : Nat) :
    (continuationsFrom id text number markups)[place]?
      = markups[place]?.map (continuation id text (number + place)) := by
  induction markups generalizing number place with
  | nil => rfl
  | cons markup rest ih =>
      cases place with
      | zero => rfl
      | succ place =>
          rw [continuationsFrom, List.getElem?_cons_succ, List.getElem?_cons_succ, ih,
            Nat.add_assoc, Nat.add_comm 1]

end Entry

/-! ## What is located -/

namespace Feature

/-- The parts that the geometry of a feature is made of, where there are such. -/
def members? (f : Feature) : Option (List Geometry) :=
  f.geometry.bind Geometry.parts?

variable {f : Feature} {shape : Shape}

/-- Where nothing is split, the geometry as a whole is located, if there is one. -/
theorem located_of_whole (whole : shape.scheme = .latLong ∨ f.members? = none)
    {geometries : List Geometry} (located : f.located shape = .ok geometries) :
    geometries = f.geometry.toList := by
  obtain ⟨scheme, continuation⟩ := shape
  unfold Feature.located members? at *
  cases scheme <;> cases found : f.geometry with
  | none => simp_all
  | some g => cases parts : g.parts? <;> simp_all

/-- Of several parts all are located, or the first alone. -/
theorem located_of_members (scheme : shape.scheme ≠ .latLong) {parts : List Geometry}
    (members : f.members? = some parts) :
    f.located shape = .ok (if shape.continuation then parts else parts.take 1) := by
  obtain ⟨scheme', continuation⟩ := shape
  obtain ⟨g, found, among⟩ := Option.bind_eq_some_iff.1 members
  cases scheme' with
  | latLong => exact absurd rfl scheme
  | simple | gml => simp only [Feature.located, found, among]

end Feature

/-! ## Groups of entries -/

namespace EntryGroup

/-- Whether the entries of a group carry these geometries, one each and in order: the
first with the primary entry, and each further one with the continuation of its place. -/
structure Carries (group : EntryGroup) (scheme : Scheme) (id : String)
    (geometries : List Geometry) : Prop where
  nothing : geometries = [] → group.primary.markup = none
  first : ∀ g ∈ geometries.head?, scheme.markup g = .ok group.primary.markup
  length : group.continuations.length = geometries.length - 1
  further : ∀ place g, geometries[place + 1]? = some g →
    ∃ entry, group.continuations[place]? = some entry ∧ scheme.markup g = .ok entry.markup ∧
      entry.Continues group.primary id (place + 1)

theorem carries_ofMarkups {scheme : Scheme} {geometries : List Geometry}
    {markups : List (Option Markup)} (mapped : geometries.map scheme.markup = markups.map .ok)
    (id : String) (text : ItemText) :
    (ofMarkups id text markups).Carries scheme id geometries := by
  cases geometries with
  | nil =>
      obtain rfl := List.map_eq_nil_iff.1 mapped.symm
      exact ⟨fun _ => rfl, by simp, rfl, by simp⟩
  | cons g rest =>
      cases markups with
      | nil => cases mapped
      | cons first later =>
          obtain ⟨one, others⟩ := List.cons.inj mapped
          have same : rest.length = later.length := by simpa using congrArg List.length others
          refine ⟨fun empty => (List.cons_ne_nil _ _ empty).elim, ?_, ?_, ?_⟩
          · rintro _ ⟨⟩
            exact one
          · rw [ofMarkups, Entry.length_continuationsFrom, List.length_cons, same]
            rfl
          · intro place part at_place
            rw [List.getElem?_cons_succ] at at_place
            have markup : (later.map Except.ok)[place]? = some (scheme.markup part) := by
              rw [← others, List.getElem?_map, at_place, Option.map_some]
            obtain ⟨m, found, ok⟩ := Option.map_eq_some_iff.1 (List.getElem?_map .. ▸ markup)
            refine ⟨.continuation id text (1 + place) m, ?_, ok.symm, ?_⟩
            · rw [ofMarkups, Entry.getElem?_continuationsFrom, found, Option.map_some]
            · rw [Nat.add_comm]
              exact Entry.continues_continuation id text first _ m

end EntryGroup

/-! ## The entries of a feature -/

namespace Feature

variable {f : Feature} {templates : Templates} {shape : Shape} {group : EntryGroup}

/-- The entries of a feature carry what is located for it. -/
theorem carries_of_entries (built : (f.entries templates shape).value = .ok group) :
    ∃ geometries, f.located shape = .ok geometries ∧
      group.Carries shape.scheme f.id geometries := by
  obtain ⟨geometries, markups, located, mapped, rfl⟩ := group_eq_ok_iff.1 built
  exact ⟨geometries, located, EntryGroup.carries_ofMarkups mapped f.id _⟩

/-- Where nothing is split, there is nothing to go on with. -/
theorem continuations_of_whole (built : (f.entries templates shape).value = .ok group)
    (whole : shape.scheme = .latLong ∨ f.members? = none) : group.continuations = [] := by
  obtain ⟨geometries, located, carries⟩ := carries_of_entries built
  obtain rfl := located_of_whole whole located
  refine List.length_eq_zero_iff.1 ?_
  rw [carries.length]
  cases f.geometry <;> rfl

/-- **A feature is split over its entries part by part.**  The primary entry has the
resolved texts of the feature and is identified by its link.  Under the
latitude-longitude scheme, and where the geometry is one part or missing, it carries the
geometry as a whole and nothing goes on with it.  Otherwise it carries the first part, if
there is one; without continuations there are no further entries, and with them there is
exactly one for every further part, at the place of that part. -/
theorem entries_split (built : (f.entries templates shape).value = .ok group) :
    (group.primary.title = (templates.itemText f).value.title ∧
      group.primary.link = (templates.itemText f).value.link ∧
      group.primary.guid = group.primary.link ∧
      group.primary.description = (templates.itemText f).value.description ∧
      group.primary.published = (templates.itemText f).value.published ∧
      group.primary.enclosures = (templates.itemText f).value.enclosures) ∧
    (shape.scheme = .latLong ∨ f.members? = none →
      group.continuations = [] ∧ (f.geometry = none → group.primary.markup = none) ∧
        ∀ whole, f.geometry = some whole → shape.scheme.markup whole = .ok group.primary.markup) ∧
    (shape.scheme ≠ .latLong → ∀ parts, f.members? = some parts →
      (parts = [] → group.primary.markup = none) ∧
      (∀ first ∈ parts.head?, shape.scheme.markup first = .ok group.primary.markup) ∧
      (shape.continuation = false → group.continuations = []) ∧
      (shape.continuation = true →
        group.continuations.length = parts.length - 1 ∧
          ∀ place part, parts[place + 1]? = some part →
            ∃ entry, group.continuations[place]? = some entry ∧
              shape.scheme.markup part = .ok entry.markup ∧
              entry.Continues group.primary f.id (place + 1))) := by
  obtain ⟨geometries, located, carries⟩ := carries_of_entries built
  refine ⟨?_, ?_, ?_⟩
  · obtain ⟨markup, primary⟩ := primary_eq built
    rw [primary]
    exact ⟨rfl, rfl, rfl, rfl, rfl, rfl⟩
  · intro whole
    obtain rfl := located_of_whole whole located
    refine ⟨continuations_of_whole built whole, fun absent => carries.nothing (by simp [absent]), ?_⟩
    intro g found
    exact carries.first g (by simp [found])
  · intro scheme parts members
    rw [located_of_members scheme members] at located
    obtain rfl := Except.ok.inj located
    cases asked : shape.continuation with
    | true =>
        rw [asked, if_pos rfl] at carries
        exact ⟨carries.nothing, carries.first, by simp, fun _ => ⟨carries.length, carries.further⟩⟩
    | false =>
        rw [asked, if_neg Bool.false_ne_true] at carries
        have none_further : group.continuations.length = 0 := by
          rw [carries.length, List.length_take]
          omega
        refine ⟨fun empty => carries.nothing (by simp [empty]), ?_,
          fun _ => List.length_eq_zero_iff.1 none_further, by simp⟩
        intro first among
        exact carries.first first (by simpa [List.head?_take] using among)

/-- Three points without a link make three entries, the last of which is number two of
the feature. -/
theorem entries_split_points :
    ∃ group, (entries ⟨"p", .empty, some (.multiPoint [⟨0, 0⟩, ⟨1, 2⟩, ⟨3, 4⟩])⟩
          { Templates.byId with link := fun _ => .ok " " } ⟨.gml, true⟩).value = .ok group ∧
      group.primary.link = none ∧ group.continuations.length = 2 ∧
      ∃ entry, group.continuations[1]? = some entry ∧
        Scheme.gml.markup (.point ⟨3, 4⟩) = .ok entry.markup ∧ entry.guid = some "p#2" := by
  have some_group : ∃ group, (entries ⟨"p", .empty, some (.multiPoint [⟨0, 0⟩, ⟨1, 2⟩, ⟨3, 4⟩])⟩
      { Templates.byId with link := fun _ => .ok " " } ⟨.gml, true⟩).value = .ok group := ⟨_, rfl⟩
  obtain ⟨group, built⟩ := some_group
  obtain ⟨texts, -, split⟩ := entries_split built
  obtain ⟨-, -, -, further⟩ := split (by decide) _ rfl
  obtain ⟨count, each⟩ := further rfl
  obtain ⟨entry, found, markup, continues⟩ := each 1 (.point ⟨3, 4⟩) rfl
  have link : group.primary.link = none := texts.2.1
  refine ⟨group, built, link, count, entry, found, markup, ?_⟩
  rw [continues.guid, link]
  rfl

end Feature

end GeoFeed

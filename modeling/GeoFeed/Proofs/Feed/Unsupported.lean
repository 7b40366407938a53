/-
# GeoFeed.Proofs.Feed.Unsupported -- geometries that GML has no element for

Lines, boxes, triangles and collections have no element in GML.  Under the GML
scheme such a geometry ends the feed, and under the other schemes nothing does
(`failure_isSome_iff`).  Only the parts that are written count: the first part of
a geometry of several parts, and the further ones where continuations are asked
for.

The feed ends at the first such part of the first feature that has one.  All
before it has been written, of its own item everything but the geometry, and
nothing that would have followed has left a trace.

Main statement: `deliver_stops_at_unsupported`.
-/
import GeoFeed.Proofs.Feed.Block

namespace GeoFeed

set_option autoImplicit false

/-- Whether GML has no element for a geometry, where one of exactly one part stands
for that part. -/
def Geometry.lacksElement (g : Geometry) : Bool :=
  match g.unwrap with
  | .line _ _ | .rect _ _ | .triangle _ _ _ | .collection _ => true
  | _ => false

/-- The parts of a feature's geometry that are written: itself, or its first member
and, with continuations, all further ones. -/
def Feature.writtenParts (f : Feature) (continuation : Bool) : List Geometry :=
  match f.geometry with
  | none => []
  | some g =>
      match g.parts? with
      | none => [g]
      | some [] => []
      | some (first :: rest) => if continuation then first :: rest else [first]

/-- The first written part without an element, among all that come before and after it. -/
structure FirstLacking (features : List Feature) (continuation : Bool) where
  before : List Feature
  feature : Feature
  after : List Feature
  front : List Geometry
  part : Geometry
  back : List Geometry
  features_eq : features = before ++ feature :: after
  before_have : ∀ f ∈ before, ∀ g ∈ f.writtenParts continuation, g.lacksElement = false
  parts_eq : feature.writtenParts continuation = front ++ part :: back
  front_have : ∀ g ∈ front, g.lacksElement = false
  part_lacks : part.lacksElement = true

theorem FirstLacking.feature_mem {features : List Feature} {continuation : Bool}
    (stop : FirstLacking features continuation) : stop.feature ∈ features :=
  (congrArg (stop.feature ∈ ·) stop.features_eq).mpr (List.mem_append_right _ List.mem_cons_self)

/-- Where a part lacks an element, there is a first one. -/
theorem exists_firstLacking {features : List Feature} {continuation : Bool}
    (lacking : ∃ f ∈ features, ∃ g ∈ f.writtenParts continuation, g.lacksElement) :
    Nonempty (FirstLacking features continuation) := by
  obtain ⟨f, member, lacks⟩ := lacking
  have some_feature : (features.find? fun f =>
      (f.writtenParts continuation).any Geometry.lacksElement).isSome :=
    List.find?_isSome.2 ⟨f, member, by simpa using lacks⟩
  obtain ⟨feature, found⟩ := Option.isSome_iff_exists.1 some_feature
  obtain ⟨bad, before, after, features_eq, earlier⟩ := List.find?_eq_some_iff_append.1 found
  have some_part : ((feature.writtenParts continuation).find? Geometry.lacksElement).isSome :=
    List.find?_isSome.2 (by simpa using bad)
  obtain ⟨part, found'⟩ := Option.isSome_iff_exists.1 some_part
  obtain ⟨part_lacks, front, back, parts_eq, others⟩ := List.find?_eq_some_iff_append.1 found'
  exact ⟨before, feature, after, front, part, back, features_eq, by simpa using earlier, parts_eq,
    by simpa using others, part_lacks⟩

/-! ## Entries under the GML scheme -/

/-- The markup of a geometry under the GML scheme. -/
def Geometry.gmlMarkup (g : Geometry) : Markup :=
  .gml (Gml.Element.ofGeometry g.unwrap) g.unwrap

theorem Geometry.unsupported?_gmlMarkup (g : Geometry) :
    g.gmlMarkup.unsupported? = if g.lacksElement then some g.unwrap.kindName else none := by
  unfold gmlMarkup lacksElement
  cases g.unwrap <;> rfl

namespace Feature

variable (f : Feature) (templates : Templates) (continuation : Bool)

/-- The written parts are what is located, unless a place on the globe is. -/
theorem located_of_ne_latLong {scheme : Scheme} (other : scheme ≠ .latLong) :
    f.located ⟨scheme, continuation⟩ = .ok (f.writtenParts continuation) := by
  unfold located writtenParts
  cases scheme with
  | latLong => exact absurd rfl other
  | simple | gml =>
      cases f.geometry with
      | none => rfl
      | some g =>
          simp only
          cases g.parts? with
          | none => rfl
          | some parts =>
              cases parts with
              | nil => cases continuation <;> rfl
              | cons first rest => cases continuation <;> rfl

/-- Under the GML scheme no feature is left out, and its entries carry the parts. -/
theorem map_markup_feedEntries_gml :
    (f.feedEntries templates ⟨.gml, continuation⟩).map Entry.markup
      = if f.writtenParts continuation = [] then [none]
        else (f.writtenParts continuation).map fun g => some g.gmlMarkup := by
  have group : f.group ⟨.gml, continuation⟩ (templates.itemText f).value
      = .ok (.ofMarkups f.id (templates.itemText f).value
          ((f.writtenParts continuation).map fun g => some g.gmlMarkup)) := by
    refine group_eq_ok_iff.2 ⟨_, _, f.located_of_ne_latLong continuation (by decide), ?_, rfl⟩
    rw [List.map_map]
    rfl
  have value : (f.entries templates ⟨.gml, continuation⟩).value
      = f.group ⟨.gml, continuation⟩ (templates.itemText f).value := rfl
  rw [feedEntries, value, group]
  simp only [EntryGroup.map_markup_ofMarkups, List.map_eq_nil_iff]

theorem map_unsupported?_feedEntries_gml :
    (f.feedEntries templates ⟨.gml, continuation⟩).map Entry.unsupported?
      = if f.writtenParts continuation = [] then [none]
        else (f.writtenParts continuation).map fun g =>
          if g.lacksElement then some g.unwrap.kindName else none := by
  have through : (f.feedEntries templates ⟨.gml, continuation⟩).map Entry.unsupported?
      = ((f.feedEntries templates ⟨.gml, continuation⟩).map Entry.markup).map
          (·.bind Markup.unsupported?) := by
    rw [List.map_map]
    rfl
  rw [through, map_markup_feedEntries_gml]
  split
  · rfl
  · rw [List.map_map]
    exact List.map_congr_left fun g _ => g.unsupported?_gmlMarkup

/-- A feature whose written parts all have an element comes to its end. -/
theorem exists_unsupported_gml_iff :
    (∃ entry ∈ f.feedEntries templates ⟨.gml, continuation⟩, entry.unsupported?.isSome)
      ↔ ∃ g ∈ f.writtenParts continuation, g.lacksElement := by
  have through : (∃ entry ∈ f.feedEntries templates ⟨.gml, continuation⟩, entry.unsupported?.isSome)
      ↔ ∃ kind? ∈ (f.feedEntries templates ⟨.gml, continuation⟩).map Entry.unsupported?,
          kind?.isSome := by
    simp
  rw [through, map_unsupported?_feedEntries_gml]
  split
  · rename_i absent
    simp [absent]
  · simp only [List.mem_map, exists_exists_and_eq_and]
    constructor
    · rintro ⟨g, member, unsupported⟩
      refine ⟨g, member, ?_⟩
      by_contra has
      rw [if_neg has] at unsupported
      cases unsupported
    · rintro ⟨g, member, lacks⟩
      exact ⟨g, member, by rw [if_pos lacks]; rfl⟩

/-- The entry for the first part without an element, and those before it. -/
theorem exists_entry_of_lacksElement {front back : List Geometry} {part : Geometry}
    (parts : f.writtenParts continuation = front ++ part :: back)
    (front_have : ∀ g ∈ front, g.lacksElement = false) :
    ∃ earlier entry later, f.feedEntries templates ⟨.gml, continuation⟩ = earlier ++ entry :: later ∧
      earlier.length = front.length ∧ (∀ e ∈ earlier, e.unsupported? = none) ∧
      entry.markup = some part.gmlMarkup := by
  have markups := f.map_markup_feedEntries_gml templates continuation
  rw [if_neg (by simp [parts]), parts, List.map_append, List.map_cons] at markups
  obtain ⟨earlier, others, entries, earlier_markups, more⟩ := List.map_eq_append_iff.1 markups
  obtain ⟨entry, later, rfl, markup, -⟩ := List.map_eq_cons_iff.1 more
  refine ⟨earlier, entry, later, entries, ?_, ?_, markup⟩
  · simpa using congrArg List.length earlier_markups
  · intro e member
    have among : e.markup ∈ front.map fun g => some g.gmlMarkup :=
      earlier_markups ▸ List.mem_map_of_mem member
    obtain ⟨g, inside, found⟩ := List.mem_map.1 among
    rw [Entry.unsupported?, ← found, Option.bind_some, g.unsupported?_gmlMarkup,
      if_neg (by simp [front_have g inside])]

/-- A feature whose written parts all have an element has a block that comes to its
end. -/
theorem failure_blockTrace_of_elements
    (supported : ∀ g ∈ f.writtenParts continuation, g.lacksElement = false) :
    (f.blockTrace templates ⟨.gml, continuation⟩).failure = none := by
  rw [failure_blockTrace_eq_none_iff]
  intro entry member
  rw [← Option.not_isSome_iff_eq_none]
  intro unsupported
  obtain ⟨g, inside, lacks⟩ :=
    (f.exists_unsupported_gml_iff templates continuation).1 ⟨entry, member, unsupported⟩
  rw [supported g inside] at lacks
  cases lacks

/-- Only the GML scheme has markup that may not be supported. -/
theorem unsupported?_of_scheme_ne {shape : Shape} (other : shape.scheme ≠ .gml) {entry : Entry}
    (member : entry ∈ f.feedEntries templates shape) : entry.unsupported? = none := by
  cases found : entry.markup with
  | none => rw [Entry.unsupported?, found]; rfl
  | some m =>
      rw [Entry.unsupported?, found, Option.bind_some]
      obtain ⟨g, same⟩ := markup_of_mem_feedEntries member found
      cases m with
      | simple name content => rfl
      | latLong lat lon => rfl
      | gml element geometry => exact absurd (Scheme.scheme_of_markup same).symm other

end Feature

/-! ## Feeds -/

namespace Publisher

variable (p : Publisher) (r : Request) (collections : List (List Feature))

/-- A feed fails exactly if some feature has a written part without an element, under
the GML scheme. -/
theorem failure_isSome_iff :
    (p.feedTrace r collections).failure.isSome ↔
      (r.shape p.standard).value.scheme = .gml ∧
        ∃ f ∈ collections.flatten,
          ∃ g ∈ f.writtenParts (r.shape p.standard).value.continuation, g.lacksElement := by
  have blocks : (p.feedTrace r collections).failure.isSome ↔
      ∃ f ∈ collections.flatten, ∃ entry ∈ f.feedEntries p.templates (r.shape p.standard).value,
        entry.unsupported?.isSome := by
    rw [failure_feedTrace, Trace.concat_failure_isSome_iff, blockTraces]
    simp only [List.mem_map, exists_exists_and_eq_and, Feature.blockTrace, Trace.andThen_of_ok,
      Trace.concat_failure_isSome_iff, Entry.failure_trace, Option.isSome_map]
  rw [blocks]
  obtain ⟨scheme, continuation⟩ := (r.shape p.standard).value
  by_cases gml : scheme = .gml
  · subst gml
    simp only [Feature.exists_unsupported_gml_iff, true_and]
  · simp only [gml, false_and, iff_false]
    rintro ⟨f, -, entry, member, unsupported⟩
    rw [f.unsupported?_of_scheme_ne p.templates gml member] at unsupported
    cases unsupported

/-- What a feed does up to the first part without an element, whatever comes after the
feature of that part. -/
theorem feedTrace_of_firstLacking (gml : (r.shape p.standard).value.scheme = .gml)
    {features : List Feature}
    (stop : FirstLacking features (r.shape p.standard).value.continuation) :
    ∃ earlier entry later,
      stop.feature.feedEntries p.templates (r.shape p.standard).value = earlier ++ entry :: later ∧
      earlier.length = stop.front.length ∧ entry.markup = some stop.part.gmlMarkup ∧
      ∀ (others : List (List Feature)) (after : List Feature),
        others.flatten = stop.before ++ stop.feature :: after →
        p.feedTrace r others
          = ⟨p.headerEvents r
                ++ stop.before.flatMap (·.blockEvents p.templates (r.shape p.standard).value)
                ++ (earlier.flatMap Entry.itemEvents ++ entry.frontEvents),
              some (.gml stop.feature.id (.unsupported stop.part.unwrap.kindName)),
              p.headerReports r
                ++ stop.before.flatMap (·.blockReports p.templates (r.shape p.standard).value)
                ++ stop.feature.blockReports p.templates (r.shape p.standard).value⟩ := by
  have shape : (⟨.gml, (r.shape p.standard).value.continuation⟩ : Shape)
      = (r.shape p.standard).value := by
    rw [← gml]
  obtain ⟨earlier, entry, later, entries, same, earlier_ok, markup⟩ :=
    stop.feature.exists_entry_of_lacksElement p.templates _ stop.parts_eq stop.front_have
  have unsupported : entry.unsupported? = some stop.part.unwrap.kindName := by
    rw [Entry.unsupported?, markup, Option.bind_some, stop.part.unsupported?_gmlMarkup,
      if_pos stop.part_lacks]
  rw [shape] at entries
  have block := Feature.blockTrace_of_unsupported entries earlier_ok unsupported
  have before_ok : ∀ f ∈ stop.before,
      (f.blockTrace p.templates (r.shape p.standard).value).failure = none := by
    intro f member
    rw [← shape]
    exact f.failure_blockTrace_of_elements p.templates _ (stop.before_have f member)
  refine ⟨earlier, entry, later, entries, same, markup, ?_⟩
  intro others after features
  rw [p.feedTrace_of_failing r others features before_ok (by rw [block]; rfl), block]
  rfl

/-- By itself a feed fails for its first written part without an element only. -/
theorem exists_firstLacking_of_failure {cause : FeedError}
    (failed : (p.feedTrace r collections).failure = some cause) :
    (r.shape p.standard).value.scheme = .gml ∧
      ∃ stop : FirstLacking collections.flatten (r.shape p.standard).value.continuation,
        cause = .gml stop.feature.id (.unsupported stop.part.unwrap.kindName) := by
  obtain ⟨gml, lacking⟩ := (p.failure_isSome_iff r collections).1
    (Option.isSome_iff_exists.2 ⟨cause, failed⟩)
  obtain ⟨stop⟩ := exists_firstLacking lacking
  obtain ⟨_, _, _, -, -, -, trace⟩ := p.feedTrace_of_firstLacking r gml stop
  rw [trace collections stop.after stop.features_eq] at failed
  exact ⟨gml, stop, (Option.some.inj failed).symm⟩

/-- **A feed on an output without a limit fails exactly for a written part that GML has no
element for, and stops there.**  The failure names the first such feature and the kind of
its first such part; all earlier features have their blocks, and the feature itself
everything up to the geometry of that part.  What would have come after the feature leaves
no trace. -/
theorem deliver_stops_at_unsupported (output : Output) (accepts : output.room = none) :
    ((∃ cause, p.result r collections (p.deliver output .standard r collections) = .error cause) ↔
      (r.shape p.standard).value.scheme = .gml ∧
        ∃ f ∈ collections.flatten,
          ∃ g ∈ f.writtenParts (r.shape p.standard).value.continuation, g.lacksElement) ∧
    ∀ cause, p.result r collections (p.deliver output .standard r collections) = .error cause →
      ∃ stop : FirstLacking collections.flatten (r.shape p.standard).value.continuation,
        cause = .gml stop.feature.id (.unsupported stop.part.unwrap.kindName) ∧
        (∃ earlier entry later,
          stop.feature.feedEntries p.templates (r.shape p.standard).value
              = earlier ++ entry :: later ∧
            earlier.length = stop.front.length ∧ entry.markup = some stop.part.gmlMarkup ∧
            (p.deliver output .standard r collections).delivery.bytes
              = Xml.bytes (p.headerEvents r)
                ++ stop.before.flatMap (·.blockBytes p.templates (r.shape p.standard).value)
                ++ earlier.flatMap (fun written => Xml.bytes written.itemEvents)
                ++ Xml.bytes entry.frontEvents) ∧
        ∀ (others : List (List Feature)) (after : List Feature),
          others.flatten = stop.before ++ stop.feature :: after →
            p.deliver output .standard r others = p.deliver output .standard r collections ∧
            p.result r others (p.deliver output .standard r others) = .error cause := by
  have fails : (∃ cause, p.result r collections (p.deliver output .standard r collections)
        = .error cause)
      ↔ (p.feedTrace r collections).failure.isSome := by
    simp only [result_eq_error_iff, deliver_unlimited p r collections accepts,
      Option.isSome_iff_exists]
  rw [failure_isSome_iff] at fails
  refine ⟨fails, ?_⟩
  intro cause error
  obtain ⟨gml, lacking⟩ := fails.1 ⟨cause, error⟩
  obtain ⟨stop⟩ := exists_firstLacking lacking
  obtain ⟨earlier, entry, later, entries, same, markup, trace⟩ :=
    p.feedTrace_of_firstLacking r gml stop
  have here := trace collections stop.after stop.features_eq
  have run : ∀ (others : List (List Feature)) (after : List Feature),
      others.flatten = stop.before ++ stop.feature :: after →
        p.deliver output .standard r others = p.deliver output .standard r collections := by
    intro others after features
    rw [deliver_unlimited p r others accepts, deliver_unlimited p r collections accepts, here,
      trace others after features]
  have failure := (p.result_eq_error_iff r collections _ _).1 error
  refine ⟨stop, ?_, ⟨earlier, entry, later, entries, same, markup, ?_⟩, ?_⟩
  · rw [deliver_unlimited p r collections accepts, here] at failure
    exact (Option.some.inj failure).symm
  · rw [deliver_unlimited p r collections accepts, here]
    simp only [Trace.bytes, Xml.bytes_append, Xml.bytes_flatMap, Feature.blockBytes,
      List.append_assoc]
  · intro others after features
    rw [run others after features]
    exact ⟨rfl, (p.result_eq_error_iff r others _ _).2 failure⟩

/-- A feed ends at the second part of a feature where continuations are asked for. -/
theorem deliver_stops_at_second_part :
    (⟨none, ""⟩ : Output).room = none ∧
      ∃ cause, (Publisher.byId .gml).result (.ofOptions [("continuation", "true")])
          [[⟨"marked", .empty, some (.collection [.point ⟨0, 0⟩, .rect ⟨0, 0⟩ ⟨1, 1⟩])⟩]]
          ((Publisher.byId .gml).deliver ⟨none, ""⟩ .standard (.ofOptions [("continuation", "true")])
            [[⟨"marked", .empty, some (.collection [.point ⟨0, 0⟩, .rect ⟨0, 0⟩ ⟨1, 1⟩])⟩]])
        = .error cause := by
  refine ⟨rfl, ((Publisher.byId .gml).deliver_stops_at_unsupported _ _ ⟨none, ""⟩ rfl).1.2 ?_⟩
  have shape : ((Request.ofOptions [("continuation", "true")]).shape .gml).value = ⟨.gml, true⟩ := by
    decide +kernel
  refine ⟨by rw [Publisher.byId, shape], _, List.mem_singleton_self _, .rect ⟨0, 0⟩ ⟨1, 1⟩, ?_, rfl⟩
  rw [Publisher.byId, shape]
  exact List.mem_cons_of_mem _ List.mem_cons_self

end Publisher

end GeoFeed

/-
# GeoFeed.Proofs.Feed.Continuation -- feeds with and without continuations

The same feed may be asked for with continuations and without.  Feature by feature the
two differ in one thing: without continuations a group of entries is its primary entry
alone (`Feature.value_entries_unasked`).  The same features are left out, the primary
entries are the same, and so are the header and the end.  So the feed without
continuations is the other one with the items of all continuations taken away.

A part that is not written cannot end a feed.  Where only the feed with continuations
fails, it fails for a part after the first one.

Main statement: `deliver_without_continuations`.
-/
import GeoFeed.Proofs.Feed.Composition
import GeoFeed.Proofs.Feed.Splitting
import GeoFeed.Proofs.Feed.Unsupported

namespace GeoFeed

set_option autoImplicit false

/-! ## Entries -/

namespace EntryGroup

/-- The primary entry without those that go on with it. -/
def alone (group : EntryGroup) : EntryGroup := ⟨group.primary, []⟩

/-- The bytes of the items of a group. -/
def bytes (group : EntryGroup) : List UInt8 :=
  group.toList.flatMap fun entry => Xml.bytes entry.itemEvents

theorem alone_ofMarkups (id : String) (text : ItemText) (markups : List (Option Markup)) :
    (ofMarkups id text markups).alone = ofMarkups id text (markups.take 1) := by
  cases markups <;> rfl

end EntryGroup

theorem Scheme.exists_markup {scheme : Scheme} (other : scheme ≠ .latLong) (g : Geometry) :
    ∃ markup, scheme.markup g = .ok markup := by
  cases scheme with
  | latLong => exact absurd rfl other
  | simple | gml => exact ⟨_, rfl⟩

namespace Feature

variable (f : Feature) (templates : Templates) {scheme : Scheme}

/-- The entries of a feature, unless it is left out. -/
def group? (shape : Shape) : Option EntryGroup :=
  (f.entries templates shape).value.toOption

/-- The number of parts after the first one. -/
def furtherParts : Nat :=
  (f.members?.getD []).length - 1

theorem writtenParts_unasked : f.writtenParts false = (f.writtenParts true).take 1 := by
  unfold writtenParts
  cases f.geometry with
  | none => rfl
  | some g =>
      simp only
      cases g.parts? with
      | none => rfl
      | some parts => cases parts <;> rfl

theorem located_unasked :
    f.located ⟨scheme, false⟩ = (f.located ⟨scheme, true⟩).map (·.take 1) := by
  by_cases latLong : scheme = .latLong
  · subst latLong
    unfold Feature.located
    cases f.geometry <;> rfl
  · rw [f.located_of_ne_latLong false latLong, f.located_of_ne_latLong true latLong,
      writtenParts_unasked]
    rfl

/-- Where a feature is located as a whole, continuations make no difference. -/
theorem entries_latLong :
    f.entries templates ⟨.latLong, false⟩ = f.entries templates ⟨.latLong, true⟩ := by
  have located : f.located ⟨.latLong, false⟩ = f.located ⟨.latLong, true⟩ := by
    unfold Feature.located
    cases f.geometry <;> rfl
  simp only [entries, group, located]

/-- Where a feature has entries with continuations, its primary entry is there without. -/
theorem entries_unasked {group : EntryGroup}
    (built : (f.entries templates ⟨scheme, true⟩).value = .ok group) :
    (f.entries templates ⟨scheme, false⟩).value = .ok group.alone := by
  obtain ⟨geometries, markups, located, mapped, rfl⟩ := group_eq_ok_iff.1 built
  refine group_eq_ok_iff.2 ⟨geometries.take 1, markups.take 1, ?_, ?_, EntryGroup.alone_ofMarkups _ _ _⟩
  · rw [located_unasked, located]
    rfl
  · rw [List.map_take, mapped, List.map_take]

/-- Only what has to be found on the globe can be left out. -/
theorem exists_group (other : scheme ≠ .latLong) (continuation : Bool) :
    ∃ group, (f.entries templates ⟨scheme, continuation⟩).value = .ok group := by
  choose markup found using Scheme.exists_markup other
  refine ⟨_, group_eq_ok_iff.2 ⟨_, (f.writtenParts continuation).map markup,
    f.located_of_ne_latLong continuation other, ?_, rfl⟩⟩
  rw [List.map_map]
  exact List.map_congr_left fun g _ => found g

theorem isSkipped_eq_false (other : scheme ≠ .latLong) (continuation : Bool) :
    f.isSkipped templates ⟨scheme, continuation⟩ = false := by
  obtain ⟨group, built⟩ := f.exists_group templates other continuation
  rw [isSkipped, built]

/-- **Without continuations a group is its primary entry**, and the same features are left
out for the same reasons. -/
theorem value_entries_unasked :
    (f.entries templates ⟨scheme, false⟩).value
      = (f.entries templates ⟨scheme, true⟩).value.map EntryGroup.alone := by
  cases built : (f.entries templates ⟨scheme, true⟩).value with
  | ok group => exact f.entries_unasked templates built
  | error reason =>
      by_cases latLong : scheme = .latLong
      · subst latLong
        rw [entries_latLong, built]
        rfl
      · obtain ⟨group, found⟩ := f.exists_group templates latLong true
        rw [found] at built
        cases built

theorem group?_unasked :
    f.group? templates ⟨scheme, false⟩ = (f.group? templates ⟨scheme, true⟩).map EntryGroup.alone := by
  rw [group?, value_entries_unasked, group?]
  cases (f.entries templates ⟨scheme, true⟩).value <;> rfl

theorem counts_unasked :
    f.counts templates ⟨scheme, false⟩
      = { f.counts templates ⟨scheme, true⟩ with continuations := 0 } := by
  rw [counts, value_entries_unasked, counts]
  cases (f.entries templates ⟨scheme, true⟩).value <;> rfl

/-- A feature counts its further parts as continuations. -/
theorem continuations_counts (other : scheme ≠ .latLong) :
    (f.counts templates ⟨scheme, true⟩).continuations = f.furtherParts := by
  obtain ⟨group, built⟩ := f.exists_group templates other true
  obtain ⟨geometries, located, carries⟩ := carries_of_entries built
  rw [counts, built]
  refine carries.length.trans ?_
  unfold furtherParts
  cases members : f.members? with
  | none =>
      obtain rfl := located_of_whole (.inr members) located
      cases f.geometry <;> rfl
  | some parts =>
      rw [located_of_members other members] at located
      obtain rfl := Except.ok.inj located
      rfl

/-- Groups have the bytes of their features' blocks. -/
theorem flatMap_bytes_group? (shape : Shape) (features : List Feature) :
    (features.filterMap (·.group? templates shape)).flatMap EntryGroup.bytes
      = features.flatMap (·.blockBytes templates shape) := by
  induction features with
  | nil => rfl
  | cons f rest ih =>
      rw [List.flatMap_cons, ← ih, List.filterMap_cons, group?, blockBytes, blockEvents, feedEntries,
        Xml.bytes_flatMap]
      cases (f.entries templates shape).value with
      | ok group => rfl
      | error reason => rfl

/-- Where more than one part is written, all parts are. -/
theorem members?_of_writtenParts (several : 1 < (f.writtenParts true).length) :
    f.members? = some (f.writtenParts true) := by
  unfold members?
  unfold writtenParts at several ⊢
  cases found : f.geometry with
  | none => simp [found] at several
  | some g =>
      simp only [found] at several ⊢
      cases parts : g.parts? with
      | none => simp [parts] at several
      | some all => cases all <;> simp_all

end Feature

/-! ## Counts -/

namespace Publisher

variable (p : Publisher) (features : List Feature) {scheme : Scheme}

theorem summary_unasked :
    p.summary ⟨scheme, false⟩ features
      = { p.summary ⟨scheme, true⟩ features with continuations := 0 } := by
  simp only [summary, Summary.foldl_add, List.map_map, Function.comp_def, Feature.counts_unasked]
  simp

theorem continuations_summary (other : scheme ≠ .latLong) :
    (p.summary ⟨scheme, true⟩ features).continuations
      = (features.map Feature.furtherParts).sum := by
  simp only [summary, Summary.foldl_add, List.map_map, Function.comp_def,
    Feature.continuations_counts _ _ other, Nat.zero_add]

end Publisher

/-! ## Feeds -/

/-- Two requests for the same feed, one with continuations and one without. -/
structure Request.SwitchedOff (standard scheme : Scheme) (on off : Request) : Prop where
  baseUrl : off.baseUrl = on.baseUrl
  outputFormat : off.outputFormat = on.outputFormat
  types : off.types = on.types
  asked : (on.shape standard).value = ⟨scheme, true⟩
  unasked : (off.shape standard).value = ⟨scheme, false⟩

namespace Publisher

variable (p : Publisher) (collections : List (List Feature)) {scheme : Scheme} {on off : Request}

/-- The entries of a feed, feature by feature. -/
def groups (r : Request) : List EntryGroup :=
  collections.flatten.filterMap (·.group? p.templates (r.shape p.standard).value)

/-- The bytes of a feed with these groups of entries. -/
def bytesOfGroups (r : Request) (groups : List EntryGroup) : List UInt8 :=
  Xml.bytes (p.headerEvents r) ++ groups.flatMap EntryGroup.bytes ++ Xml.bytes footerEvents

theorem bytes_feedTrace_of_ok {r : Request} (ok : (p.feedTrace r collections).failure = none) :
    (p.feedTrace r collections).bytes = p.bytesOfGroups r (p.groups collections r) := by
  rw [feedTrace_of_ok p r collections ok, bytesOfGroups, groups, Feature.flatMap_bytes_group?]
  simp only [Trace.bytes, Xml.bytes_append, Xml.bytes_flatMap, Feature.blockBytes]

theorem headerEvents_switchedOff (switched : Request.SwitchedOff p.standard scheme on off) :
    p.headerEvents off = p.headerEvents on := by
  obtain ⟨baseUrl, outputFormat, types, options⟩ := on
  obtain ⟨baseUrl', outputFormat', types', options'⟩ := off
  obtain ⟨rfl, rfl, rfl, asked, unasked⟩ := switched
  simp only [headerEvents, asked, unasked]
  rfl

theorem groups_switchedOff (switched : Request.SwitchedOff p.standard scheme on off) :
    p.groups collections off = (p.groups collections on).map EntryGroup.alone := by
  rw [groups, groups, switched.asked, switched.unasked, List.map_filterMap]
  exact List.filterMap_congr fun f _ => f.group?_unasked p.templates

/-- Where continuations do not end a feed, it does not fail without them. -/
theorem failure_switchedOff (switched : Request.SwitchedOff p.standard scheme on off)
    (ok : (p.feedTrace on collections).failure = none) :
    (p.feedTrace off collections).failure = none := by
  rw [← Option.not_isSome_iff_eq_none] at ok ⊢
  intro failed
  obtain ⟨gml, f, member, g, written, lacks⟩ := (p.failure_isSome_iff off collections).1 failed
  rw [switched.unasked] at gml written
  rw [f.writtenParts_unasked] at written
  refine ok ((p.failure_isSome_iff on collections).2 ?_)
  rw [switched.asked]
  exact ⟨gml, f, member, g, List.mem_of_mem_take written, lacks⟩

/-- A part that ends a feed only where there are continuations is not the first of its
feature. -/
theorem member_of_firstLacking (switched : Request.SwitchedOff p.standard scheme on off)
    (gml : scheme = .gml) (ok : (p.feedTrace off collections).failure = none)
    (stop : FirstLacking collections.flatten true) :
    1 ≤ stop.front.length ∧ ∃ parts, stop.feature.members? = some parts ∧
      parts[stop.front.length]? = some stop.part := by
  have later : stop.front ≠ [] := by
    intro first
    have written : stop.part ∈ stop.feature.writtenParts false := by
      rw [Feature.writtenParts_unasked, stop.parts_eq, first]
      exact List.mem_cons_self
    have failed := (p.failure_isSome_iff off collections).2
      (by rw [switched.unasked]; exact ⟨gml, _, stop.feature_mem, _, written, stop.part_lacks⟩)
    rw [ok] at failed
    cases failed
  have several : 1 < (stop.feature.writtenParts true).length := by
    have := List.length_pos_iff.2 later
    rw [stop.parts_eq, List.length_append, List.length_cons]
    omega
  refine ⟨List.length_pos_iff.2 later, _, stop.feature.members?_of_writtenParts several, ?_⟩
  rw [stop.parts_eq, List.getElem?_append_right (Nat.le_refl _), Nat.sub_self, List.getElem?_cons_zero]

/-- **Continuations only add items.**  Where a feed comes to its end with continuations, it
does so without them, with the same items and the same features left out.  The
continuations are as many as there are parts after the first one, and the document
without them is the other one with the items of the continuations taken away.  Under the
latitude-longitude scheme the two documents are the same.  Where a feed fails with
continuations only, it fails for a part after the first one. -/
theorem deliver_without_continuations (switched : Request.SwitchedOff p.standard scheme on off)
    (output : Output) (accepts : output.room = none) :
    (∀ counts, p.result on collections (p.deliver output .standard on collections) = .ok counts →
      p.result off collections (p.deliver output .standard off collections)
          = .ok { counts with continuations := 0 } ∧
        (scheme ≠ .latLong → counts.continuations
          = ((Feature.kept p.templates ⟨scheme, true⟩ collections.flatten).map
              Feature.furtherParts).sum) ∧
        (p.deliver output .standard on collections).delivery.bytes
          = p.bytesOfGroups on (p.groups collections on) ∧
        (p.deliver output .standard off collections).delivery.bytes
          = p.bytesOfGroups on ((p.groups collections on).map EntryGroup.alone)) ∧
    (scheme = .latLong → (p.deliver output .standard on collections).delivery
      = (p.deliver output .standard off collections).delivery) ∧
    ∀ cause counts,
      p.result on collections (p.deliver output .standard on collections) = .error cause →
      p.result off collections (p.deliver output .standard off collections) = .ok counts →
        ∃ stop : FirstLacking collections.flatten true,
          cause = .gml stop.feature.id (.unsupported stop.part.unwrap.kindName) ∧
          1 ≤ stop.front.length ∧ ∃ parts, stop.feature.members? = some parts ∧
            parts[stop.front.length]? = some stop.part := by
  have on_run := deliver_unlimited p on collections accepts
  have off_run := deliver_unlimited p off collections accepts
  refine ⟨?_, ?_, ?_⟩
  · intro counts complete
    obtain ⟨ok, rfl⟩ := (p.result_eq_ok_iff on collections _ counts).1 complete
    rw [on_run] at ok ⊢
    rw [off_run]
    have ok' := p.failure_switchedOff collections switched ok
    refine ⟨(p.result_eq_ok_iff off collections _ _).2 ⟨ok', ?_⟩, ?_, ?_, ?_⟩
    · rw [planSummary, planSummary, switched.asked, switched.unasked, summary_unasked]
    · intro other
      have all : Feature.kept p.templates ⟨scheme, true⟩ collections.flatten = collections.flatten :=
        List.filter_eq_self.2 fun f _ => by rw [f.isSkipped_eq_false p.templates other true]; rfl
      rw [planSummary, switched.asked, continuations_summary p _ other, all]
    · exact p.bytes_feedTrace_of_ok collections ok
    · rw [← p.groups_switchedOff collections switched, bytesOfGroups,
        ← p.headerEvents_switchedOff switched]
      exact p.bytes_feedTrace_of_ok collections ok'
  · rintro rfl
    have never (r : Request) (latLong : (r.shape p.standard).value.scheme = .latLong) :
        (p.feedTrace r collections).failure = none := by
      rw [← Option.not_isSome_iff_eq_none, failure_isSome_iff, latLong]
      rintro ⟨other, -⟩
      cases other
    have ok := never on (by rw [switched.asked])
    have ok' := never off (by rw [switched.unasked])
    have blocks : collections.flatten.flatMap (·.blockEvents p.templates ⟨.latLong, false⟩)
        = collections.flatten.flatMap (·.blockEvents p.templates ⟨.latLong, true⟩) :=
      List.flatMap_congr fun f _ => by
        rw [Feature.blockEvents, Feature.blockEvents, Feature.feedEntries, Feature.feedEntries,
          f.entries_latLong]
    rw [on_run, off_run, feedTrace_of_ok p on collections ok, feedTrace_of_ok p off collections ok',
      p.headerEvents_switchedOff switched, switched.asked, switched.unasked, blocks]
    rfl
  · intro cause counts failed complete
    obtain ⟨ok, -⟩ := (p.result_eq_ok_iff off collections _ counts).1 complete
    have failure := (p.result_eq_error_iff on collections _ cause).1 failed
    rw [off_run] at ok
    rw [on_run] at failure
    have lacking := p.exists_firstLacking_of_failure on collections failure
    rw [switched.asked] at lacking
    obtain ⟨gml, stop, same⟩ := lacking
    exact ⟨stop, same, p.member_of_firstLacking collections switched gml ok stop⟩

/-- Two points, of which the second has an item of its own only where it is asked for. -/
theorem deliver_without_continuations_points :
    Request.SwitchedOff .simple .simple (.ofOptions [("continuation", "true")]) (.ofOptions []) ∧
      (⟨none, ""⟩ : Output).room = none ∧
      (Publisher.byId .simple).result (.ofOptions [])
          [[⟨"p", .empty, some (.multiPoint [⟨0, 0⟩, ⟨1, 2⟩])⟩]]
          ((Publisher.byId .simple).deliver ⟨none, ""⟩ .standard (.ofOptions [])
            [[⟨"p", .empty, some (.multiPoint [⟨0, 0⟩, ⟨1, 2⟩])⟩]])
        = .ok ⟨1, 0, 0⟩ := by
  have switched : Request.SwitchedOff .simple .simple (.ofOptions [("continuation", "true")])
      (.ofOptions []) :=
    ⟨rfl, rfl, rfl, by decide +kernel, by decide +kernel⟩
  have complete : (Publisher.byId .simple).result (.ofOptions [("continuation", "true")])
      [[⟨"p", .empty, some (.multiPoint [⟨0, 0⟩, ⟨1, 2⟩])⟩]]
      ((Publisher.byId .simple).deliver ⟨none, ""⟩ .standard (.ofOptions [("continuation", "true")])
        [[⟨"p", .empty, some (.multiPoint [⟨0, 0⟩, ⟨1, 2⟩])⟩]])
      = .ok ⟨1, 1, 0⟩ := by
    decide +kernel
  exact ⟨switched, rfl,
    ((deliver_without_continuations (.byId .simple) _ switched ⟨none, ""⟩ rfl).1 ⟨1, 1, 0⟩ complete).1⟩

end Publisher

end GeoFeed

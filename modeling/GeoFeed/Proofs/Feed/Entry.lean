/-
# GeoFeed.Proofs.Feed.Entry -- the entries that a feature has in a feed

A feature is left out, or it has one entry for each geometry that is located for
it, and one without markup where there is none.  Every markup of an entry is the
markup of a geometry under the scheme of the feed (`markup_of_mem_feedEntries`).
-/
import GeoFeed.Feed.Plan
import Mathlib.Data.List.Forall2

namespace GeoFeed

set_option autoImplicit false

namespace Feature

variable (f : Feature) (templates : Templates) (shape : Shape)

/-- The entries of a feature; none if it is left out. -/
def feedEntries : List Entry :=
  match (f.entries templates shape).value with
  | .ok group => group.toList
  | .error _ => []

/-- Whether a feature is left out. -/
def isSkipped : Bool :=
  match (f.entries templates shape).value with
  | .ok _ => false
  | .error _ => true

end Feature

/-! ## Markups and schemes -/

/-- The scheme that has such markup. -/
def Markup.scheme : Markup → Scheme
  | simple _ _ => .simple
  | latLong _ _ => .latLong
  | gml _ _ => .gml

theorem Markup.scheme_of_ofPath {element : String} {path : Path} {m : Markup}
    (found : ofPath element path = some m) : m.scheme = .simple := by
  unfold ofPath at found
  split at found
  · cases found
  · cases found
    rfl

theorem Markup.scheme_of_ofSimple {g : Geometry} {m : Markup} (found : ofSimple g = some m) :
    m.scheme = .simple := by
  unfold ofSimple at found
  split at found
  · cases found
    rfl
  · exact scheme_of_ofPath found
  · exact scheme_of_ofPath found
  · cases found

/-- The markup of a geometry under a scheme belongs to that scheme. -/
theorem Scheme.scheme_of_markup {scheme : Scheme} {g : Geometry} {m : Markup}
    (found : scheme.markup g = .ok (some m)) : m.scheme = scheme := by
  unfold markup at found
  cases scheme with
  | simple => exact Markup.scheme_of_ofSimple (Except.ok.inj found)
  | gml =>
      cases found
      rfl
  | latLong =>
      simp only at found
      split at found
      · cases found
        rfl
      · cases found

/-! ## Markups in a row -/

section Row

variable {α β ε : Type}

theorem bind_eq_ok_iff {x : Except ε α} {f : α → Except ε β} {b : β} :
    (x >>= f) = .ok b ↔ ∃ a, x = .ok a ∧ f a = .ok b := by
  cases x with
  | error cause => simp [bind, Except.bind]
  | ok a => simp [bind, Except.bind]

/-- A row of steps has results if each step has its own. -/
theorem mapM_eq_ok_iff {f : α → Except ε β} {items : List α} {results : List β} :
    items.mapM f = .ok results
      ↔ List.Forall₂ (fun item result => f item = .ok result) items results := by
  induction items generalizing results with
  | nil =>
      rw [List.mapM_nil, List.forall₂_nil_left_iff]
      constructor
      · intro same
        cases same
        rfl
      · rintro rfl
        rfl
  | cons item rest ih =>
      rw [List.mapM_cons, bind_eq_ok_iff]
      constructor
      · rintro ⟨first, one, more⟩
        obtain ⟨later, others, same⟩ := bind_eq_ok_iff.1 more
        cases same
        exact .cons one (ih.1 others)
      · rintro (_ | ⟨one, others⟩)
        exact ⟨_, one, bind_eq_ok_iff.2 ⟨_, ih.2 others, rfl⟩⟩

end Row

namespace Scheme

theorem entryMarkup_eq_ok_iff (scheme : Scheme) (g : Geometry) (markup : Option Markup) :
    scheme.entryMarkup g = .ok markup ↔ scheme.markup g = .ok markup := by
  unfold entryMarkup
  cases scheme.markup g <;> simp

/-- Geometries have markups together if each has its own. -/
theorem mapM_entryMarkup_eq_ok_iff (scheme : Scheme) (geometries : List Geometry)
    (markups : List (Option Markup)) :
    geometries.mapM scheme.entryMarkup = .ok markups
      ↔ geometries.map scheme.markup = markups.map .ok := by
  rw [mapM_eq_ok_iff, ← List.forall₂_eq_eq_eq, List.forall₂_map_left_iff,
    List.forall₂_map_right_iff]
  simp only [entryMarkup_eq_ok_iff]

end Scheme

namespace EntryGroup

theorem map_markup_continuationsFrom (id : String) (text : ItemText) (number : Nat)
    (markups : List (Option Markup)) :
    (Entry.continuationsFrom id text number markups).map Entry.markup = markups := by
  induction markups generalizing number with
  | nil => rfl
  | cons markup rest ih => rw [Entry.continuationsFrom, List.map_cons, ih]; rfl

/-- The entries carry the markups in order; without markups there is one entry all
the same. -/
theorem map_markup_ofMarkups (id : String) (text : ItemText) (markups : List (Option Markup)) :
    (ofMarkups id text markups).toList.map Entry.markup
      = if markups = [] then [none] else markups := by
  cases markups with
  | nil => rfl
  | cons first rest =>
      rw [ofMarkups, toList, List.map_cons, map_markup_continuationsFrom]
      simp [Entry.primary]

end EntryGroup

/-! ## The entries of a feature -/

namespace Feature

variable {f : Feature} {templates : Templates} {shape : Shape}

theorem group_eq_ok_iff {text : ItemText} {group : EntryGroup} :
    f.group shape text = .ok group ↔
      ∃ geometries markups, f.located shape = .ok geometries ∧
        geometries.map shape.scheme.markup = markups.map .ok ∧
        group = .ofMarkups f.id text markups := by
  unfold Feature.group
  rw [bind_eq_ok_iff]
  constructor
  · rintro ⟨geometries, located, more⟩
    obtain ⟨markups, mapped, same⟩ := bind_eq_ok_iff.1 more
    cases same
    exact ⟨geometries, markups, located,
      (shape.scheme.mapM_entryMarkup_eq_ok_iff geometries markups).1 mapped, rfl⟩
  · rintro ⟨geometries, markups, located, mapped, rfl⟩
    exact ⟨geometries, located, bind_eq_ok_iff.2
      ⟨markups, (shape.scheme.mapM_entryMarkup_eq_ok_iff geometries markups).2 mapped, rfl⟩⟩

/-- A primary entry has the texts of its feature. -/
theorem primary_eq {group : EntryGroup} (found : (f.entries templates shape).value = .ok group) :
    ∃ markup, group.primary = .primary (templates.itemText f).value markup := by
  obtain ⟨_, markups, -, -, rfl⟩ := group_eq_ok_iff.1 found
  cases markups with
  | nil => exact ⟨none, rfl⟩
  | cons markup rest => exact ⟨markup, rfl⟩

/-- Every markup in a feed is that of a geometry under the scheme of the feed. -/
theorem markup_of_mem_feedEntries {entry : Entry} (member : entry ∈ f.feedEntries templates shape)
    {m : Markup} (found : entry.markup = some m) : ∃ g, shape.scheme.markup g = .ok (some m) := by
  unfold feedEntries at member
  cases value : (f.entries templates shape).value with
  | error reason =>
      rw [value] at member
      cases member
  | ok group =>
      rw [value] at member
      obtain ⟨geometries, markups, -, mapped, rfl⟩ := group_eq_ok_iff.1 value
      have among : some m ∈ (EntryGroup.ofMarkups f.id (templates.itemText f).value markups).toList.map
          Entry.markup := found ▸ List.mem_map_of_mem member
      rw [EntryGroup.map_markup_ofMarkups] at among
      split at among
      · simp at among
      · have ok : Except.ok (some m) ∈ geometries.map shape.scheme.markup := by
          rw [mapped]
          exact List.mem_map_of_mem among
        obtain ⟨g, -, one⟩ := List.mem_map.1 ok
        exact ⟨g, one⟩

end Feature

end GeoFeed

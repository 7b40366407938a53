/-
# GeoFeed.Proofs.Feed.Guid -- what tells the entries of a feed apart

A primary entry is known by its link, and the continuation for a part by the link, or
else the identifier of the feature, with a hash and the number of the part after it
(`guidOf`).  Within a feature the numbers tell the entries apart, whatever the
templates answer: a number has no hash in it, and two numbers have different figures.

Between features it takes links that differ.  The links that ask a service for a
feature all have the same front, and after it the encoding of the identifier, which
has no hash in it and can be read back (`address_cases`).  If the service has no
addresses, there are none for any feature, and what is known by an identifier ends in
its last hash.

Main statement: `guids_nodup`.
-/
import Mathlib.Data.List.Nodup
import GeoFeed.Proofs.Feed.Reading
import GeoFeed.Proofs.Url.Service
import GeoFeed.Template.Attributes

namespace GeoFeed

set_option autoImplicit false

open Calendar (ZoneRule)

/-! ## Numbers -/

namespace Decimal

theorem digitsOf_injective {m n : Nat} (same : digitsOf m = digitsOf n) : m = n := by
  have read := Nat.ofDigitChars_toDigits (b := 10) (n := m) (by decide) (by decide)
  rw [← digitsOf, same, digitsOf, Nat.ofDigitChars_toDigits (by decide) (by decide)] at read
  exact read.symm

theorem hash_not_mem_digitsOf (n : Nat) : '#' ∉ digitsOf n := by
  intro member
  have digit := Nat.isDigit_of_mem_toDigits (by decide) (by decide) member
  exact absurd digit (by decide)

end Decimal

/-- A text is cut in one way only at its last hash. -/
theorem eq_of_append_hash {front front' back back' : List Char}
    (same : front ++ '#' :: back = front' ++ '#' :: back') (free : '#' ∉ back) (free' : '#' ∉ back') :
    front = front' := by
  have turned := congrArg List.reverse same
  rw [List.reverse_append, List.reverse_append, List.reverse_cons, List.reverse_cons,
    List.append_assoc, List.append_assoc] at turned
  have cut := Text.cut?_eq_some_iff.2 ⟨turned, by simpa using free'⟩
  have cut' : Text.cut? '#' (back.reverse ++ '#' :: front.reverse)
      = some (back.reverse, front.reverse) :=
    Text.cut?_eq_some_iff.2 ⟨rfl, by simpa using free⟩
  rw [List.singleton_append] at cut
  rw [cut'] at cut
  simpa using (Prod.mk.inj (Option.some.inj cut)).2

namespace Entry

/-! ## The guids of a feature -/

/-- What follows the owner of an entry in its guid: nothing in the primary one, and the
number of a continuation behind a hash. -/
def numberMark : Option Nat → List Char
  | none => []
  | some n => '#' :: Decimal.digitsOf n

/-- The guid of the primary entry, or of the continuation with the given number. -/
def guidOf (id : String) (text : ItemText) : Option Nat → Option String
  | none => text.link
  | some n => some (continuationGuid id text n)

theorem numberMark_injective {k l : Option Nat} (same : numberMark k = numberMark l) : k = l := by
  cases k with
  | none => cases l with
    | none => rfl
    | some n => cases same
  | some m => cases l with
    | none => cases same
    | some n => rw [Decimal.digitsOf_injective (List.cons.inj same).2]

theorem toList_guidOf {id : String} {text : ItemText} {k : Option Nat} {guid : String}
    (found : guidOf id text k = some guid) :
    guid.toList = (text.link.getD id).toList ++ numberMark k := by
  cases k with
  | none =>
      have link : text.link = some guid := found
      simp [link, numberMark]
  | some n =>
      obtain rfl := Option.some.inj found
      simp [continuationGuid, numberMark]

/-- **The number tells the entries of a feature apart.** -/
theorem number_of_guidOf {id : String} {text : ItemText} {k l : Option Nat} {guid : String}
    (found : guidOf id text k = some guid) (found' : guidOf id text l = some guid) : k = l := by
  have same := (toList_guidOf found).symm.trans (toList_guidOf found')
  exact numberMark_injective (List.append_cancel_left same)

/-- Owners without a hash tell the entries apart whose numbers follow them. -/
theorem owner_of_append_numberMark {owner owner' : List Char} {k l : Option Nat}
    (free : '#' ∉ owner) (free' : '#' ∉ owner')
    (same : owner ++ numberMark k = owner' ++ numberMark l) : owner = owner' := by
  have cut : ∀ {owner : List Char} (k : Option Nat), '#' ∉ owner →
      (owner ++ numberMark k).takeWhile (· != '#') = owner := by
    intro owner k free
    have plain : ∀ c ∈ owner, (c != '#') = true := by
      intro c member
      simpa using fun hash : c = '#' => free (hash ▸ member)
    rw [List.takeWhile_append_of_pos plain]
    cases k <;> simp [numberMark]
  rw [← cut k free, same, cut l free']

theorem filterMap_guid_continuationsFrom (id : String) (text : ItemText) (number : Nat)
    (markups : List (Option Markup)) :
    (continuationsFrom id text number markups).filterMap guid
      = ((List.range' number markups.length).map some).filterMap (guidOf id text) := by
  induction markups generalizing number with
  | nil => rfl
  | cons markup rest ih =>
      rw [continuationsFrom, List.length_cons, List.range'_succ, List.map_cons, List.filterMap_cons,
        List.filterMap_cons, ih]
      rfl

theorem isSome_guid_of_mem_continuationsFrom {id : String} {text : ItemText} {number : Nat}
    {markups : List (Option Markup)} :
    ∀ entry ∈ continuationsFrom id text number markups, entry.guid.isSome := by
  induction markups generalizing number with
  | nil => simp [continuationsFrom]
  | cons markup rest ih =>
      intro entry member
      rcases List.mem_cons.1 member with rfl | member
      · rfl
      · exact ih entry member

/-- The numbers of a feature's entries. -/
def numbers (count : Nat) : List (Option Nat) :=
  none :: (List.range' 1 (count - 1)).map some

theorem nodup_numbers (count : Nat) : (numbers count).Nodup := by
  refine List.nodup_cons.2 ⟨by simp, ?_⟩
  exact (List.nodup_range' 1).map fun m n same => Option.some.inj same

theorem filterMap_guid_ofMarkups (id : String) (text : ItemText) (markups : List (Option Markup)) :
    (EntryGroup.ofMarkups id text markups).toList.filterMap guid
      = (numbers markups.length).filterMap (guidOf id text) := by
  cases markups with
  | nil => rfl
  | cons first rest =>
      have others := filterMap_guid_continuationsFrom id text 1 rest
      rw [EntryGroup.ofMarkups, EntryGroup.toList, numbers, List.filterMap_cons, List.filterMap_cons,
        others]
      rfl

end Entry

namespace EntryGroup

variable {id : String} {text : ItemText} {markups : List (Option Markup)}

theorem guid_primary :
    (ofMarkups id text markups).primary.guid = (ofMarkups id text markups).primary.link := by
  cases markups <;> rfl

theorem isSome_guid_of_mem_continuations :
    ∀ entry ∈ (ofMarkups id text markups).continuations, entry.guid.isSome := by
  cases markups with
  | nil => simp [ofMarkups]
  | cons first rest => exact Entry.isSome_guid_of_mem_continuationsFrom

end EntryGroup

namespace Feature

variable (f : Feature) (templates : Templates) (shape : Shape)

/-- The guids of a feature are those of some numbers, each taken once. -/
theorem exists_filterMap_guid :
    ∃ numbers : List (Option Nat), numbers.Nodup ∧
      (f.feedEntries templates shape).filterMap Entry.guid
        = numbers.filterMap (Entry.guidOf f.id (templates.itemText f).value) := by
  unfold feedEntries
  cases value : (f.entries templates shape).value with
  | error reason => exact ⟨[], .nil, rfl⟩
  | ok group =>
      obtain ⟨_, markups, -, -, rfl⟩ := group_eq_ok_iff.1 value
      exact ⟨_, Entry.nodup_numbers markups.length, Entry.filterMap_guid_ofMarkups _ _ markups⟩

/-- **The guids of a feature differ**, whatever the templates answer. -/
theorem nodup_guids : ((f.feedEntries templates shape).filterMap Entry.guid).Nodup := by
  obtain ⟨numbers, nodup, same⟩ := f.exists_filterMap_guid templates shape
  rw [same]
  exact nodup.filterMap fun k l guid found found' => Entry.number_of_guidOf found found'

theorem exists_guidOf {guid : String}
    (member : guid ∈ (f.feedEntries templates shape).filterMap Entry.guid) :
    ∃ k, Entry.guidOf f.id (templates.itemText f).value k = some guid := by
  obtain ⟨numbers, -, same⟩ := f.exists_filterMap_guid templates shape
  rw [same] at member
  obtain ⟨k, -, found⟩ := List.mem_filterMap.1 member
  exact ⟨k, found⟩

end Feature

/-! ## The guids of a service -/

namespace TemplateNames

/-- The link of a feature in a feed that asks the service at `base` for it. -/
theorem link_ofAttributes (names : TemplateNames) (base : String) (zoneAt : ZoneRule)
    (f : Feature) :
    ((Templates.ofAttributes names base zoneAt).itemText f).value.link
      = ((Url.service base "wfs" [("request", "GetFeature"), ("featureid", f.id)]).toOption.map
          Url.toText) := by
  have link : ((Templates.ofAttributes names base zoneAt).itemText f).value.link
      = (Template.resolve (linkText base) "link" f Text.nonBlank? none).value := rfl
  cases built : Url.service base "wfs" [("request", "GetFeature"), ("featureid", f.id)] with
  | error cause =>
      simp only [link, Template.resolve, linkText, built]
      rfl
  | ok url =>
      have kept := Url.nonBlank?_toText_of_service built
      simp only [link, Template.resolve, linkText, built, Logged.value_pure, kept]
      rfl

/-- The features below one base all have links, which differ only in the encoding of the
identifier at their ends, or none of them has. -/
theorem address_cases (names : TemplateNames) (base : String) (zoneAt : ZoneRule) :
    (∀ f, ((Templates.ofAttributes names base zoneAt).itemText f).value.link = none) ∨
      ∃ front, ∀ f, ∃ link,
        ((Templates.ofAttributes names base zoneAt).itemText f).value.link = some link ∧
          link.toList = front ++ Url.Form.encode f.id := by
  by_cases lives : ∃ place parts, Url.ofText base = .ok place ∧ place.route = .segments parts
  · right
    obtain ⟨place, parts, read, rooted⟩ := lives
    refine ⟨(Url.serviceRoot place).toChars ++ "?request=GetFeature&featureid=".toList, fun f => ?_⟩
    have built : Url.service base "wfs" [("request", "GetFeature"), ("featureid", f.id)] = .ok _ :=
      Url.service_eq_ok_iff.2 ⟨place, parts, read, rooted, rfl⟩
    rw [link_ofAttributes, built]
    refine ⟨_, rfl, ?_⟩
    have query : Url.parameterQuery [("request", "GetFeature"), ("featureid", f.id)]
        = some ("request=GetFeature&featureid=".toList ++ Url.Form.encode f.id) := by
      have plain : Url.Form.encode "request" ++ '=' :: Url.Form.encode "GetFeature" ++ '&'
          :: Url.Form.encode "featureid" ++ ['='] = "request=GetFeature&featureid=".toList := by
        decide +kernel
      rw [← plain]
      simp [Url.parameterQuery, Url.Form.encodePairs, List.intercalate_cons_cons]
    rw [Url.toText, String.toList_ofList, query, Url.toChars_serviceRoot_query, List.append_assoc]
    rfl
  · left
    intro f
    rw [link_ofAttributes]
    cases built : Url.service base "wfs" [("request", "GetFeature"), ("featureid", f.id)] with
    | error cause => rfl
    | ok url =>
        obtain ⟨place, parts, read, rooted, -⟩ := Url.service_eq_ok_iff.1 built
        exact absurd ⟨place, parts, read, rooted⟩ lives

/-- **The identifier tells the entries of features apart.** -/
theorem id_of_guidOf {names : TemplateNames} {base : String} {zoneAt : ZoneRule} {f g : Feature}
    {k l : Option Nat} {guid : String}
    (found : Entry.guidOf f.id ((Templates.ofAttributes names base zoneAt).itemText f).value k
      = some guid)
    (found' : Entry.guidOf g.id ((Templates.ofAttributes names base zoneAt).itemText g).value l
      = some guid) : f.id = g.id := by
  have same := (Entry.toList_guidOf found).symm.trans (Entry.toList_guidOf found')
  rcases address_cases names base zoneAt with none_ | ⟨front, addresses⟩
  · cases k with
    | none => cases (none_ f).symm.trans found
    | some m => cases l with
      | none => cases (none_ g).symm.trans found'
      | some n =>
          rw [none_ f, none_ g] at same
          exact String.toList_inj.1 (eq_of_append_hash same (Decimal.hash_not_mem_digitsOf m)
            (Decimal.hash_not_mem_digitsOf n))
  · obtain ⟨link, linked, address⟩ := addresses f
    obtain ⟨link', linked', address'⟩ := addresses g
    rw [linked, linked', Option.getD_some, Option.getD_some, address, address', List.append_assoc,
      List.append_assoc] at same
    exact Url.Form.encode_injective (Entry.owner_of_append_numberMark
      (Url.hash_not_mem_formEncode f.id) (Url.hash_not_mem_formEncode g.id)
      (List.append_cancel_left same))

end TemplateNames

/-! ## Feeds -/

namespace Publisher

variable (p : Publisher) (r : Request) (collections : List (List Feature))

/-- The guids of all entries of a feed that links to a service. -/
theorem nodup_guids {names : TemplateNames} {base : String} {zoneAt : ZoneRule}
    (templates : p.templates = .ofAttributes names base zoneAt)
    (distinct : (collections.flatten.map Feature.id).Nodup) :
    ((p.feedEntries r collections).filterMap Entry.guid).Nodup := by
  rw [feedEntries, List.filterMap_flatMap, List.nodup_flatMap]
  refine ⟨fun f _ => f.nodup_guids _ _, ?_⟩
  refine (List.pairwise_map.1 distinct).imp fun {f g} differ guid member member' => ?_
  obtain ⟨k, found⟩ := f.exists_guidOf _ _ member
  obtain ⟨l, found'⟩ := g.exists_guidOf _ _ member'
  rw [templates] at found found'
  exact differ (TemplateNames.id_of_guidOf found found')

/-- **Guids tell entries apart.**  Where the links ask a service for features, at whatever
base and valid or not, features with different identifiers lead to entries whose guids
all differ, and these are the guids that a reader finds in the document.  Whatever the
templates answer, the guids of one feature differ, every continuation has one, and the
primary entry has one exactly if it has a link. -/
theorem guids_nodup :
    (∀ (names : TemplateNames) (base : String) (zoneAt : ZoneRule),
      p.templates = .ofAttributes names base zoneAt →
      (collections.flatten.map Feature.id).Nodup →
        ((p.feedEntries r collections).filterMap Entry.guid).Nodup ∧
          ∀ (output : Output) (flushRefusal : Option String) (counts : Summary),
            p.result r collections
                (p.deliverDocument output flushRefusal .standard r collections) = .ok counts →
              ∃ feed, Feed.ofBytes? (p.deliverDocument output flushRefusal .standard r
                    collections).delivery.bytes = some feed ∧
                (feed.items.filterMap Item.guid).Nodup) ∧
      ∀ (f : Feature) (templates : Templates) (shape : Shape) (group : EntryGroup),
        (f.entries templates shape).value = .ok group →
          (group.toList.filterMap Entry.guid).Nodup ∧
            (∀ entry ∈ group.continuations, entry.guid.isSome) ∧
            (group.primary.guid.isSome ↔ group.primary.link.isSome) := by
  constructor
  · intro names base zoneAt templates distinct
    have nodup := p.nodup_guids r collections templates distinct
    refine ⟨nodup, fun output flushRefusal counts complete => ?_⟩
    obtain ⟨ok, bytes⟩ := p.bytes_of_result_ok r collections complete
    refine ⟨p.feed r collections, ?_, ?_⟩
    · rw [bytes, p.ofBytes?_of_ok r collections ok]
    · rw [feed, List.filterMap_map]
      exact nodup
  · intro f templates shape group found
    have entries : f.feedEntries templates shape = group.toList := by rw [Feature.feedEntries, found]
    refine ⟨entries ▸ f.nodup_guids templates shape, ?_, ?_⟩
    · obtain ⟨_, markups, -, -, rfl⟩ := Feature.group_eq_ok_iff.1 found
      exact EntryGroup.isSome_guid_of_mem_continuations
    · obtain ⟨_, markups, -, -, rfl⟩ := Feature.group_eq_ok_iff.1 found
      rw [EntryGroup.guid_primary]

/-- A service that cannot be asked for features. -/
def addressless : Publisher :=
  { Publisher.byId .simple with templates := .ofAttributes {} "nowhere" }

/-- Two features; the continuation of the first is known by the identifier of the second. -/
def hashed : List (List Feature) :=
  [[⟨"a", .empty, some (.multiPoint [⟨0, 0⟩, ⟨1, 1⟩])⟩],
    [⟨"a#1", .empty, some (.multiPoint [⟨0, 0⟩, ⟨1, 1⟩])⟩]]

/-- Identifiers may hold hashes and numbers themselves. -/
theorem guids_nodup_of_hashes :
    addressless.templates = .ofAttributes {} "nowhere" ∧
      (hashed.flatten.map Feature.id).Nodup ∧
      addressless.result (.ofOptions [("continuation", "true")]) hashed
          (addressless.deliverDocument ⟨none, ""⟩ none .standard
            (.ofOptions [("continuation", "true")]) hashed)
        = .ok ⟨2, 2, 0⟩ ∧
      (∃ feed, Feed.ofBytes? (addressless.deliverDocument ⟨none, ""⟩ none .standard
            (.ofOptions [("continuation", "true")]) hashed).delivery.bytes = some feed ∧
        (feed.items.filterMap Item.guid).Nodup) ∧
      ∃ group, (Feature.entries ⟨"a", .empty, some (.multiPoint [⟨0, 0⟩, ⟨1, 1⟩])⟩ .byId
          ⟨.simple, true⟩).value = .ok group ∧
        (group.toList.filterMap Entry.guid).Nodup := by
  have distinct : (hashed.flatten.map Feature.id).Nodup := by decide
  have complete : addressless.result (.ofOptions [("continuation", "true")]) hashed
      (addressless.deliverDocument ⟨none, ""⟩ none .standard
        (.ofOptions [("continuation", "true")]) hashed)
      = .ok ⟨2, 2, 0⟩ := by
    decide +kernel
  have located : ∃ group, (Feature.entries ⟨"a", .empty, some (.multiPoint [⟨0, 0⟩, ⟨1, 1⟩])⟩ .byId
      ⟨.simple, true⟩).value = .ok group := ⟨_, rfl⟩
  obtain ⟨group, found⟩ := located
  refine ⟨rfl, distinct, complete, ?_, group, found, ?_⟩
  · exact ((guids_nodup _ _ _).1 {} "nowhere" .utc rfl distinct).2 _ _ _ complete
  · exact ((guids_nodup addressless (.ofOptions []) []).2 _ _ _ _ found).1

end Publisher

end GeoFeed

/-
# GeoFeed.Proofs.Feed.Report -- what a feed reports

The log of a feed begins with what there is to say about the channel.  Then every
feature has its say in the order of the collections: one warning for each of its lookups
that failed, in the order of the lookups, and one more if the feature is left out.  The
counts are reported last, and only of a feed that came to its end.  A feed that fails has
no reports about the features after the one that it failed for.

What a feature reports is a list that is written down, event by event, without running
anything (`Feature.lookupReports`, `Feature.skipReports`).  That a block reports just this
is settled once (`Feature.blockReports_eq`); the log of a feed is then the row of its
blocks, and a report is told by its message from those about the channel
(`message_of_mem_headerReports`).

Main statement: `deliver_reports`.
-/
import GeoFeed.Proofs.Feed.Composition
import GeoFeed.Proofs.Feed.Unsupported

namespace GeoFeed

set_option autoImplicit false

namespace Log

/-- Whether a report tells of a feature that is left out. -/
def Entry.isSkip (entry : Log.Entry) : Bool :=
  entry.message == "Encoding failed for feature, skipping"

/-- The reports of features that are left out. -/
def skips (log : List Log.Entry) : List Log.Entry := log.filter Log.Entry.isSkip

theorem skips_append (front back : List Log.Entry) :
    skips (front ++ back) = skips front ++ skips back :=
  List.filter_append ..

/-- The messages of reports about the channel. -/
def channelMessages : List String :=
  ["Overriding geometry encoding with value specified in format options",
    "Overriding continuation with value specified in format options",
    "Unable to determine a valid title for feed",
    "Unable to determine a valid description for feed", "Unable to create feed url"]

/-- What is reported about the channel tells of no feature. -/
theorem skips_eq_nil {log : List Log.Entry}
    (channel : ∀ entry ∈ log, entry.message ∈ channelMessages) : skips log = [] := by
  refine List.filter_eq_nil_iff.2 fun entry member skip => ?_
  have message := channel entry member
  rw [Entry.isSkip, beq_iff_eq] at skip
  rw [skip] at message
  exact absurd message (by decide)

end Log

/-! ## One feature -/

/-- The lookups for the texts of an item, in order, each with the name that reports give it. -/
def Templates.lookups (templates : Templates) : List (String × Template) :=
  [("title", templates.title), ("link", templates.link), ("description", templates.description),
    ("pubDate", templates.published), ("enclosure", templates.enclosures)]

namespace Feature

variable (f : Feature) (templates : Templates) (shape : Shape)

/-- The warning about a lookup, if it fails. -/
def lookupReport? (lookup : String × Template) : Option Log.Entry :=
  match lookup.2 f with
  | .ok _ => none
  | .error e =>
      some ⟨.warn, "Error executing template, using fallback",
        [("feature_id", f.id), ("template", lookup.1), ("error", e.message)]⟩

/-- The warnings about the lookups that fail. -/
def lookupReports : List Log.Entry :=
  templates.lookups.filterMap f.lookupReport?

/-- The warning about a feature that is left out. -/
def skipReports : List Log.Entry :=
  match (f.entries templates shape).value with
  | .ok _ => []
  | .error reason =>
      [⟨.warn, "Encoding failed for feature, skipping",
        [("feature_id", f.id), ("error", reason.message)]⟩]

theorem reports_resolve {α : Type} (template : Template) (what : String) (use : String → α)
    (standIn : α) :
    (template.resolve what f use standIn).reports = (f.lookupReport? (what, template)).toList := by
  unfold Template.resolve lookupReport?
  cases answer : template f with
  | ok text => simp only [answer]; rfl
  | error e => simp only [answer]; rfl

/-- **Each failing lookup is reported once**, and no other. -/
theorem reports_itemText : (templates.itemText f).reports = f.lookupReports templates := by
  simp only [Templates.itemText, Logged.reports_bind, Logged.reports_pure, Templates.itemTitle,
    Templates.itemLink, Templates.itemDescription, Templates.itemPublished,
    Templates.itemEnclosures, reports_resolve, lookupReports, Templates.lookups,
    List.filterMap_cons, List.filterMap_nil]
  repeat' split
  all_goals simp_all

theorem blockReports_eq :
    f.blockReports templates shape = f.lookupReports templates ++ f.skipReports templates shape := by
  have reports : (f.entries templates shape).reports = (templates.itemText f).reports ++ [] := rfl
  rw [blockReports, reports, List.append_nil, reports_itemText]
  rfl

theorem message_of_mem_lookupReports {entry : Log.Entry}
    (member : entry ∈ f.lookupReports templates) :
    entry.message = "Error executing template, using fallback" := by
  obtain ⟨⟨what, template⟩, -, found⟩ := List.mem_filterMap.1 member
  unfold lookupReport? at found
  split at found
  · cases found
  · cases found
    rfl

theorem message_of_mem_skipReports {entry : Log.Entry}
    (member : entry ∈ f.skipReports templates shape) :
    entry.message = "Encoding failed for feature, skipping" := by
  unfold skipReports at member
  split at member
  · cases member
  · obtain rfl := List.mem_singleton.1 member
    rfl

/-- Of the reports about a feature, those of features that are left out are its own. -/
theorem skips_blockReports :
    Log.skips (f.blockReports templates shape) = f.skipReports templates shape := by
  have lookups : Log.skips (f.lookupReports templates) = [] :=
    List.filter_eq_nil_iff.2 fun entry member => by
      rw [Log.Entry.isSkip, f.message_of_mem_lookupReports templates member]
      decide
  have skips : Log.skips (f.skipReports templates shape) = f.skipReports templates shape :=
    List.filter_eq_self.2 fun entry member => by
      rw [Log.Entry.isSkip, f.message_of_mem_skipReports templates shape member]
      decide
  rw [blockReports_eq, Log.skips_append, lookups, skips, List.nil_append]

/-- As many features are reported as left out as there are. -/
theorem length_skips_flatMap (features : List Feature) :
    (Log.skips (features.flatMap (·.blockReports templates shape))).length
      = features.countP (·.isSkipped templates shape) := by
  induction features with
  | nil => rfl
  | cons f rest ih =>
      have one : (f.skipReports templates shape).length
          = if f.isSkipped templates shape then 1 else 0 := by
        unfold skipReports isSkipped
        cases (f.entries templates shape).value <;> rfl
      rw [List.flatMap_cons, Log.skips_append, List.length_append, ih, skips_blockReports, one,
        List.countP_cons, Nat.add_comm]

end Feature

/-! ## The channel -/

theorem Request.message_of_mem_shape {r : Request} {standard : Scheme} {entry : Log.Entry}
    (member : entry ∈ (r.shape standard).reports) : entry.message ∈ Log.channelMessages := by
  simp only [shape, Logged.reports_bind, Logged.reports_pure, List.append_nil, scheme,
    continuation] at member
  rcases List.mem_append.1 member with scheme | continuation
  · split at scheme
    · obtain rfl := List.mem_singleton.1 scheme
      simp [Log.channelMessages]
    · cases scheme
  · split at continuation
    · obtain rfl := List.mem_singleton.1 continuation
      simp [Log.channelMessages]
    · cases continuation

theorem Catalog.message_of_mem_channelTextOf {calls : Nat → Catalog} {standIn what : String}
    {field : TypeInfo → Option String} {types : List TypeName} {entry : Log.Entry}
    (member : entry ∈ (channelTextOf calls standIn what field types).reports) :
    entry.message = "Unable to determine a valid " ++ what ++ " for feed" := by
  unfold channelTextOf at member
  split at member
  · cases member
  · obtain rfl := List.mem_singleton.1 member
    rfl

theorem Request.message_of_mem_channelLink {r : Request} {entry : Log.Entry}
    (member : entry ∈ r.channelLink.reports) : entry.message = "Unable to create feed url" := by
  unfold channelLink at member
  split at member
  · cases member
  · obtain rfl := List.mem_singleton.1 member
    rfl

namespace Publisher

variable (p : Publisher) (r : Request) (collections : List (List Feature))

/-- What is reported before the features is about the channel. -/
theorem message_of_mem_headerReports {entry : Log.Entry} (member : entry ∈ p.headerReports r) :
    entry.message ∈ Log.channelMessages := by
  rw [headerReports, List.mem_append, List.mem_append, List.mem_append] at member
  rcases member with ((shape | title) | description) | link
  · exact Request.message_of_mem_shape shape
  · rw [Catalog.message_of_mem_channelTextOf title]
    decide
  · rw [Catalog.message_of_mem_channelTextOf description]
    decide
  · rw [Request.message_of_mem_channelLink link]
    decide

theorem skips_headerReports : Log.skips (p.headerReports r) = [] :=
  Log.skips_eq_nil fun _ => p.message_of_mem_headerReports r

/-! ## Feeds -/

section Feeds

variable {output : Output} (accepts : output.room = none)

include accepts

theorem log_of_result_ok {counts : Summary}
    (complete : p.result r collections (p.deliver output .standard r collections) = .ok counts) :
    (p.deliver output .standard r collections).log
      = p.headerReports r
        ++ collections.flatten.flatMap (·.blockReports p.templates (r.shape p.standard).value)
        ++ [summaryReport counts] := by
  obtain ⟨ok, rfl⟩ := (p.result_eq_ok_iff r collections _ counts).1 complete
  rw [deliver_unlimited p r collections accepts] at ok ⊢
  exact congrArg Trace.log (feedTrace_of_ok p r collections ok)

theorem log_of_result_error {cause : FeedError}
    (failed : p.result r collections (p.deliver output .standard r collections) = .error cause) :
    ∃ stop : FirstLacking collections.flatten (r.shape p.standard).value.continuation,
      cause = .gml stop.feature.id (.unsupported stop.part.unwrap.kindName) ∧
      (p.deliver output .standard r collections).log
        = p.headerReports r
          ++ (stop.before ++ [stop.feature]).flatMap
              (·.blockReports p.templates (r.shape p.standard).value) := by
  have failure := (p.result_eq_error_iff r collections _ cause).1 failed
  rw [deliver_unlimited p r collections accepts] at failure ⊢
  obtain ⟨gml, stop, same⟩ := p.exists_firstLacking_of_failure r collections failure
  obtain ⟨_, _, _, -, -, -, trace⟩ := p.feedTrace_of_firstLacking r gml stop
  refine ⟨stop, same, (congrArg Trace.log (trace collections stop.after stop.features_eq)).trans ?_⟩
  simp only [List.flatMap_append, List.flatMap_singleton, List.append_assoc]

/-- A feed is reported as encoded only where there are counts. -/
theorem result_ok_of_encoded {entry : Log.Entry}
    (reported : entry ∈ (p.deliver output .standard r collections).log)
    (encoded : entry.message = "Feed encoded") :
    ∃ counts, p.result r collections (p.deliver output .standard r collections) = .ok counts := by
  cases ended : p.result r collections (p.deliver output .standard r collections) with
  | ok counts => exact ⟨counts, rfl⟩
  | error cause =>
      exfalso
      obtain ⟨stop, -, log⟩ := p.log_of_result_error r collections accepts ended
      rw [log, List.mem_append] at reported
      rcases reported with header | block
      · have message := p.message_of_mem_headerReports r header
        rw [encoded] at message
        exact absurd message (by decide)
      · obtain ⟨f, -, inside⟩ := List.mem_flatMap.1 block
        rw [f.blockReports_eq, List.mem_append] at inside
        rcases inside with lookup | skip
        · exact absurd (encoded.symm.trans (f.message_of_mem_lookupReports _ lookup)) (by decide)
        · exact absurd (encoded.symm.trans (f.message_of_mem_skipReports _ _ skip)) (by decide)

end Feeds

/-- **A feed reports each failure that it recovers from once, feature by feature.**  After
the reports about the channel, each feature has a warning with its identifier for every
lookup that failed, in the order of the lookups, and a warning with its identifier if it is
left out; these are as many as the features counted as left out.  The counts are reported
last if the feed comes to its end, and not at all otherwise.  A feed that fails has
reported up to the feature that it fails for, and nothing about those after it. -/
theorem deliver_reports (output : Output) (accepts : output.room = none) :
    (∀ entry ∈ p.headerReports r, entry.message ∈ Log.channelMessages) ∧
    (∀ counts, p.result r collections (p.deliver output .standard r collections) = .ok counts →
      (p.deliver output .standard r collections).log
          = p.headerReports r
            ++ collections.flatten.flatMap (fun f => f.lookupReports p.templates
                ++ f.skipReports p.templates (r.shape p.standard).value)
            ++ [⟨.debug, "Feed encoded",
                [("items", toString counts.items), ("continuations", toString counts.continuations),
                  ("skipped", toString counts.skipped)]⟩] ∧
        (Log.skips (p.deliver output .standard r collections).log).length = counts.skipped) ∧
    (∀ cause, p.result r collections (p.deliver output .standard r collections) = .error cause →
      ∃ stop : FirstLacking collections.flatten (r.shape p.standard).value.continuation,
        cause = .gml stop.feature.id (.unsupported stop.part.unwrap.kindName) ∧
        (p.deliver output .standard r collections).log
          = p.headerReports r
            ++ (stop.before ++ [stop.feature]).flatMap (fun f => f.lookupReports p.templates
                ++ f.skipReports p.templates (r.shape p.standard).value)) ∧
    ((∃ counts, p.result r collections (p.deliver output .standard r collections) = .ok counts) ↔
      ∃ counts : Summary, (p.deliver output .standard r collections).log.getLast?
        = some ⟨.debug, "Feed encoded",
            [("items", toString counts.items), ("continuations", toString counts.continuations),
              ("skipped", toString counts.skipped)]⟩) ∧
    ((∃ entry ∈ (p.deliver output .standard r collections).log, entry.message = "Feed encoded") →
      ∃ counts, p.result r collections (p.deliver output .standard r collections) = .ok counts) := by
  simp only [← Feature.blockReports_eq]
  refine ⟨fun _ => p.message_of_mem_headerReports r, fun counts complete => ?_,
    fun _ => p.log_of_result_error r collections accepts, ⟨?_, ?_⟩, ?_⟩
  · have log := p.log_of_result_ok r collections accepts complete
    obtain ⟨-, rfl⟩ := (p.result_eq_ok_iff r collections _ counts).1 complete
    obtain ⟨-, left_out, -⟩ := p.planSummary_spec r collections
    refine ⟨log, ?_⟩
    rw [log, Log.skips_append, Log.skips_append, skips_headerReports, List.nil_append,
      List.length_append, Feature.length_skips_flatMap, left_out]
    rfl
  · rintro ⟨counts, complete⟩
    rw [p.log_of_result_ok r collections accepts complete]
    exact ⟨counts, List.getLast?_concat ..⟩
  · rintro ⟨counts, last⟩
    exact p.result_ok_of_encoded r collections accepts (List.mem_of_getLast? last) rfl
  · rintro ⟨entry, reported, encoded⟩
    exact p.result_ok_of_encoded r collections accepts reported encoded

/-- A feature that is nowhere to be found has its warning for the template that failed,
before the one for being left out. -/
theorem deliver_reports_nowhere :
    (⟨none, ""⟩ : Output).room = none ∧
      ((Publisher.byId .latLong).deliver ⟨none, ""⟩ .standard (.ofOptions [])
          [[⟨"nowhere", .empty, none⟩]]).log
        = (Publisher.byId .latLong).headerReports (.ofOptions [])
          ++ [⟨.warn, "Error executing template, using fallback",
                [("feature_id", "nowhere"), ("template", "pubDate"),
                  ("error", "Attribute 'published' is not present on the feature")]⟩,
              ⟨.warn, "Encoding failed for feature, skipping",
                [("feature_id", "nowhere"), ("error", "feature has no geometry")]⟩,
              ⟨.debug, "Feed encoded",
                [("items", "0"), ("continuations", "0"), ("skipped", "1")]⟩] := by
  have complete : (Publisher.byId .latLong).result (.ofOptions []) [[⟨"nowhere", .empty, none⟩]]
      ((Publisher.byId .latLong).deliver ⟨none, ""⟩ .standard (.ofOptions [])
        [[⟨"nowhere", .empty, none⟩]])
      = .ok ⟨0, 0, 1⟩ := by
    decide +kernel
  obtain ⟨log, -⟩ := (deliver_reports (.byId .latLong) (.ofOptions []) [[⟨"nowhere", .empty, none⟩]]
    ⟨none, ""⟩ rfl).2.1 ⟨0, 0, 1⟩ complete
  have shape : ((Request.ofOptions []).shape .latLong).value = ⟨.latLong, false⟩ := by
    decide +kernel
  refine ⟨rfl, log.trans ?_⟩
  rw [Publisher.byId, shape, List.append_assoc]
  rfl

end Publisher

end GeoFeed

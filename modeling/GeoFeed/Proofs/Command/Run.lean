/-
# GeoFeed.Proofs.Command.Run -- a run writes after it has read

A run has steps that may fail: the settings are loaded, then the inputs are read in the order
in which they are named.  The first of them that fails ends the run (`StopsAt`), and nothing
has been written by then: not to the standard output, and not to the file for the feed, which
may well be one of the inputs.  If none fails, the features are those that the inputs held
before anything was written, and the output gets the bytes of their feed, all of them or
those before its failure.

What a run is about is told here without its steps.  The invocation is what the arguments say
(`Invocation.SaidBy`).  A content cannot be opened (`Shut`), or it spells features (`Holds`),
or settings are loaded from it (`Settings.Loads`).  `prepare` has a job exactly if everything
is held, and fails exactly where a run stops.  The feed is that of the request that the
invocation makes, with everything that the settings say (`deliveryOf`).

Main statement: `Disk.run_reads_then_writes`.
-/
import GeoFeed.Proofs.Command.Arguments
import GeoFeed.Proofs.Command.Disk
import GeoFeed.Proofs.Command.Loading
import GeoFeed.Proofs.Feed.Entry

namespace GeoFeed.Command

set_option autoImplicit false

open Calendar (ZoneRule)
open Settings (Loads)

/-! ## Steps in a row -/

section Row

variable {α β ε : Type} {f : α → Except ε β}

theorem bind_eq_error_iff {x : Except ε α} {g : α → Except ε β} {cause : ε} :
    (x >>= g) = .error cause ↔ x = .error cause ∨ ∃ a, x = .ok a ∧ g a = .error cause := by
  cases x with
  | error first => simp [bind, Except.bind]
  | ok a => simp [bind, Except.bind]

/-- **A row of steps fails as its first failing step does.** -/
theorem mapM_eq_error_iff {items : List α} {cause : ε} :
    items.mapM f = .error cause ↔ ∃ front item back, items = front ++ item :: back ∧
      (∀ earlier ∈ front, ∃ result, f earlier = .ok result) ∧ f item = .error cause := by
  induction items with
  | nil =>
      constructor
      · intro never
        cases never
      · rintro ⟨front, item, back, parted, -⟩
        simp at parted
  | cons item rest ih =>
      -- The failing step is the first one, or one of the rest behind a first that has a result.
      rw [List.mapM_cons, bind_eq_error_iff]
      constructor
      · rintro (failed | ⟨first, one, more⟩)
        · exact ⟨[], item, rest, rfl, by simp, failed⟩
        · rcases bind_eq_error_iff.1 more with later | ⟨_, _, never⟩
          · obtain ⟨front, other, back, rfl, before, failed⟩ := ih.1 later
            exact ⟨item :: front, other, back, rfl,
              List.forall_mem_cons.2 ⟨⟨first, one⟩, before⟩, failed⟩
          · cases never
      · rintro ⟨front, other, back, parted, before, failed⟩
        cases front with
        | nil =>
            obtain ⟨rfl, rfl⟩ := List.cons.inj parted
            exact .inl failed
        | cons first front =>
            obtain ⟨rfl, rfl⟩ := List.cons.inj parted
            obtain ⟨⟨result, one⟩, before⟩ := List.forall_mem_cons.1 before
            exact .inr ⟨result, one,
              bind_eq_error_iff.2 (.inl (ih.2 ⟨front, other, back, rfl, before, failed⟩))⟩

end Row

/-! ## What files hold -/

/-- What cannot be opened. -/
inductive Shut : FileContent → Prop where
  | missing : Shut .missing
  | closed : Shut .closed

/-- A content whose bytes spell features. -/
def Holds (content : FileContent) (features : List Feature) : Prop :=
  ∃ bytes, content = .bytes bytes ∧ Feature.listOfBytes? bytes = some features

/-- How reading an input fails: it cannot be opened, or it does not hold features. -/
inductive InputFails (content : FileContent) (path : String) : Failure → Prop where
  | opening (shut : Shut content) : InputFails content path (.openInput path)
  | parsing (opened : ¬ Shut content) (other : ∀ features, ¬ Holds content features) :
      InputFails content path (.parseInput path)

variable {read : String → FileContent} {path : String}

theorem readInput_eq_ok_iff {features : List Feature} :
    readInput read path = .ok features ↔ Holds (read path) features := by
  unfold readInput Holds
  cases read path with
  | bytes content =>
      simp only [FileContent.bytes.injEq, exists_eq_left']
      cases Feature.listOfBytes? content <;> simp
  | _ => simp

theorem readInput_of_shut (shut : Shut (read path)) :
    readInput read path = .error (.openInput path) := by
  unfold readInput
  generalize read path = content at shut
  cases shut <;> rfl

theorem readInput_of_opened (opened : ¬ Shut (read path))
    (other : ∀ features, ¬ Holds (read path) features) :
    readInput read path = .error (.parseInput path) := by
  cases result : readInput read path with
  | ok features => exact absurd (readInput_eq_ok_iff.1 result) (other features)
  | error failure =>
      unfold readInput at result
      generalize read path = content at result opened
      cases content with
      | missing => exact absurd .missing opened
      | closed => exact absurd .closed opened
      | unreadable => exact result.symm
      | bytes content =>
          dsimp only at result
          split at result
          · cases result
          · exact result.symm

theorem readInput_eq_error_iff {failure : Failure} :
    readInput read path = .error failure ↔ InputFails (read path) path failure := by
  constructor
  · intro failed
    have other : ∀ features, ¬ Holds (read path) features := by
      intro features holds
      rw [readInput_eq_ok_iff.2 holds] at failed
      cases failed
    by_cases shut : Shut (read path)
    · rw [readInput_of_shut shut] at failed
      cases failed
      exact .opening shut
    · rw [readInput_of_opened shut other] at failed
      cases failed
      exact .parsing shut other
  · intro fails
    cases fails with
    | opening shut => exact readInput_of_shut shut
    | parsing opened other => exact readInput_of_opened opened other

/-! ## Where a run stops -/

/-- How a run ends before it has written anything: at the settings, or else at the first of its
inputs that cannot be read. -/
inductive StopsAt (read : String → FileContent) (settingsPath : String) (inputs : List String) :
    Failure → Prop where
  | settings (fails : ∀ settings, ¬ Loads (read settingsPath) settings) :
      StopsAt read settingsPath inputs (.settings settingsPath)
  | input {front back : List String} {path : String} {failure : Failure}
      (loads : ∃ settings, Loads (read settingsPath) settings)
      (parted : inputs = front ++ path :: back)
      (before : ∀ earlier ∈ front, ∃ features, Holds (read earlier) features)
      (fails : InputFails (read path) path failure) : StopsAt read settingsPath inputs failure

/-- What all inputs hold, in their order. -/
def HoldAll (read : String → FileContent) (inputs : List String)
    (collections : List (List Feature)) : Prop :=
  List.Forall₂ (fun path features => Holds (read path) features) inputs collections

theorem mapM_readInput_eq_ok_iff {inputs : List String} {collections : List (List Feature)} :
    inputs.mapM (readInput read) = .ok collections ↔ HoldAll read inputs collections := by
  simp only [mapM_eq_ok_iff, readInput_eq_ok_iff, HoldAll]

theorem mapM_readInput_eq_error_iff {inputs : List String} {failure : Failure} :
    inputs.mapM (readInput read) = .error failure ↔ ∃ front path back,
      inputs = front ++ path :: back ∧
        (∀ earlier ∈ front, ∃ features, Holds (read earlier) features) ∧
        InputFails (read path) path failure := by
  simp only [mapM_eq_error_iff, readInput_eq_ok_iff, readInput_eq_error_iff]

/-- The settings file of an invocation: the one that it names, or else the usual one in the home
directory. -/
def settingsFile (i : Invocation) (home : String) : String :=
  match i.config with
  | some path => path
  | none =>
      (if home.isEmpty || home.endsWith "/" then home else home ++ "/")
        ++ ".config/georss/config.toml"

namespace Invocation

variable {i : Invocation} {home : String} {zoneAt : ZoneRule}

theorem settingsPath_eq (i : Invocation) (home : String) :
    i.settingsPath home = settingsFile i home := by
  unfold settingsPath settingsFile
  cases i.config <;> rfl

theorem prepare_of_loads {settings : Settings} (loads : Loads (read (settingsFile i home)) settings) :
    i.prepare home read zoneAt = (i.inputs.mapM (readInput read)).map fun collections =>
      ⟨publisherOf settings i.request.baseUrl zoneAt, i.request, collections⟩ := by
  have loaded := Settings.load_eq_ok_iff.2 loads
  unfold prepare
  simp only [settingsPath_eq, loaded]
  cases i.inputs.mapM (readInput read) <;> rfl

theorem prepare_of_not_loads (fails : ∀ settings, ¬ Loads (read (settingsFile i home)) settings) :
    i.prepare home read zoneAt = .error (.settings (settingsFile i home)) := by
  unfold prepare
  cases loaded : (Settings.load (read (settingsFile i home))).value with
  | ok settings => exact absurd (Settings.load_eq_ok_iff.1 loaded) (fails settings)
  | error cause =>
      simp only [settingsPath_eq, loaded]
      rfl

theorem prepare_of_holdAll {settings : Settings} {collections : List (List Feature)}
    (loads : Loads (read (settingsFile i home)) settings)
    (hold : HoldAll read i.inputs collections) : i.prepare home read zoneAt
      = .ok ⟨publisherOf settings i.request.baseUrl zoneAt, i.request, collections⟩ := by
  rw [prepare_of_loads loads, mapM_readInput_eq_ok_iff.2 hold]
  rfl

theorem prepare_of_stopsAt {failure : Failure}
    (stops : StopsAt read (settingsFile i home) i.inputs failure) :
    i.prepare home read zoneAt = .error failure := by
  cases stops with
  | settings fails => exact prepare_of_not_loads fails
  | input loads parted before fails =>
      obtain ⟨settings, loads⟩ := loads
      rw [prepare_of_loads loads, mapM_readInput_eq_error_iff.2 ⟨_, _, _, parted, before, fails⟩]
      rfl

/-- There is a step that stops a run, or everything is held. -/
theorem stopsAt_or_holdAll (read : String → FileContent) (settingsPath : String)
    (inputs : List String) : (∃ failure, StopsAt read settingsPath inputs failure) ∨
      ∃ settings collections,
        Loads (read settingsPath) settings ∧ HoldAll read inputs collections := by
  by_cases loads : ∃ settings, Loads (read settingsPath) settings
  · cases result : inputs.mapM (readInput read) with
    | error failure =>
        obtain ⟨front, path, back, parted, before, fails⟩ := mapM_readInput_eq_error_iff.1 result
        exact .inl ⟨failure, .input loads parted before fails⟩
    | ok collections =>
        obtain ⟨settings, loads⟩ := loads
        exact .inr ⟨settings, collections, loads, mapM_readInput_eq_ok_iff.1 result⟩
  · exact .inl ⟨_, .settings (not_exists.1 loads)⟩

end Invocation

/-! ## Runs -/

/-- The request of an invocation, in which everything that is not said has a default. -/
def requestOf (i : Invocation) : Request where
  baseUrl := i.baseUrl.getD "http://localhost:8080/geoserver/"
  outputFormat := i.outputFormat.getD "GeoRSS"
  types := i.typeNames.map fun name => TypeName.ofText name (i.namespaceUri.getD "")
  options := .ofList i.options

/-- What is delivered for an invocation: the feed of the features of its inputs for its request,
under the templates, the catalog, the system name and the scheme that the settings give. -/
def deliveryOf (settings : Settings) (zoneAt : ZoneRule) (i : Invocation)
    (collections : List (List Feature)) : Delivery FeedError :=
  (Publisher.deliverDocument
    { templates := .ofAttributes settings.templates (requestOf i).baseUrl zoneAt
      catalog := .ofTable settings.catalog
      systemName := settings.systemName
      standard := settings.scheme }
    {} none .standard (requestOf i) collections).delivery

namespace Disk

variable {d : Disk} {home : String} {arguments working : List String} {zoneAt : ZoneRule}
  {i : Invocation}

/-- **A run that is stopped has written nothing.** -/
theorem run_of_stopsAt (accepted : Invocation.ofArguments arguments = .ok i) {failure : Failure}
    (stops : StopsAt (d.read · working) (settingsFile i home) i.inputs failure) :
    d.run home arguments working zoneAt = ⟨.ok (some failure), [], d⟩ := by
  unfold run
  rw [accepted]
  dsimp only
  rw [Invocation.prepare_of_stopsAt stops]

theorem run_of_holdAll (accepted : Invocation.ofArguments arguments = .ok i) {settings : Settings}
    {collections : List (List Feature)} (loads : Loads (d.read (settingsFile i home) working) settings)
    (hold : HoldAll (d.read · working) i.inputs collections) :
    d.run home arguments working zoneAt
      = Job.publish ⟨publisherOf settings i.request.baseUrl zoneAt, i.request, collections⟩ i.output
          d working := by
  unfold run
  rw [accepted]
  dsimp only
  rw [Invocation.prepare_of_holdAll loads hold]

variable {settings : Settings} {collections : List (List Feature)}

theorem publish_standard :
    Job.publish ⟨publisherOf settings i.request.baseUrl zoneAt, i.request, collections⟩ none d
        working
      = ⟨.ok ((deliveryOf settings zoneAt i collections).failure.map .feed),
        (deliveryOf settings zoneAt i collections).bytes, d⟩ :=
  rfl

theorem publish_file {path : String} {names : List String}
    (target : d.target? working path = some names) :
    Job.publish ⟨publisherOf settings i.request.baseUrl zoneAt, i.request, collections⟩ (some path)
        d working
      = ⟨.ok ((deliveryOf settings zoneAt i collections).failure.map .feed), [],
          d.put names (byteArray (deliveryOf settings zoneAt i collections).bytes)⟩ := by
  have written (content : ByteArray) :
      d.write? working path content = some (d.put names content) := by
    rw [write?_eq, target]
    rfl
  unfold Job.publish
  dsimp only
  rw [written]
  rfl

/-- **A run writes only after it has read everything.**  The invocation of an accepted command
line is what its arguments say.  If the run is stopped, it ends with the failure of the step that
stops it, and nothing has been written.  Otherwise what it writes is the feed of the features that
its inputs held, also where it writes to one of them, and also where the feed then fails: the
bytes before the failure.  One of the two is the case. -/
theorem run_reads_then_writes (d : Disk) (home : String) (arguments working : List String)
    (zoneAt : ZoneRule) (i : Invocation) (accepted : Invocation.ofArguments arguments = .ok i) :
    i.SaidBy arguments ∧
    (∀ failure, StopsAt (d.read · working) (settingsFile i home) i.inputs failure →
      d.run home arguments working zoneAt = ⟨.ok (some failure), [], d⟩) ∧
    (∀ settings collections, Loads (d.read (settingsFile i home) working) settings →
      HoldAll (d.read · working) i.inputs collections →
      let delivery := deliveryOf settings zoneAt i collections
      (i.output = none → d.run home arguments working zoneAt
        = ⟨.ok (delivery.failure.map .feed), delivery.bytes, d⟩) ∧
      ∀ path, i.output = some path → (d.target? working path).isSome → ∃ written,
        d.run home arguments working zoneAt = ⟨.ok (delivery.failure.map .feed), [], written⟩ ∧
          d.Rewritten working path (byteArray delivery.bytes) written) ∧
    ((∃ failure, StopsAt (d.read · working) (settingsFile i home) i.inputs failure) ∨
      ∃ settings collections, Loads (d.read (settingsFile i home) working) settings ∧
        HoldAll (d.read · working) i.inputs collections) := by
  refine ⟨Invocation.ofArguments_eq_ok_iff.1 accepted, fun failure stops =>
    run_of_stopsAt accepted stops, ?_, Invocation.stopsAt_or_holdAll _ _ _⟩
  intro settings collections loads hold
  rw [run_of_holdAll accepted loads hold]
  constructor
  · intro standard
    rw [standard]
    exact publish_standard
  · intro path output target
    obtain ⟨names, target⟩ := Option.isSome_iff_exists.1 target
    rw [output]
    exact ⟨_, publish_file target, rewritten_put target _⟩

/-! ## A run over its own input -/

/-- Settings under which feeds are written in GML. -/
def mapSettings : Settings :=
  ⟨"maps", .gml, ⟨none, some "seen", none⟩, .ofList [("a:b", ⟨some "Ways", none⟩)]⟩

/-- A file that spells the settings. -/
def mapConfig : ByteArray :=
  ("system_name = \"maps\"\ndefault_encoding = \"gml\"\ntemplates.pub_date_attribute = \"seen\"\n"
    ++ "[catalog.\"a:b\"]\ntitle = \"Ways\"\n").toUTF8

theorem loads_mapConfig : Loads (.bytes mapConfig) mapSettings := by
  have read : ((Settings.load (.bytes mapConfig)).value.toOption.map fun settings =>
      (settings.systemName, settings.scheme, settings.templates, settings.catalog.toList))
      = some ("maps", .gml, ⟨none, some "seen", none⟩, [("a:b", ⟨some "Ways", none⟩)]) := by
    decide +kernel
  refine Settings.load_eq_ok_iff.1 ?_
  cases loaded : (Settings.load (.bytes mapConfig)).value with
  | error cause =>
      rw [loaded] at read
      cases read
  | ok settings =>
      rw [loaded] at read
      obtain ⟨systemName, scheme, templates, catalog⟩ := settings
      obtain ⟨rfl, rfl, rfl, entries⟩ : systemName = "maps" ∧ scheme = .gml ∧
          templates = ⟨none, some "seen", none⟩ ∧
          catalog.toList = [("a:b", ⟨some "Ways", none⟩)] := by
        simpa [Except.toOption] using read
      have same : catalog = .ofList [("a:b", ⟨some "Ways", none⟩)] := NameTable.ext_toList entries
      rw [same]
      rfl

/-- A way, and a collection that has no element in GML. -/
def mapFeatures : List Feature :=
  [⟨"way", .empty, some (.lineString [])⟩, ⟨"box", .empty, some (.collection [.collection []])⟩]

/-- A file that spells the features. -/
def mapInput : ByteArray :=
  ("[\x7b\"id\":\"way\",\"geometry\":\x7b\"LineString\":[]\x7d\x7d,"
    ++ "\x7b\"id\":\"box\",\"geometry\":\x7b\"GeometryCollection\":"
    ++ "[\x7b\"GeometryCollection\":[]\x7d]\x7d\x7d]").toUTF8

set_option maxRecDepth 2000 in
theorem holds_mapInput : Holds (.bytes mapInput) mapFeatures :=
  ⟨mapInput, rfl, by with_unfolding_all rfl⟩

def mapDisk : Disk :=
  ⟨[(["maps", "in.json"], mapInput), (["etc", "feed.toml"], mapConfig)]⟩

/-- A command line that names its only input as its output, in another spelling. -/
def mapArguments : List String :=
  ["--type-name", "a:b", "--config=/etc/feed.toml", "-ocontinuation=true", "--output",
    "/maps/./in.json", "in.json"]

def mapInvocation : Invocation where
  config := some "/etc/feed.toml"
  typeNames := ["a:b"]
  options := [("continuation", "true")]
  output := some "/maps/./in.json"
  inputs := ["in.json"]

/-- A run whose output is its only input, and whose feed fails at the second feature. -/
theorem run_reads_then_writes_over_input :
    Invocation.ofArguments mapArguments = .ok mapInvocation ∧
      mapInvocation.SaidBy mapArguments ∧
      Loads (mapDisk.read "/etc/feed.toml" ["maps"]) mapSettings ∧
      Holds (mapDisk.read "in.json" ["maps"]) mapFeatures ∧
      mapDisk.target? ["maps"] "in.json" = mapDisk.target? ["maps"] "/maps/./in.json" ∧
      ∃ written, mapDisk.run "/home" mapArguments ["maps"]
          = ⟨.ok (some (.feed (.gml "box" (.unsupported "GeometryCollection")))), [], written⟩ ∧
        written.read "in.json" ["maps"]
          = .bytes (byteArray (deliveryOf mapSettings .utc mapInvocation [mapFeatures]).bytes) := by
  have accepted : Invocation.ofArguments mapArguments = .ok mapInvocation := rfl
  have target : mapDisk.target? ["maps"] "/maps/./in.json" = some ["maps", "in.json"] := rfl
  have same : mapDisk.target? ["maps"] "in.json" = some ["maps", "in.json"] := rfl
  have failure : (deliveryOf mapSettings .utc mapInvocation [mapFeatures]).failure
      = some (.gml "box" (.unsupported "GeometryCollection")) := by
    decide +kernel
  obtain ⟨said, -, delivered, -⟩ :=
    run_reads_then_writes mapDisk "/home" mapArguments ["maps"] .utc mapInvocation accepted
  obtain ⟨written, run, rewritten⟩ := (delivered mapSettings [mapFeatures] loads_mapConfig
    (.cons holds_mapInput .nil)).2 "/maps/./in.json" rfl rfl
  rw [failure] at run
  exact ⟨accepted, said, loads_mapConfig, holds_mapInput, same.trans target.symm, written, run,
    rewritten.written _ (same.trans target.symm)⟩

end Disk

end GeoFeed.Command

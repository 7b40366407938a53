/-
# GeoFeed.Proofs.Feature.History -- attributes do not show how they were given

A feature has its attributes from a history: it was read from a record, whose object of
attributes may name one of them more than once, or attributes were set one after the other
(`Feature.after`).  Of all this only the last value of each name is left (`Feature.GivenBy`),
and a table is determined by its values.  So two features of one identifier and one geometry
are the same as soon as their histories end alike for each name, in whatever order the names
came, and what templates take from them is the same.

The names stand in the order of their bytes, each of them once, because the table is sorted
by its type and texts are in the order of their bytes (`Text.utf8Bytes_lt_iff`).

Main statement: `Feature.history_forgotten`.
-/
import GeoFeed.Feature.Decoding
import GeoFeed.Proofs.Text.ByteOrder
import GeoFeed.Template.Attributes
import Mathlib.Data.List.Induction

namespace GeoFeed

set_option autoImplicit false

open Calendar (ZoneRule)

namespace NameTable

variable {α : Type}

theorem mem_names_iff (t : NameTable α) (name : String) : name ∈ t.names ↔ (t.get? name).isSome := by
  rw [names, List.mem_map, Option.isSome_iff_exists]
  constructor
  · rintro ⟨⟨_, value⟩, member, rfl⟩
    exact ⟨value, (t.mem_toList_iff _ _).1 member⟩
  · rintro ⟨value, found⟩
    exact ⟨(name, value), (t.mem_toList_iff _ _).2 found, rfl⟩

/-- **The entries stand in the order of the bytes of their names.** -/
theorem pairwise_toList (t : NameTable α) :
    t.toList.Pairwise fun a b => utf8Bytes a.1.toList < utf8Bytes b.1.toList :=
  t.sorted.imp fun less => Text.utf8Bytes_lt_iff.2 less

theorem nodup_names (t : NameTable α) : t.names.Nodup := by
  rw [names, List.Nodup, List.pairwise_map]
  refine t.sorted.imp ?_
  intro a b less same
  rw [same] at less
  exact String.lt_irrefl _ less

end NameTable

namespace Feature

/-! ## Setting attributes -/

/-- A feature after attributes have been set, one after the other. -/
def after (f : Feature) (history : List (String × AttributeValue)) : Feature :=
  history.foldl (fun f (name, value) => f.setAttribute name value) f

/-- The value that a name was given last, in the history or else by the feature itself. -/
def lastValue? (f : Feature) (history : List (String × AttributeValue)) (name : String) :
    Option AttributeValue :=
  (history.reverse.lookup name).or (f.attribute? name)

theorem after_eq (f : Feature) (history : List (String × AttributeValue)) :
    f.after history = { f with
      attributes := history.foldl (fun t (name, value) => t.insert name value) f.attributes } := by
  induction history generalizing f with
  | nil => rfl
  | cons step rest ih => exact ih (f.setAttribute step.1 step.2)

theorem id_after (f : Feature) (history : List (String × AttributeValue)) :
    (f.after history).id = f.id := by
  rw [after_eq]

theorem geometry_after (f : Feature) (history : List (String × AttributeValue)) :
    (f.after history).geometry = f.geometry := by
  rw [after_eq]

/-- **What was set last stays.** -/
theorem attribute?_after (f : Feature) (history : List (String × AttributeValue)) (name : String) :
    (f.after history).attribute? name = f.lastValue? history name := by
  rw [attribute?, after_eq]
  exact NameTable.get?_foldl_insert history f.attributes name

theorem lastValue?_of_last (f : Feature) (before : List (String × AttributeValue)) (name : String)
    (value : AttributeValue) {later : List (String × AttributeValue)}
    (free : ∀ step ∈ later, step.1 ≠ name) :
    f.lastValue? (before ++ (name, value) :: later) name = some value := by
  have found : (before ++ (name, value) :: later).reverse.lookup name = some value := by
    refine List.lookup_eq_some_iff.2 ⟨later.reverse, before.reverse, by simp, ?_⟩
    intro step member
    exact bne_iff_ne.2 (Ne.symm (free step (List.mem_reverse.1 member)))
  rw [lastValue?, found]
  rfl

theorem lastValue?_of_unset (f : Feature) {history : List (String × AttributeValue)} {name : String}
    (free : ∀ step ∈ history, step.1 ≠ name) :
    f.lastValue? history name = f.attribute? name := by
  have missing : history.reverse.lookup name = none := by
    refine List.lookup_eq_none_iff.2 ?_
    intro step member
    exact bne_iff_ne.2 (Ne.symm (free step (List.mem_reverse.1 member)))
  rw [lastValue?, missing]
  rfl

/-! ## Records -/

open Json (Value)

/-- The members of the object that a record spells its attributes with. -/
def attributeMembers (record : Value) : List (Option String × Value) :=
  match (record.fields? ["id", "attributes", "geometry"]).bind (·.get? "attributes") with
  | some (.object members) => members
  | _ => []

/-- The value that an object of attributes gives a name last. -/
def lastMember? (members : List (Option String × Value)) (name : String) : Option AttributeValue :=
  (members.reverse.lookup (some name)).bind AttributeValue.ofJson?

/-- Of the members of an object the last one of each name counts, as of the steps of a
history. -/
theorem lookup_of_mapM {members : List (Option String × Value)}
    {history : List (String × AttributeValue)}
    (decoded : (members.mapM fun (name, value) => do
      pure (← name, ← AttributeValue.ofJson? value)) = some history) (name : String) :
    history.reverse.lookup name = lastMember? members name := by
  induction members using List.reverseRecOn generalizing history with
  | nil =>
      cases decoded
      rfl
  | append_singleton members member ih =>
      obtain ⟨key, value⟩ := member
      simp only [List.mapM_append, List.mapM_cons, List.mapM_nil, Option.bind_eq_bind,
        Option.bind_eq_some_iff, Option.pure_def, Option.some.injEq] at decoded
      obtain ⟨front, read, back, ⟨entry, ⟨given, rfl, last, spelled, rfl⟩, rest, rfl, rfl⟩, rfl⟩ :=
        decoded
      rw [lastMember?, List.reverse_append, List.reverse_append]
      simp only [List.reverse_cons, List.reverse_nil, List.nil_append, List.singleton_append]
      rw [NameTable.lookup_cons_eq, List.lookup_cons]
      by_cases same : name = given
      · subst same
        simp [spelled]
      · have other : (some name == some given) = false := by simpa using same
        rw [if_neg same, other]
        exact ih read

theorem get?_attributesOfJson? {room : Nat} {members : List (Option String × Value)}
    {table : NameTable AttributeValue}
    (read : attributesOfJson? room (.object members) = some table) (name : String) :
    table.get? name = lastMember? members name := by
  rw [attributesOfJson?] at read
  split at read
  · cases read
  · obtain ⟨history, decoded, filled⟩ := Option.bind_eq_some_iff.1 read
    cases filled
    rw [NameTable.get?_ofList]
    exact lookup_of_mapM decoded name

/-- The attributes of a record are those that its field for them spells, or none. -/
theorem exists_fields_of_ofJson? {room : Nat} {record : Value} {f : Feature}
    (read : ofJson? room record = some f) :
    ∃ inner fields, record.fields? ["id", "attributes", "geometry"] = some fields ∧
      (match fields.get? "attributes" with
        | some value => attributesOfJson? inner value
        | none => some .empty) = some f.attributes := by
  cases room with
  | zero => cases read
  | succ inner =>
      obtain ⟨fields, spelled, read⟩ := Option.bind_eq_some_iff.1 read
      obtain ⟨_, -, read⟩ := Option.bind_eq_some_iff.1 read
      obtain ⟨_, -, read⟩ := Option.bind_eq_some_iff.1 read
      refine ⟨inner, fields, spelled, ?_⟩
      dsimp only at read
      cases held : fields.get? "attributes" with
      | none =>
          rw [held] at read
          obtain ⟨table, filled, read⟩ := Option.bind_eq_some_iff.1 read
          split at read
          · obtain ⟨_, -, read⟩ := Option.bind_eq_some_iff.1 read
            cases read
            exact filled
          · cases read
            exact filled
      | some value =>
          rw [held] at read
          obtain ⟨table, filled, read⟩ := Option.bind_eq_some_iff.1 read
          split at read
          · obtain ⟨_, -, read⟩ := Option.bind_eq_some_iff.1 read
            cases read
            exact filled
          · cases read
            exact filled

/-- **A record gives each name the value of its last member.** -/
theorem attribute?_of_ofJson? {room : Nat} {record : Value} {f : Feature}
    (read : ofJson? room record = some f) (name : String) :
    f.attribute? name = lastMember? (attributeMembers record) name := by
  obtain ⟨inner, fields, spelled, filled⟩ := exists_fields_of_ofJson? read
  rw [attributeMembers, spelled, Option.bind_some]
  cases held : fields.get? "attributes" with
  | none =>
      rw [held] at filled
      rw [attribute?, ← Option.some.inj filled]
      rfl
  | some value =>
      rw [held] at filled
      cases value with
      | object members => exact get?_attributesOfJson? filled name
      | _ => cases filled

/-! ## Histories -/

/-- How a feature has come to its attributes, where `last` is the value that a name was given last:
attributes were set on a feature, or a record was read. -/
inductive GivenBy : (last : String → Option AttributeValue) → Feature → Prop where
  | steps (f : Feature) (history : List (String × AttributeValue)) :
      GivenBy (f.lastValue? history) (f.after history)
  | record {room : Nat} {record : Value} {f : Feature} (read : ofJson? room record = some f) :
      GivenBy (lastMember? (attributeMembers record)) f

variable {last last' : String → Option AttributeValue} {f g : Feature}

theorem GivenBy.attribute? (given : GivenBy last f) (name : String) :
    f.attribute? name = last name := by
  cases given with
  | steps f history => exact f.attribute?_after history name
  | record read => exact attribute?_of_ofJson? read name

/-- **Only the last values are left of a history.** -/
theorem GivenBy.unique (given : GivenBy last f) (given' : GivenBy last' g) (id : g.id = f.id)
    (geometry : g.geometry = f.geometry) (agree : ∀ name, last' name = last name) : g = f := by
  have attributes : g.attributes = f.attributes := by
    apply NameTable.ext_get?
    intro name
    exact (given'.attribute? name).trans ((agree name).trans (given.attribute? name).symm)
  cases f
  cases g
  cases id
  cases geometry
  cases attributes
  rfl

/-! ## Templates -/

/-- What templates take from a feature whose attributes have the given values. -/
structure ShownBy (f : Feature) (last : String → Option AttributeValue) (names : TemplateNames)
    (base : String) (zoneAt : ZoneRule) : Prop where
  title : (Templates.ofAttributes names base zoneAt).title f = match names.title with
    | none => .ok f.id
    | some name => match last name with
      | some value => .ok value.toText
      | none => .error (.missingAttribute name)
  published : (Templates.ofAttributes names base zoneAt).published f
    = .ok (((names.published.bind last).map (TemplateNames.publishedValue zoneAt)).getD "")
  enclosures : (Templates.ofAttributes names base zoneAt).enclosures f
    = .ok (((names.enclosures.bind last).map AttributeValue.toText).getD "")
  /-- One line for each name that has a value, in the order of the bytes of the names. -/
  description : ∃ rows : List (String × AttributeValue),
    (rows.Pairwise fun a b => utf8Bytes a.1.toList < utf8Bytes b.1.toList) ∧
    (∀ name value, (name, value) ∈ rows ↔ last name = some value) ∧
    (Templates.ofAttributes names base zoneAt).description f = .ok (if rows = [] then f.id
      else "\n".intercalate (rows.map fun (name, value) => name ++ ": " ++ value.toText))

theorem GivenBy.shownBy (given : GivenBy last f) (names : TemplateNames) (base : String)
    (zoneAt : ZoneRule) : f.ShownBy last names base zoneAt := by
  have values : f.attribute? = last := funext given.attribute?
  constructor
  case title =>
    rw [← values]
    rfl
  case published =>
    show names.publishedText zoneAt f = _
    rw [TemplateNames.publishedText, values]
  case enclosures =>
    show names.enclosureBlock f = _
    rw [TemplateNames.enclosureBlock, values]
  case description =>
    refine ⟨f.attributes.toList, f.attributes.pairwise_toList, ?_, ?_⟩
    · intro name value
      rw [f.attributes.mem_toList_iff, ← values]
      rfl
    · show TemplateNames.descriptionText f = _
      rw [TemplateNames.descriptionText]
      have empty : f.attributes.isEmpty = true ↔ f.attributes.toList = [] := List.isEmpty_iff
      by_cases none_ : f.attributes.toList = []
      · rw [if_pos (empty.2 none_), if_pos none_]
      · rw [if_neg (fun some_ => none_ (empty.1 some_)), if_neg none_]
        rfl

/-- **Attributes do not show how they were given.**  After a sequence of settings a name has the
value of the last one with that name, or else what the feature had for it, and sequences that
agree on the last values make the same feature of one.  However a feature has come to its
attributes, by settings or from a record: they have the last values, in the order of the bytes
of their names and each name once; a feature of the same identifier and geometry whose names
have the same last values is the same, so templates take the same from it; and what they take
is told by the last values. -/
theorem history_forgotten :
    (∀ (f : Feature) (before : List (String × AttributeValue)) (name : String)
        (value : AttributeValue) (later : List (String × AttributeValue)),
      (∀ step ∈ later, step.1 ≠ name) →
        (f.after (before ++ (name, value) :: later)).attribute? name = some value) ∧
    (∀ (f : Feature) (history : List (String × AttributeValue)) (name : String),
      (∀ step ∈ history, step.1 ≠ name) →
        (f.after history).attribute? name = f.attribute? name) ∧
    (∀ (f : Feature) (history history' : List (String × AttributeValue)),
      (∀ name, f.lastValue? history' name = f.lastValue? history name) →
        f.after history' = f.after history) ∧
    ∀ (last : String → Option AttributeValue) (f : Feature), GivenBy last f →
      (∀ name, f.attribute? name = last name) ∧
      (f.attributes.names.Pairwise fun a b => utf8Bytes a.toList < utf8Bytes b.toList) ∧
      (∀ name, f.attributes.names.count name = if (last name).isSome then 1 else 0) ∧
      (∀ (last' : String → Option AttributeValue) (g : Feature), GivenBy last' g →
        g.id = f.id → g.geometry = f.geometry → (∀ name, last' name = last name) →
          g = f ∧ ∀ names base zoneAt,
            (Templates.ofAttributes names base zoneAt).title g
              = (Templates.ofAttributes names base zoneAt).title f ∧
            (Templates.ofAttributes names base zoneAt).published g
              = (Templates.ofAttributes names base zoneAt).published f ∧
            (Templates.ofAttributes names base zoneAt).enclosures g
              = (Templates.ofAttributes names base zoneAt).enclosures f ∧
            (Templates.ofAttributes names base zoneAt).description g
              = (Templates.ofAttributes names base zoneAt).description f) ∧
      ∀ names base zoneAt, f.ShownBy last names base zoneAt := by
  refine ⟨?last, ?unset, ?sequences, ?given⟩
  case last =>
    intro f before name value later free
    rw [attribute?_after, f.lastValue?_of_last before name value free]
  case unset =>
    intro f history name free
    rw [attribute?_after, f.lastValue?_of_unset free]
  case sequences =>
    intro f history history' agree
    have id : (f.after history').id = (f.after history).id := by rw [id_after, id_after]
    have geometry : (f.after history').geometry = (f.after history).geometry := by
      rw [geometry_after, geometry_after]
    exact GivenBy.unique (.steps f history) (.steps f history') id geometry agree
  case given =>
    intro last f given
    refine ⟨given.attribute?, ?_, ?_, ?_, given.shownBy⟩
    · exact List.pairwise_map.2 f.attributes.pairwise_toList
    · intro name
      have held : name ∈ f.attributes.names ↔ (last name).isSome := by
        rw [NameTable.mem_names_iff, ← given.attribute? name]
        rfl
      rw [f.attributes.nodup_names.count]
      simp only [held]
    · intro last' g given' id geometry agree
      obtain rfl := given.unique given' id geometry agree
      exact ⟨rfl, fun names base zoneAt => ⟨rfl, rfl, rfl, rfl⟩⟩

/-- A record whose object of attributes names one of them twice. -/
def shadowingRecord : Value :=
  .object [(some "id", .string (some "p.1")), (some "attributes", .object
    [(some "b", .string (some "1")), (some "é", .bool true), (some "b", .string (some "2"))])]

/-- A record that names an attribute twice, and settings in the opposite order, make one
feature. -/
theorem history_forgotten_shadowed :
    ∃ f, ofJson? 127 shadowingRecord = some f ∧
      f = after { id := "p.1" } [("é", .bool true), ("b", .text "2")] ∧
      f.attribute? "b" = some (.text "2") ∧
      (Templates.ofAttributes {} "").description f = .ok "b: 2\né: true" := by
  have read : ofJson? 127 shadowingRecord = some ⟨"p.1",
      .ofList [("b", .text "1"), ("é", .bool true), ("b", .text "2")], none⟩ := by
    rfl
  obtain ⟨last, -, -, forgotten⟩ := history_forgotten
  obtain ⟨-, -, -, same, -⟩ :=
    forgotten _ _ (.steps { id := "p.1" } [("é", .bool true), ("b", .text "2")])
  have agree : ∀ name, lastMember? (attributeMembers shadowingRecord) name
      = lastValue? { id := "p.1" } [("é", .bool true), ("b", .text "2")] name := by
    intro name
    have members : attributeMembers shadowingRecord
        = [(some "b", .string (some "1")), (some "é", .bool true), (some "b", .string (some "2"))] := by
      rfl
    rw [members]
    simp only [lastMember?, lastValue?, List.reverse_cons, List.reverse_nil, List.nil_append,
      List.cons_append]
    by_cases b : name = "b"
    · subst b
      rfl
    · by_cases e : name = "é"
      · subst e
        rfl
      · have notB : (name == "b") = false := by simpa using b
        have notE : (name == "é") = false := by simpa using e
        simp only [List.lookup_cons, List.lookup_nil, Option.some_beq_some, notB, notE]
        rfl
  obtain ⟨one, -⟩ := same _ _ (.record read) rfl rfl agree
  refine ⟨_, read, one, ?_, ?_⟩
  · rw [one]
    exact last { id := "p.1" } [("é", .bool true)] "b" (.text "2") [] (by simp)
  · rfl

end Feature

end GeoFeed

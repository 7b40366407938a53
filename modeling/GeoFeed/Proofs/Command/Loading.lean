/-
# GeoFeed.Proofs.Command.Loading -- what a settings file says

Settings are loaded from a file that is missing, that is blank, or that is a document whose
entries spell them (`Loads`).  The entries spell a setting if they have a value for its key
that means it, or have no such key and the setting is the default (`HasKey`).  Other keys mean
nothing.

Each reader of a value comes with what the value means to it: a text, a scheme, a record of
texts, a catalog.

Main statement: `Settings.load_eq_ok_iff`.
-/
import GeoFeed.Proofs.Feed.Heading
import GeoFeed.Proofs.Request.Shape
import GeoFeed.Settings

namespace GeoFeed

set_option autoImplicit false

open Toml (Value Entries)

/-! ## What values mean -/

/-- What the entries have for a key: what its value means, or the default. -/
inductive HasKey {α : Type} (entries : Entries) (key : String) (means : Value → α → Prop)
    (standard : α) : α → Prop where
  | missing (none_ : entries.lookup key = none) : HasKey entries key means standard standard
  | given {v : Value} {a : α} (found : entries.lookup key = some v) (meant : means v a) :
      HasKey entries key means standard a

theorem field?_eq_some_iff {α : Type} {entries : Entries} {key : String} {read : Value → Option α}
    {means : Value → α → Prop} {standard a : α} (reads : ∀ v a, read v = some a ↔ means v a) :
    Settings.field? entries key read standard = some a ↔ HasKey entries key means standard a := by
  unfold Settings.field?
  constructor
  · intro kept
    cases found : entries.lookup key with
    | none =>
        rw [found] at kept
        cases kept
        exact .missing found
    | some v =>
        rw [found] at kept
        exact .given found ((reads v a).1 kept)
  · intro has
    cases has with
    | missing none_ => rw [none_]
    | given found meant =>
        rw [found]
        exact (reads _ _).2 meant

/-- A value that is a text. -/
def MeansText (v : Value) (text : String) : Prop := v = .string text

theorem text?_eq_some_iff {v : Value} {text : String} : v.text? = some text ↔ MeansText v text := by
  cases v <;> simp [Value.text?, MeansText]

/-- A field of a record that may be missing. -/
def MeansField (v : Value) (field : Option String) : Prop :=
  ∃ text, v = .string text ∧ field = some text

theorem textField?_eq_some_iff {entries : Entries} {name : String} {field : Option String} :
    Value.textField? entries name = some field ↔ HasKey entries name MeansField none field := by
  have reads : ∀ (v : Value) (field : Option String),
      v.text?.map some = some field ↔ MeansField v field := by
    intro v field
    cases v <;> simp [Value.text?, MeansField, eq_comm]
  rw [← field?_eq_some_iff reads]
  rfl

/-- The fields of a value that is a record with fields of the given names: those of a table, the
items of an array in their order, and none of a date. -/
inductive HasFields (names : List String) : Value → Entries → Prop where
  | table (entries : Entries) : HasFields names (.table entries) entries
  | array (items : List Value) : HasFields names (.array items) (names.zip items)
  | date (spelling : String) : HasFields names (.date spelling) []

theorem fields?_eq_some_iff {names : List String} {v : Value} {entries : Entries} :
    v.fields? names = some entries ↔ HasFields names v entries := by
  constructor
  · intro found
    cases v with
    | table =>
        cases found
        exact .table entries
    | array items =>
        cases found
        exact .array items
    | date spelling =>
        cases found
        exact .date spelling
    | _ => cases found
  · rintro ⟨⟩ <;> rfl

/-- The names of the schemes. -/
def schemeNames : List (String × Scheme) :=
  [("simple", .simple), ("gml", .gml), ("latlong", .latLong)]

/-- A value that names a scheme, alone or as the only key of a table with nothing behind it. -/
inductive MeansScheme : Value → Scheme → Prop where
  | alone {name : String} {scheme : Scheme} (named : (name, scheme) ∈ schemeNames) :
      MeansScheme (.string name) scheme
  | key {name : String} {v : Value} {scheme : Scheme} (named : (name, scheme) ∈ schemeNames)
      (hollow : v = .array [] ∨ v = .table []) : MeansScheme (.table [(name, v)]) scheme

theorem ofName?_eq_some_iff {name : String} {scheme : Scheme} :
    Scheme.ofName? name = some scheme ↔ (name, scheme) ∈ schemeNames := by
  unfold Scheme.ofName?
  split_ifs <;> simp_all [schemeNames, eq_comm]

theorem ofToml?_eq_some_iff {v : Value} {scheme : Scheme} :
    Scheme.ofToml? v = some scheme ↔ MeansScheme v scheme := by
  constructor
  · intro found
    unfold Scheme.ofToml? at found
    split at found
    · exact .alone (ofName?_eq_some_iff.1 found)
    · split at found
      · rename_i name v hollow
        refine .key (ofName?_eq_some_iff.1 found) ?_
        cases v <;> simp_all [Value.isHollow]
      · cases found
    · cases found
  · intro meant
    cases meant with
    | alone named => exact ofName?_eq_some_iff.2 named
    | key named hollow =>
        have found := ofName?_eq_some_iff.2 named
        rcases hollow with rfl | rfl
        · exact found
        · exact found

/-- A record of the title and the abstract of a feature type. -/
def MeansTypeInfo (v : Value) (info : TypeInfo) : Prop :=
  ∃ fields, HasFields ["title", "abstract"] v fields ∧
    HasKey fields "title" MeansField none info.title ∧
    HasKey fields "abstract" MeansField none info.abstract

/-- A record of the attributes from which texts are taken. -/
def MeansTemplates (v : Value) (names : TemplateNames) : Prop :=
  ∃ fields, HasFields ["title_attribute", "pub_date_attribute", "enclosure_attribute"] v fields ∧
    HasKey fields "title_attribute" MeansField none names.title ∧
    HasKey fields "pub_date_attribute" MeansField none names.published ∧
    HasKey fields "enclosure_attribute" MeansField none names.enclosures

/-- A table of feature types. -/
def MeansCatalog (v : Value) (catalog : NameTable TypeInfo) : Prop :=
  ∃ entries infos, v = .table entries ∧ catalog = .ofList infos ∧
    List.Forall₂ (fun entry info => info.1 = entry.1 ∧ MeansTypeInfo entry.2 info.2) entries infos

theorem typeInfo_ofToml?_eq_some_iff {v : Value} {info : TypeInfo} :
    TypeInfo.ofToml? v = some info ↔ MeansTypeInfo v info := by
  obtain ⟨title, abstract⟩ := info
  simp [TypeInfo.ofToml?, MeansTypeInfo, Option.bind_eq_some_iff, fields?_eq_some_iff,
    textField?_eq_some_iff]

theorem templates_ofToml?_eq_some_iff {v : Value} {names : TemplateNames} :
    TemplateNames.ofToml? v = some names ↔ MeansTemplates v names := by
  obtain ⟨title, published, enclosures⟩ := names
  simp [TemplateNames.ofToml?, MeansTemplates, Option.bind_eq_some_iff, fields?_eq_some_iff,
    textField?_eq_some_iff]

theorem catalogOfToml?_eq_some_iff {v : Value} {catalog : NameTable TypeInfo} :
    catalogOfToml? v = some catalog ↔ MeansCatalog v catalog := by
  constructor
  · intro found
    cases v with
    | table entries =>
        obtain ⟨infos, read, made⟩ := Option.bind_eq_some_iff.1 found
        cases made
        refine ⟨entries, infos, rfl, rfl, (mapM_eq_some_iff.1 read).imp ?_⟩
        intro entry info one
        obtain ⟨told, meant, made⟩ := Option.bind_eq_some_iff.1 one
        cases made
        exact ⟨rfl, typeInfo_ofToml?_eq_some_iff.1 meant⟩
    | _ => cases found
  · rintro ⟨entries, infos, rfl, rfl, meant⟩
    refine Option.bind_eq_some_iff.2 ⟨infos, mapM_eq_some_iff.2 (meant.imp ?_), rfl⟩
    rintro ⟨name, v⟩ ⟨_, info⟩ ⟨rfl, one⟩
    exact Option.bind_eq_some_iff.2 ⟨info, typeInfo_ofToml?_eq_some_iff.2 one, rfl⟩

/-! ## Settings -/

namespace Settings

/-- **Settings that the entries of a document spell.** -/
structure SpelledBy (entries : Entries) (settings : Settings) : Prop where
  systemName : HasKey entries "system_name" MeansText "georss" settings.systemName
  scheme : HasKey entries "default_encoding" MeansScheme .simple settings.scheme
  templates : HasKey entries "templates" MeansTemplates ⟨none, none, none⟩ settings.templates
  catalog : HasKey entries "catalog" MeansCatalog .empty settings.catalog

theorem ofEntries?_eq_some_iff {entries : Entries} {settings : Settings} :
    ofEntries? entries = some settings ↔ SpelledBy entries settings := by
  constructor
  · intro found
    obtain ⟨systemName, one, found⟩ := Option.bind_eq_some_iff.1 found
    obtain ⟨scheme, two, found⟩ := Option.bind_eq_some_iff.1 found
    obtain ⟨templates, three, found⟩ := Option.bind_eq_some_iff.1 found
    obtain ⟨catalog, four, made⟩ := Option.bind_eq_some_iff.1 found
    cases made
    exact {
      systemName := (field?_eq_some_iff fun _ _ => text?_eq_some_iff).1 one
      scheme := (field?_eq_some_iff fun _ _ => ofToml?_eq_some_iff).1 two
      templates := (field?_eq_some_iff fun _ _ => templates_ofToml?_eq_some_iff).1 three
      catalog := (field?_eq_some_iff fun _ _ => catalogOfToml?_eq_some_iff).1 four }
  · intro spelled
    have one := (field?_eq_some_iff fun _ _ => text?_eq_some_iff).2 spelled.systemName
    have two := (field?_eq_some_iff fun _ _ => ofToml?_eq_some_iff).2 spelled.scheme
    have three := (field?_eq_some_iff fun _ _ => templates_ofToml?_eq_some_iff).2 spelled.templates
    have four := (field?_eq_some_iff fun _ _ => catalogOfToml?_eq_some_iff).2 spelled.catalog
    exact Option.bind_eq_some_iff.2 ⟨_, one, Option.bind_eq_some_iff.2 ⟨_, two,
      Option.bind_eq_some_iff.2 ⟨_, three, Option.bind_eq_some_iff.2 ⟨_, four, rfl⟩⟩⟩⟩

/-- The settings where nothing is said. -/
def standard : Settings := ⟨"georss", .simple, ⟨none, none, none⟩, .empty⟩

/-- **A content from which settings are loaded.** -/
inductive Loads : FileContent → Settings → Prop where
  | missing : Loads .missing standard
  | blank {content : ByteArray} {text : String} (small : content.size ≤ 1048576)
      (decoded : String.fromUTF8? content = some text)
      (blank : ∀ c ∈ text.toList, Text.isBlank c = true) : Loads (.bytes content) standard
  | document {content : ByteArray} {text : String} {entries : Entries} {settings : Settings}
      (small : content.size ≤ 1048576) (decoded : String.fromUTF8? content = some text)
      (told : ¬ ∀ c ∈ text.toList, Text.isBlank c = true)
      (read : Toml.document? text = some entries) (spelled : SpelledBy entries settings) :
      Loads (.bytes content) settings

theorem ofText_of_blank {text : String} (blank : ∀ c ∈ text.toList, Text.isBlank c = true) :
    (ofText text).value = .ok standard := by
  have empty : (Text.trim text).isEmpty = true := by
    rw [Text.isEmpty_trim]
    exact List.all_eq_true.2 blank
  rw [ofText, if_pos empty]
  rfl

theorem ofText_eq_ok_iff {text : String} {settings : Settings}
    (told : ¬ ∀ c ∈ text.toList, Text.isBlank c = true) :
    (ofText text).value = .ok settings
      ↔ ∃ entries, Toml.document? text = some entries ∧ SpelledBy entries settings := by
  have some_ : ¬ (Text.trim text).isEmpty = true := by
    rw [Text.isEmpty_trim]
    exact fun blank => told (List.all_eq_true.1 blank)
  rw [ofText, if_neg some_]
  cases read : Toml.document? text with
  | none => simp
  | some entries =>
      simp only [Option.some.injEq, exists_eq_left', ← ofEntries?_eq_some_iff, Logged.value_bind]
      cases ofEntries? entries with
      | none => simp
      | some made => simp [Logged.report]

/-- A file that is not too large is read as its text. -/
theorem load_bytes {content : ByteArray} {text : String} (small : content.size ≤ 1048576)
    (decoded : String.fromUTF8? content = some text) : load (.bytes content) = ofText text := by
  have fits : ¬ sizeLimit < content.size := Nat.not_lt.2 small
  unfold load
  dsimp only
  rw [if_neg fits, decoded]

/-- **Settings are loaded exactly from what spells them.** -/
theorem load_eq_ok_iff {content : FileContent} {settings : Settings} :
    (load content).value = .ok settings ↔ Loads content settings := by
  constructor
  · intro loaded
    cases content with
    | missing =>
        cases loaded
        exact .missing
    | closed => cases loaded
    | unreadable => cases loaded
    | bytes content =>
        by_cases small : content.size ≤ 1048576
        · cases decoded : String.fromUTF8? content with
          | none =>
              have fits : ¬ sizeLimit < content.size := Nat.not_lt.2 small
              simp [load, if_neg fits, decoded] at loaded
          | some text =>
              rw [load_bytes small decoded] at loaded
              by_cases blank : ∀ c ∈ text.toList, Text.isBlank c = true
              · rw [ofText_of_blank blank] at loaded
                cases loaded
                exact .blank small decoded blank
              · obtain ⟨entries, read, spelled⟩ := (ofText_eq_ok_iff blank).1 loaded
                exact .document small decoded blank read spelled
        · have large : sizeLimit < content.size := Nat.lt_of_not_le small
          simp [load, if_pos large] at loaded
  · intro loads
    cases loads with
    | missing => rfl
    | blank small decoded blank => rw [load_bytes small decoded, ofText_of_blank blank]
    | document small decoded told read spelled =>
        rw [load_bytes small decoded]
        exact (ofText_eq_ok_iff told).2 ⟨_, read, spelled⟩

end Settings

end GeoFeed

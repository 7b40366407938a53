/-
# GeoFeed.Settings -- the settings of a service

Settings are kept in a TOML file: the name of the system, the scheme of requests
that ask for none, the attributes from which texts are taken, and the catalog.
Everything has a default, so a missing or blank file is as good as one that says
nothing.  Keys that mean nothing are reported, in the order of their names, and
otherwise passed over.

A record may also be given as an array of its fields in their order, and a scheme
as a table whose only key names it.
-/
import GeoFeed.Catalog
import GeoFeed.Log
import GeoFeed.Scheme
import GeoFeed.Template.Attributes
import GeoFeed.Text.Blank
import GeoFeed.Toml.Reader

namespace GeoFeed

set_option autoImplicit false

structure Settings where
  systemName : String := "georss"
  scheme : Scheme := .simple
  templates : TemplateNames := {}
  catalog : NameTable TypeInfo := .empty

/-- Why there are no settings. -/
inductive SettingsError where
  | unreadable
  | invalid
  | tooLarge (size : Nat)
deriving Repr, DecidableEq

/-- The size that a settings file must not exceed, in bytes. -/
def Settings.sizeLimit : Nat := 1048576

def SettingsError.message : SettingsError → String
  | unreadable => "Failed to read config file"
  | invalid => "Invalid TOML in config file"
  | tooLarge size =>
      "Config file too large: Config file is " ++ toString size ++ " bytes (max "
        ++ toString Settings.sizeLimit ++ " bytes)"

/-- What an attempt to read a file has given. -/
inductive FileContent where
  | missing
  /-- The file could not be opened, though something is there. -/
  | closed
  /-- The file was opened, but not read. -/
  | unreadable
  | bytes (content : ByteArray)

open Toml (Value Entries)

/-! ## Decoding -/

namespace Toml.Value

/-- The fields of a record with the given names.  A date is a record of none of
them. -/
def fields? (names : List String) : Value → Option Entries
  | table entries => some entries
  | array items => some (names.zip items)
  | date _ => some []
  | _ => none

/-- A field that may be missing and must be text. -/
def textField? (entries : Entries) (name : String) : Option (Option String) :=
  match entries.lookup name with
  | none => some none
  | some v => v.text?.map some

end Toml.Value

/-- The scheme that a value names. -/
def Scheme.ofToml? : Value → Option Scheme
  | .string name => ofName? name
  | .table [(name, v)] => if v.isHollow then ofName? name else none
  | _ => none

def TypeInfo.ofToml? (v : Value) : Option TypeInfo := do
  let entries ← v.fields? ["title", "abstract"]
  pure ⟨← Value.textField? entries "title", ← Value.textField? entries "abstract"⟩

def TemplateNames.ofToml? (v : Value) : Option TemplateNames := do
  let entries ← v.fields? ["title_attribute", "pub_date_attribute", "enclosure_attribute"]
  pure ⟨← Value.textField? entries "title_attribute", ← Value.textField? entries "pub_date_attribute",
    ← Value.textField? entries "enclosure_attribute"⟩

/-- The catalog that a table spells. -/
def catalogOfToml? : Value → Option (NameTable TypeInfo)
  | .table entries => do
      let infos ← entries.mapM fun (name, v) => do pure (name, ← TypeInfo.ofToml? v)
      pure (.ofList infos)
  | _ => none

namespace Settings

/-- The keys that mean something. -/
def knownKeys : List String := ["system_name", "default_encoding", "templates", "catalog"]

/-- A key's value, or the default where the key is missing. -/
def field? {α : Type} (entries : Entries) (key : String) (read : Value → Option α) (standard : α) :
    Option α :=
  match entries.lookup key with
  | none => some standard
  | some v => read v

def ofEntries? (entries : Entries) : Option Settings := do
  let standard : Settings := {}
  pure {
    systemName := ← field? entries "system_name" Value.text? standard.systemName
    scheme := ← field? entries "default_encoding" Scheme.ofToml? standard.scheme
    templates := ← field? entries "templates" TemplateNames.ofToml? standard.templates
    catalog := ← field? entries "catalog" catalogOfToml? standard.catalog }

/-! ## Loading -/

/-- The reports of the keys that mean nothing, in the order of their names. -/
def unknownKeyReports (entries : Entries) : List Log.Entry :=
  ((NameTable.ofList entries).names.filter (!knownKeys.contains ·)).map fun key =>
    ⟨.warn, "Unknown key in config file, ignoring", [("key", key)]⟩

def defaultsReport (reason : String) : Log.Entry :=
  ⟨.debug, reason ++ ", using defaults", []⟩

def loadedReport (s : Settings) : Log.Entry :=
  ⟨.info, "Loaded configuration",
    [("system", s.systemName), ("encoding", s.scheme.reportName),
      ("catalog_entries", toString s.catalog.size)]⟩

/-- The settings that a text spells. -/
def ofText (s : String) : Logged (Except SettingsError Settings) :=
  if (Text.trim s).isEmpty then .report (defaultsReport "Config file is empty") (.ok {})
  else
    match Toml.document? s with
    | none => pure (.error .invalid)
    | some entries => do
        let known : Logged Unit := ⟨(), unknownKeyReports entries⟩
        known
        match ofEntries? entries with
        | some settings => .report settings.loadedReport (.ok settings)
        | none => pure (.error .invalid)

/-- The settings that a file holds. -/
def load : FileContent → Logged (Except SettingsError Settings)
  | .missing => .report (defaultsReport "No config file found") (.ok {})
  | .closed => pure (.error .unreadable)
  | .unreadable => pure (.error .unreadable)
  | .bytes content =>
      if sizeLimit < content.size then pure (.error (.tooLarge content.size))
      else
        match String.fromUTF8? content with
        | some s => ofText s
        | none => pure (.error .unreadable)

end Settings

end GeoFeed

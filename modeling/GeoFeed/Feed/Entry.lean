/-
# GeoFeed.Feed.Entry -- the entries of a feature

A feature becomes one primary entry and, where they are asked for, a continuation
entry for every further part of its geometry.  The latitude-longitude scheme
locates the geometry as a whole and so never has continuations; it leaves out a
feature it cannot locate.  Under the other schemes the primary entry carries the
first part, and a feature without a geometry has an entry all the same.

A primary entry is identified by its link.  A continuation is identified by the
link, or else the identifier of the feature, and the number of its part, so the
entries of a feature are told apart.
-/
import GeoFeed.Feed.ItemText
import GeoFeed.Geometry.Markup
import GeoFeed.Request.Basic

namespace GeoFeed

set_option autoImplicit false

/-- Why a feature is left out. -/
inductive SkipReason where
  | missingGeometry
  | geometry (cause : GeometryError)
deriving Repr, DecidableEq

def SkipReason.message : SkipReason → String
  | missingGeometry => "feature has no geometry"
  | geometry cause => cause.message

structure Entry where
  title : String
  link : Option String
  guid : Option String
  description : String
  published : Option String
  enclosures : List Enclosure
  markup : Option Markup

/-- The entries of one feature. -/
structure EntryGroup where
  primary : Entry
  continuations : List Entry

def EntryGroup.toList (group : EntryGroup) : List Entry :=
  group.primary :: group.continuations

/-- The geometries that the entries of a feature carry, the primary one first. -/
def Feature.located (f : Feature) (shape : Shape) : Except SkipReason (List Geometry) :=
  match shape.scheme, f.geometry with
  | .latLong, none => .error .missingGeometry
  | .latLong, some whole => .ok [whole]
  | _, none => .ok []
  | _, some whole =>
      match whole.parts? with
      | none => .ok [whole]
      | some parts => .ok (if shape.continuation then parts else parts.take 1)

/-- The markup of a geometry, where an entry can carry it. -/
def Scheme.entryMarkup (scheme : Scheme) (g : Geometry) : Except SkipReason (Option Markup) :=
  match scheme.markup g with
  | .ok markup => .ok markup
  | .error cause => .error (.geometry cause)

namespace Entry

def primary (text : ItemText) (markup : Option Markup) : Entry where
  title := text.title
  link := text.link
  guid := text.link
  description := text.description
  published := text.published
  enclosures := text.enclosures
  markup := markup

/-- What identifies the continuation for the part of the given number. -/
def continuationGuid (id : String) (text : ItemText) (number : Nat) : String :=
  text.link.getD id ++ "#" ++ String.ofList (Decimal.digitsOf number)

def continuation (id : String) (text : ItemText) (number : Nat) (markup : Option Markup) : Entry where
  title := "Continuation of " ++ text.title
  link := text.link
  guid := some (continuationGuid id text number)
  description := "Continuation of " ++ text.title
  published := none
  enclosures := []
  markup := markup

/-- Continuations with consecutive numbers. -/
def continuationsFrom (id : String) (text : ItemText) (number : Nat) :
    List (Option Markup) → List Entry
  | [] => []
  | markup :: rest =>
      continuation id text number markup :: continuationsFrom id text (number + 1) rest

end Entry

/-- The entries of a feature with the given texts and markups. -/
def EntryGroup.ofMarkups (id : String) (text : ItemText) : List (Option Markup) → EntryGroup
  | [] => ⟨.primary text none, []⟩
  | first :: rest => ⟨.primary text first, Entry.continuationsFrom id text 1 rest⟩

/-- The entries of a feature whose texts are known. -/
def Feature.group (f : Feature) (shape : Shape) (text : ItemText) : Except SkipReason EntryGroup := do
  let geometries ← f.located shape
  let markups ← geometries.mapM shape.scheme.entryMarkup
  pure (.ofMarkups f.id text markups)

/-- The entries of a feature; its texts are resolved even if it is then left out. -/
def Feature.entries (f : Feature) (templates : Templates) (shape : Shape) :
    Logged (Except SkipReason EntryGroup) := do
  let text ← templates.itemText f
  pure (f.group shape text)

end GeoFeed

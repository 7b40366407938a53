/-
# GeoFeed.Template.Attributes -- texts taken from attributes

These templates need no template files.  Some texts are the values of attributes
that the service names: a title attribute must then be there, while a missing
time of publication or enclosure block is an empty text.  Dates are shown as a
feed shows them, in the zone of the place where the service runs; that is the zero
meridian where nothing else is said.

Where nothing is named, the title is the identifier of the feature.  The link
asks the service for the feature, and the description lists all attributes, one
on a line, in the order of their names.
-/
import GeoFeed.Template.Basic
import GeoFeed.Url.Service

namespace GeoFeed

set_option autoImplicit false

/-- The attributes from which texts are taken. -/
structure TemplateNames where
  title : Option String := none
  published : Option String := none
  enclosures : Option String := none
deriving Repr, DecidableEq

namespace TemplateNames

def titleText (names : TemplateNames) : Template := fun f =>
  match names.title with
  | none => .ok f.id
  | some name =>
      match f.attribute? name with
      | some value => .ok value.toText
      | none => .error (.missingAttribute name)

/-- The address under which the service at `base` has a feature. -/
def linkText (base : String) : Template := fun f =>
  match Url.service base "wfs" [("request", "GetFeature"), ("featureid", f.id)] with
  | .ok url => .ok url.toText
  | .error e => .error (.render ("Cannot build link for " ++ f.id ++ ": " ++ e.message))

/-- The line of the description for one attribute. -/
def attributeLine (name : String) (value : AttributeValue) : String :=
  name ++ ": " ++ value.toText

def descriptionText : Template := fun f =>
  if f.attributes.isEmpty then .ok f.id
  else
    .ok (String.intercalate "\n"
      (f.attributes.toList.map fun (name, value) => attributeLine name value))

open Calendar (ZoneRule Timestamp)

/-- A time of publication as a feed shows it. -/
def publishedValue (zoneAt : ZoneRule) : AttributeValue → String
  | .date value => Timestamp.feedText ⟨value.instant, zoneAt value.instant⟩
  | other => other.toText

def publishedText (names : TemplateNames) (zoneAt : ZoneRule) : Template := fun f =>
  .ok (((names.published.bind f.attribute?).map (publishedValue zoneAt)).getD "")

def enclosureBlock (names : TemplateNames) : Template := fun f =>
  .ok (((names.enclosures.bind f.attribute?).map AttributeValue.toText).getD "")

end TemplateNames

/-- The templates of a service at `base`. -/
def Templates.ofAttributes (names : TemplateNames) (base : String)
    (zoneAt : Calendar.ZoneRule := Calendar.ZoneRule.utc) : Templates where
  title := names.titleText
  link := TemplateNames.linkText base
  description := TemplateNames.descriptionText
  published := names.publishedText zoneAt
  enclosures := names.enclosureBlock

end GeoFeed

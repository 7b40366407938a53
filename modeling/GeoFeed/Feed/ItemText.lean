/-
# GeoFeed.Feed.ItemText -- the texts of an item

Every text of an item comes from one template, and every template that fails is
made up for on its own: the identifier of the feature takes the place of a title
or a description, and there is simply no link, no time of publication or no
enclosure.  Each failure is reported once, in the order of the texts.

A link and a time of publication are trimmed, and there is none where nothing is
left; titles and descriptions are taken as they are.
-/
import GeoFeed.Enclosure
import GeoFeed.Log
import GeoFeed.Template.Basic
import GeoFeed.Text.Blank

namespace GeoFeed

set_option autoImplicit false

structure ItemText where
  title : String
  link : Option String
  description : String
  published : Option String
  enclosures : List Enclosure
deriving Repr, DecidableEq

/-- The report of a failing template. -/
def templateReport (f : Feature) (what : String) (e : TemplateError) : Log.Entry :=
  ⟨.warn, "Error executing template, using fallback",
    [("feature_id", f.id), ("template", what), ("error", e.message)]⟩

/-- What becomes of the answer of a template; a failure is reported and made up
for. -/
def Template.resolve {α : Type} (template : Template) (what : String) (f : Feature)
    (use : String → α) (standIn : α) : Logged α :=
  match template f with
  | .ok text => pure (use text)
  | .error e => .report (templateReport f what e) standIn

namespace Templates

variable (templates : Templates)

def itemTitle (f : Feature) : Logged String :=
  templates.title.resolve "title" f id f.id

def itemLink (f : Feature) : Logged (Option String) :=
  templates.link.resolve "link" f Text.nonBlank? none

def itemDescription (f : Feature) : Logged String :=
  templates.description.resolve "description" f id f.id

def itemPublished (f : Feature) : Logged (Option String) :=
  templates.published.resolve "pubDate" f Text.nonBlank? none

def itemEnclosures (f : Feature) : Logged (List Enclosure) :=
  templates.enclosures.resolve "enclosure" f Enclosure.listOfBlock []

/-- The texts of the item of a feature. -/
def itemText (f : Feature) : Logged ItemText := do
  let title ← templates.itemTitle f
  let link ← templates.itemLink f
  let description ← templates.itemDescription f
  let published ← templates.itemPublished f
  let enclosures ← templates.itemEnclosures f
  pure ⟨title, link, description, published, enclosures⟩

end Templates

end GeoFeed

/-
# GeoFeed.Feed.Plan -- a feed as a sequence of steps

Everything about a feed is known before its first byte is written: which pieces
are written, for which feature, and what is reported in between.  A plan lists
these steps in order; only what a refused write or a failing encoder makes of
them is left to the delivery.

A feed consists of its header, one block of steps for every feature and the end
of the channel.  The block of a feature depends on nothing but the feature and
the settings of the feed (`blockSteps`).

The catalog and the templates are asked many times for one feed, and may answer
otherwise each time; a `Service` has what they are at each call.  A `Publisher` is
the service whose collaborators do not change.
-/
import GeoFeed.Feed.ChannelText
import GeoFeed.Feed.Entry
import GeoFeed.Geometry.Writing

namespace GeoFeed

set_option autoImplicit false

/-- A service that publishes feeds, with collaborators as they are at each call. -/
structure Service where
  /-- The catalog when it is asked for the title of the channel, for the type in a place. -/
  titles : (place : Nat) → Catalog
  /-- The catalog when it is asked for the description of the channel. -/
  abstracts : (place : Nat) → Catalog
  /-- The templates when they are asked for the feature in a place of the feed. -/
  templates : (place : Nat) → Templates
  systemName : String
  /-- The scheme of requests that ask for none. -/
  standard : Scheme

/-- A service whose collaborators do not change. -/
structure Publisher where
  templates : Templates
  catalog : Catalog
  systemName : String
  /-- The scheme of requests that ask for none. -/
  standard : Scheme

/-- The service of a publisher. -/
def Publisher.service (p : Publisher) : Service where
  titles _ := p.catalog
  abstracts _ := p.catalog
  templates _ := p.templates
  systemName := p.systemName
  standard := p.standard

/-- What a finished feed has counted. -/
structure Summary where
  items : Nat := 0
  continuations : Nat := 0
  skipped : Nat := 0
deriving Repr, DecidableEq

/-- A step of a feed. -/
inductive Step where
  | report (entry : Log.Entry)
  /-- A piece outside all items, or in an item of the feature named. -/
  | write (feature : String) (piece : Piece)

namespace Step

def events (es : List Xml.Event) : List Step :=
  es.map fun e => write "" (.event e)

/-- The steps that a value leads to, after those that report how it came about. -/
def after {α : Type} (x : Logged α) (f : α → List Step) : List Step :=
  x.reports.map report ++ f x.value

end Step

/-! ## Entries -/

namespace Entry

def enclosureEvent (e : Enclosure) : Xml.Event :=
  .empty "enclosure" [("url", e.url), ("length", e.length), ("type", e.mediaType)]

/-- The events of an item before its geometry. -/
def frontEvents (entry : Entry) : List Xml.Event :=
  .opening "item" [] ::
    (Xml.element "title" entry.title
      ++ (entry.published.map (Xml.element "pubDate")).getD []
      ++ (entry.link.map (Xml.cdataElement "link")).getD []
      ++ (entry.guid.map (Xml.cdataElement "guid")).getD []
      ++ Xml.cdataElement "description" entry.description
      ++ entry.enclosures.map enclosureEvent)

/-- The pieces of an item. -/
def pieces (entry : Entry) : List Piece :=
  Piece.events entry.frontEvents
    ++ (entry.markup.map Markup.pieces).getD []
    ++ Piece.events [.closing "item"]

end Entry

/-- The pieces of the items of one feature. -/
def EntryGroup.pieces (group : EntryGroup) : List Piece :=
  group.toList.flatMap Entry.pieces

/-! ## Features -/

/-- The report of a feature that is left out. -/
def skipReport (f : Feature) (reason : SkipReason) : Log.Entry :=
  ⟨.warn, "Encoding failed for feature, skipping",
    [("feature_id", f.id), ("error", reason.message)]⟩

/-- The steps of one feature. -/
def Feature.blockSteps (f : Feature) (templates : Templates) (shape : Shape) : List Step :=
  Step.after (f.entries templates shape) fun
    | .ok group => group.pieces.map (.write f.id)
    | .error reason => [.report (skipReport f reason)]

/-- What one feature adds to the counts. -/
def Feature.counts (f : Feature) (templates : Templates) (shape : Shape) : Summary :=
  match (f.entries templates shape).value with
  | .ok group => ⟨1, group.continuations.length, 0⟩
  | .error _ => ⟨0, 0, 1⟩

def Summary.add (s t : Summary) : Summary :=
  ⟨s.items + t.items, s.continuations + t.continuations, s.skipped + t.skipped⟩

/-! ## The channel -/

/-- The namespaces that the root declares, each with its prefix. -/
def namespaceAttributes (scheme : Scheme) : Xml.Attributes :=
  [("xmlns:georss", Scheme.simple.namespaceUri), ("xmlns:atom", "http://www.w3.org/2005/Atom")]
    ++ (if scheme = .simple then []
        else [("xmlns:" ++ scheme.namespacePrefix, scheme.namespaceUri)])

/-- The events that name the link of a channel. -/
def linkEvents (link : String) : List Xml.Event :=
  Xml.cdataElement "link" link ++ [.empty "atom:link" [("href", link), ("rel", "self")]]

/-- The steps before the first feature. -/
def headerSteps (title description : Logged String) (r : Request) (scheme : Scheme) : List Step :=
  Step.events
      [.opening "rss" (("version", "2.0") :: namespaceAttributes scheme), .opening "channel" []]
    ++ Step.after title (fun title => Step.events (Xml.element "title" title))
    ++ Step.after description
      (fun description => Step.events (Xml.element "description" description))
    ++ Step.after r.channelLink (fun link => Step.events (linkEvents link))

/-- The report at the end of a feed. -/
def summaryReport (s : Summary) : Log.Entry :=
  ⟨.debug, "Feed encoded",
    [("items", toString s.items), ("continuations", toString s.continuations),
      ("skipped", toString s.skipped)]⟩

/-- The steps after the last feature. -/
def footerSteps (s : Summary) : List Step :=
  Step.events [.closing "channel", .closing "rss"] ++ [.report (summaryReport s)]

/-! ## Feeds -/

/-- The counts of a feed, each feature with the templates that were asked for it. -/
def Summary.ofFeatures (shape : Shape) (attended : List (Feature × Templates)) : Summary :=
  (attended.map fun (f, templates) => f.counts templates shape).foldl Summary.add {}

namespace Service

variable (s : Service)

def channelTitle (r : Request) : Logged String :=
  Catalog.channelTextOf s.titles (autoGenerated s.systemName) "title" TypeInfo.title r.types

def channelDescription (r : Request) : Logged String :=
  Catalog.channelTextOf s.abstracts (autoGenerated s.systemName) "description" TypeInfo.abstract
    r.types

/-- Features with the templates that are asked for them. -/
def attended (features : List Feature) : List (Feature × Templates) :=
  features.zipIdx.map fun (f, place) => (f, s.templates place)

/-- The steps of a feed of one shape. -/
def bodySteps (r : Request) (shape : Shape) (features : List Feature) : List Step :=
  headerSteps (s.channelTitle r) (s.channelDescription r) r shape.scheme
    ++ (s.attended features).flatMap (fun (f, templates) => f.blockSteps templates shape)
    ++ footerSteps (.ofFeatures shape (s.attended features))

/-- The steps of a feed. -/
def plan (r : Request) (collections : List (List Feature)) : List Step :=
  Step.after (r.shape s.standard) fun shape => s.bodySteps r shape collections.flatten

/-- The counts that the feed for a request ends with. -/
def planSummary (r : Request) (collections : List (List Feature)) : Summary :=
  .ofFeatures (r.shape s.standard).value (s.attended collections.flatten)

end Service

namespace Publisher

variable (p : Publisher)

def channelTitle (r : Request) : Logged String :=
  p.catalog.channelText TypeInfo.title (autoGenerated p.systemName) "title" r.types

def channelDescription (r : Request) : Logged String :=
  p.catalog.channelText TypeInfo.abstract (autoGenerated p.systemName) "description" r.types

/-- The counts of a feed. -/
def summary (shape : Shape) (features : List Feature) : Summary :=
  (features.map (·.counts p.templates shape)).foldl Summary.add {}

/-- The steps of a feed. -/
def plan (r : Request) (collections : List (List Feature)) : List Step :=
  p.service.plan r collections

/-- The counts that the feed for a request ends with. -/
def planSummary (r : Request) (collections : List (List Feature)) : Summary :=
  p.summary (r.shape p.standard).value collections.flatten

/-- Templates that do not change are the same for every feature. -/
theorem attended_service (features : List Feature) :
    p.service.attended features = features.map fun f => (f, p.templates) := by
  calc p.service.attended features
      = (features.zipIdx.map Prod.fst).map fun f => (f, p.templates) := by
        rw [List.map_map]
        rfl
    _ = features.map fun f => (f, p.templates) := by rw [List.zipIdx_map_fst]

theorem planSummary_service (r : Request) (collections : List (List Feature)) :
    p.service.planSummary r collections = p.planSummary r collections := by
  rw [Service.planSummary, attended_service, Summary.ofFeatures, List.map_map]
  rfl

/-- **The feed of a publisher is its header, its blocks and its end.** -/
theorem plan_eq (r : Request) (collections : List (List Feature)) :
    p.plan r collections = Step.after (r.shape p.standard) fun shape =>
      headerSteps (p.channelTitle r) (p.channelDescription r) r shape.scheme
        ++ collections.flatten.flatMap (·.blockSteps p.templates shape)
        ++ footerSteps (p.summary shape collections.flatten) := by
  rw [plan, Service.plan]
  congr 1
  funext shape
  rw [Service.bodySteps, attended_service, List.flatMap_map, Summary.ofFeatures, List.map_map]
  rfl

end Publisher

end GeoFeed

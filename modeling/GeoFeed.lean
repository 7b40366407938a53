import GeoFeed.Calendar.Date
import GeoFeed.Calendar.Instant
import GeoFeed.Calendar.Reading
import GeoFeed.Calendar.Rfc3339
import GeoFeed.Catalog
import GeoFeed.Command.Arguments
import GeoFeed.Command.Disk
import GeoFeed.Command.Job
import GeoFeed.Decimal.Positional
import GeoFeed.Decimal.Shortest
import GeoFeed.Enclosure
import GeoFeed.Feature.Basic
import GeoFeed.Feature.Decoding
import GeoFeed.Feed.ChannelText
import GeoFeed.Feed.Delivery
import GeoFeed.Feed.Entry
import GeoFeed.Feed.ItemText
import GeoFeed.Feed.Plan
import GeoFeed.Geometry.Basic
import GeoFeed.Geometry.Centroid
import GeoFeed.Geometry.Markup
import GeoFeed.Geometry.Plane
import GeoFeed.Geometry.Text
import GeoFeed.Geometry.Writing
import GeoFeed.Gml.Fragment
import GeoFeed.Json.Reader
import GeoFeed.Json.Value
import GeoFeed.Log
import GeoFeed.Main
import GeoFeed.NameTable
import GeoFeed.Output
import GeoFeed.Proofs.Feed.Block
import GeoFeed.Proofs.Feed.Cause
import GeoFeed.Proofs.Feed.Composition
import GeoFeed.Proofs.Feed.Element
import GeoFeed.Proofs.Feed.Entry
import GeoFeed.Proofs.Feed.Guid
import GeoFeed.Proofs.Feed.Independence
import GeoFeed.Proofs.Feed.Legal
import GeoFeed.Proofs.Feed.Limit
import GeoFeed.Proofs.Feed.Markup
import GeoFeed.Proofs.Feed.Reading
import GeoFeed.Proofs.Feed.Supply
import GeoFeed.Proofs.Feed.Trace
import GeoFeed.Proofs.Feed.Unsupported
import GeoFeed.Proofs.Url.Service
import GeoFeed.Proofs.Url.Visible
import GeoFeed.Proofs.Xml.Bytes
import GeoFeed.Proofs.Xml.Cdata
import GeoFeed.Proofs.Xml.Excerpt
import GeoFeed.Proofs.Xml.Legal
import GeoFeed.Proofs.Xml.Token
import GeoFeed.Proofs.Xml.Tree
import GeoFeed.Request.Basic
import GeoFeed.Request.Options
import GeoFeed.Request.TypeName
import GeoFeed.Scheme
import GeoFeed.Settings
import GeoFeed.Template.Attributes
import GeoFeed.Template.Basic
import GeoFeed.Text.Blank
import GeoFeed.Text.CodeTable
import GeoFeed.Text.Composition
import GeoFeed.Text.Composition.Table
import GeoFeed.Text.Cut
import GeoFeed.Text.Figure
import GeoFeed.Text.LetterCase
import GeoFeed.Text.LetterCase.Context
import GeoFeed.Text.LetterCase.Table
import GeoFeed.Toml.Node
import GeoFeed.Toml.Reader
import GeoFeed.Toml.Scalar
import GeoFeed.Toml.Text
import GeoFeed.Toml.Value
import GeoFeed.Url.Address
import GeoFeed.Url.Basic
import GeoFeed.Url.Domain
import GeoFeed.Url.Domain.Direction
import GeoFeed.Url.Domain.Joining
import GeoFeed.Url.Domain.Mapping
import GeoFeed.Url.Domain.Mapping.Table
import GeoFeed.Url.Error
import GeoFeed.Url.Form
import GeoFeed.Url.Host
import GeoFeed.Url.Percent
import GeoFeed.Url.Punycode
import GeoFeed.Url.Reading
import GeoFeed.Url.Route
import GeoFeed.Url.Service
import GeoFeed.Xml.Cdata
import GeoFeed.Xml.Escape
import GeoFeed.Xml.Event
import GeoFeed.Proofs.Feed.Splitting
import GeoFeed.Proofs.Feed.Continuation
import GeoFeed.Proofs.Xml.Subtree
import GeoFeed.Proofs.Feed.Namespace
import GeoFeed.Proofs.Geometry.Extent
import GeoFeed.Proofs.Geometry.Unwrapping
import GeoFeed.Proofs.Gml.Reading
import GeoFeed.Proofs.Xml.Section
import GeoFeed.Proofs.Enclosure.Segmentation
import GeoFeed.Proofs.Geometry.Simple
import GeoFeed.Proofs.Calendar.DayNumber
import GeoFeed.Proofs.Calendar.Spelling
import GeoFeed.Proofs.Calendar.Telling
import GeoFeed.Proofs.Calendar.Form
import GeoFeed.Proofs.Feed.Published
import GeoFeed.Proofs.Url.Settled
import GeoFeed.Proofs.Url.Below
import GeoFeed.Proofs.Enclosure.Spelling
import GeoFeed.Proofs.Request.Shape
import GeoFeed.Proofs.Feed.Heading
import GeoFeed.Proofs.Calendar.Rereading
import GeoFeed.Proofs.Feed.Display
import GeoFeed.Proofs.Text.ByteOrder
import GeoFeed.Proofs.Feature.History
import GeoFeed.Proofs.Command.Disk
import GeoFeed.Proofs.Command.Run

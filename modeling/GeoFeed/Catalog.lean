/-
# GeoFeed.Catalog -- what is known about feature types

A catalog tells the title and the abstract of a feature type, or why it cannot.
A static catalog is a table of names; a qualified name that the table does not
have is looked up by its local part.
-/
import GeoFeed.NameTable
import GeoFeed.Request.TypeName

namespace GeoFeed

set_option autoImplicit false

structure TypeInfo where
  title : Option String := none
  abstract : Option String := none
deriving Repr, DecidableEq

inductive CatalogError where
  | notFound (name : String)
  | unavailable (reason : String)
deriving Repr, DecidableEq

def CatalogError.message : CatalogError → String
  | notFound name => "Feature type '" ++ name ++ "' is not in the catalog"
  | unavailable reason => "Catalog unavailable: " ++ reason

/-- A look-up of feature types. -/
abbrev Catalog := TypeName → Except CatalogError TypeInfo

/-- The catalog of a table of names. -/
def Catalog.ofTable (table : NameTable TypeInfo) : Catalog := fun name =>
  match (table.get? name.toText).or (table.get? name.localPart) with
  | some info => .ok info
  | none => .error (.notFound name.toText)

end GeoFeed

/-
# GeoFeed.Feed.ChannelText -- the texts of a channel

The title and the description of a channel are put together from the catalog: one
line for every requested type that has such a text, trimmed, in the order of the
request.  If the catalog fails for one of the types, what has been gathered is
given up for a text that names the system.

The catalog is asked anew for each of the two texts and each type, so it is given as
the catalogs of these calls; a catalog that does not change is the same at all of them.

The link of a channel is the address under which the service answers the request
for the first of its types.
-/
import GeoFeed.Catalog
import GeoFeed.Request.Basic
import GeoFeed.Text.Blank
import GeoFeed.Url.Service

namespace GeoFeed

set_option autoImplicit false

/-! ## Title and description -/

namespace Catalog

/-- The texts that are told of types, up to the first failure, where `calls` has the catalog of
the call for each type; the first type is that of the given call. -/
def textsFrom (calls : Nat → Catalog) (field : TypeInfo → Option String) (call : Nat) :
    List TypeName → Except (TypeName × CatalogError) (List String)
  | [] => .ok []
  | name :: rest =>
      match calls call name with
      | .error e => .error (name, e)
      | .ok info =>
          (textsFrom calls field (call + 1) rest).map fun more =>
            ((field info).bind Text.nonBlank?).toList ++ more

/-- A channel text; `standIn` takes its place after a failure. -/
def channelTextOf (calls : Nat → Catalog) (standIn what : String)
    (field : TypeInfo → Option String) (types : List TypeName) : Logged String :=
  match textsFrom calls field 0 types with
  | .ok lines => pure (String.intercalate "\n" lines)
  | .error (name, e) =>
      .report
        ⟨.warn, "Unable to determine a valid " ++ what ++ " for feed",
          [("type_name", name.toText), ("error", e.message)]⟩
        standIn

variable (catalog : Catalog) (field : TypeInfo → Option String)

/-- The texts that a catalog has for types, up to the first failure. -/
def texts (types : List TypeName) : Except (TypeName × CatalogError) (List String) :=
  textsFrom (fun _ => catalog) field 0 types

/-- A channel text from a catalog that does not change. -/
def channelText (standIn what : String) (types : List TypeName) : Logged String :=
  channelTextOf (fun _ => catalog) standIn what field types

/-- A catalog that does not change says the same whenever it is asked. -/
theorem textsFrom_steady (call : Nat) (types : List TypeName) :
    textsFrom (fun _ => catalog) field call types = catalog.texts field types := by
  unfold texts
  generalize 0 = first
  induction types generalizing call first with
  | nil => rfl
  | cons name rest ih => simp only [textsFrom, ih (call + 1) (first + 1)]

@[simp]
theorem texts_cons (name : TypeName) (rest : List TypeName) :
    catalog.texts field (name :: rest) = match catalog name with
      | .error e => .error (name, e)
      | .ok info =>
          (catalog.texts field rest).map fun more =>
            ((field info).bind Text.nonBlank?).toList ++ more := by
  rw [texts, textsFrom, textsFrom_steady]

theorem channelText_eq (standIn what : String) (types : List TypeName) :
    catalog.channelText field standIn what types = match catalog.texts field types with
      | .ok lines => pure (String.intercalate "\n" lines)
      | .error (name, e) =>
          .report
            ⟨.warn, "Unable to determine a valid " ++ what ++ " for feed",
              [("type_name", name.toText), ("error", e.message)]⟩
            standIn :=
  rfl

end Catalog

/-- What stands for a text that the catalog could not tell. -/
def autoGenerated (systemName : String) : String :=
  "Auto-generated by " ++ systemName

/-! ## Link -/

/-- Why a channel has no link. -/
inductive LinkError where
  | noTypes
  | invalidBase (cause : Url.Error)
deriving Repr, DecidableEq

def LinkError.message : LinkError → String
  | noTypes => "Request has no queries"
  | invalidBase cause => "Invalid base URL: " ++ cause.message

/-- What stands for the link of a channel that has none. -/
def missingLink : String := "Unable to create feed url"

namespace Request

/-- The address of a feed. -/
def link (r : Request) : Except LinkError String :=
  match r.types with
  | [] => .error .noTypes
  | first :: _ =>
      match Url.service r.baseUrl "wfs"
          [("request", "GetFeature"), ("typeName", first.toText),
            ("outputFormat", r.outputFormat)] with
      | .ok url => .ok url.toText
      | .error e => .error (.invalidBase e)

/-- The link of a channel. -/
def channelLink (r : Request) : Logged String :=
  match r.link with
  | .ok address => pure address
  | .error e =>
      .report
        ⟨.error, "Unable to create feed url", [("base_url", r.baseUrl), ("error", e.message)]⟩
        missingLink

end Request

end GeoFeed

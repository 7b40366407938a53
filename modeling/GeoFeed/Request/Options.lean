/-
# GeoFeed.Request.Options -- the options of a request

A request carries options as names with values.  The case of a name does not
matter, in any script, and of options of one name the last one counts.  Values
are kept as they are.
-/
import GeoFeed.NameTable
import GeoFeed.Text.LetterCase
import GeoFeed.Text.Blank
import GeoFeed.Text.Cut

namespace GeoFeed

set_option autoImplicit false

/-- Options by their names in upper case. -/
structure Options where
  values : NameTable String := .empty

namespace Options

/-- Set an option. -/
def insert (options : Options) (name value : String) : Options :=
  ⟨options.values.insert (Text.upper name) value⟩

/-- The value of an option. -/
def get? (options : Options) (name : String) : Option String :=
  options.values.get? (Text.upper name)

def isEmpty (options : Options) : Bool :=
  options.values.isEmpty

/-- Set options one after the other. -/
def ofList (entries : List (String × String)) : Options :=
  entries.foldl (fun options (name, value) => options.insert name value) {}

/-- Split `NAME=VALUE` at its first equals sign.  The name is trimmed and must not
be blank; the value is kept as it is. -/
def split? (text : String) : Option (String × String) := do
  let (name, value) ← Text.cutAt? '=' text
  pure (← Text.nonBlank? name, value)

@[simp]
theorem get?_insert (options : Options) (name other value : String) :
    (options.insert name value).get? other
      = if Text.upper other = Text.upper name then some value else options.get? other := by
  simp [insert, get?]

end Options

end GeoFeed

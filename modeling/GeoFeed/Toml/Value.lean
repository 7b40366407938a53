/-
# GeoFeed.Toml.Value -- TOML values

What a TOML document says, once it is read: a table of keys with values, in the
order in which they were given.  Numbers with a fraction and dates keep their
spelling.
-/
namespace GeoFeed.Toml

set_option autoImplicit false

inductive Value where
  | string (text : String)
  | integer (value : Int)
  | float (spelling : String)
  | boolean (value : Bool)
  | date (spelling : String)
  | array (items : List Value)
  | table (entries : List (String × Value))
deriving Repr

/-- Keys with their values. -/
abbrev Entries := List (String × Value)

namespace Value

/-- The text of a string. -/
def text? : Value → Option String
  | string text => some text
  | _ => none

/-- Whether a value is an array or a table without anything in it. -/
def isHollow : Value → Bool
  | array items => items.isEmpty
  | table entries => entries.isEmpty
  | _ => false

end Value

end GeoFeed.Toml

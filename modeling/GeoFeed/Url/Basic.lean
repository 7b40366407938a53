/-
# GeoFeed.Url.Basic -- the parts of a URL

A URL has a scheme, perhaps an authority, a path, and perhaps a query and a
fragment.  Its parts are kept as they are written, percent-encoding included, so
the text of a URL is its parts with their marks between them (`Url.toChars`).

A path is a list of segments, each with a slash before it, or, after a scheme
without slashes, a rootless text that no relative reference can be applied to.
Without an authority a path whose first segment is empty is written behind `/.`,
so that its two slashes are not taken for an authority.
-/
import GeoFeed.Decimal.Positional

namespace GeoFeed

set_option autoImplicit false

namespace Url

/-- What stands between the two slashes and the path. -/
structure Authority where
  username : List Char := []
  password : List Char := []
  host : List Char := []
  port : Option Nat := none
deriving Repr, DecidableEq

inductive Route where
  | segments (parts : List (List Char))
  | rootless (text : List Char)
deriving Repr, DecidableEq

end Url

structure Url where
  scheme : List Char
  authority : Option Url.Authority
  route : Url.Route
  query : Option (List Char)
  fragment : Option (List Char)
deriving Repr, DecidableEq

namespace Url

/-! ## Kinds of schemes -/

/-- How the rest of a URL is read after its scheme. -/
inductive Kind where
  /-- A file on a host, with drive letters. -/
  | file
  /-- A resource of a host; back slashes count as slashes. -/
  | network
  | general
deriving Repr, DecidableEq

def Kind.ofScheme (scheme : List Char) : Kind :=
  let name := String.ofList scheme
  if name = "file" then .file
  else if ["http", "https", "ws", "wss", "ftp"].contains name then .network
  else .general

/-- Whether a scheme is one of those with rules of their own. -/
def Kind.isSpecial : Kind → Bool
  | .general => false
  | _ => true

/-- The port that a scheme uses unless another is named. -/
def standardPort? (scheme : List Char) : Option Nat :=
  let name := String.ofList scheme
  if name = "http" || name = "ws" then some 80
  else if name = "https" || name = "wss" then some 443
  else if name = "ftp" then some 21
  else none

def kind (u : Url) : Kind := .ofScheme u.scheme

/-! ## The text of a URL -/

def Authority.toChars (a : Authority) : List Char :=
  let password := if a.password.isEmpty then [] else ':' :: a.password
  let user := a.username ++ password
  let port := match a.port with
    | some n => ':' :: Decimal.digitsOf n
    | none => []
  (if user.isEmpty then [] else user ++ ['@']) ++ a.host ++ port

def segmentsToChars (parts : List (List Char)) : List Char :=
  parts.flatMap ('/' :: ·)

def Route.toChars : Route → List Char
  | .segments parts => segmentsToChars parts
  | .rootless text => text

/-- Whether a path would be taken for an authority if none stands before it. -/
def Route.needsGuard : Route → Bool
  | .segments ([] :: _ :: _) => true
  | _ => false

def toChars (u : Url) : List Char :=
  let front := match u.authority with
    | some a => '/' :: '/' :: a.toChars
    | none => if u.route.needsGuard then ['/', '.'] else []
  let query := match u.query with
    | some text => '?' :: text
    | none => []
  let fragment := match u.fragment with
    | some text => '#' :: text
    | none => []
  u.scheme ++ ':' :: (front ++ u.route.toChars ++ query ++ fragment)

def toText (u : Url) : String :=
  String.ofList u.toChars

end Url

end GeoFeed

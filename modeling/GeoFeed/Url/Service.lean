/-
# GeoFeed.Url.Service -- addresses of a service

A service lives below a base URL.  The base is taken as a directory, whether or
not it is written with a slash at its end; a path is resolved in that directory,
and the query consists of the given parameters and nothing else.
-/
import GeoFeed.Url.Form
import GeoFeed.Url.Reading

namespace GeoFeed.Url

set_option autoImplicit false

/-- The same URL with a slash at the end of its path. -/
def asDirectory (u : Url) : Url :=
  match u.route with
  | .segments parts =>
      if parts.getLast? = some [] then u
      else
        { u with route := .segments (Route.read u.kind (segmentsToChars parts ++ ['/'])) }
  | .rootless text =>
      if text.getLast? = some '/' then u
      else if text.isEmpty then { u with route := .rootless "%2F".toList }
      else { u with route := .rootless (text ++ ['/']) }

/-- The same URL without a query.  At the very end of a URL, the spaces of a path
without a root go with it. -/
def withoutQuery (u : Url) : Url :=
  match u.route, u.fragment with
  | .rootless text, none =>
      { u with query := none, route := .rootless (text.reverse.dropWhile (· == ' ')).reverse }
  | _, _ => { u with query := none }

/-- The same URL with the given parameters, if there are any. -/
def withParameters (u : Url) (params : List (String × String)) : Url :=
  let u := u.withoutQuery
  if params.isEmpty then u else { u with query := some (Form.encodePairs params) }

/-- The address of a path below a base, with parameters. -/
def service (base path : String) (params : List (String × String)) : Except Error Url := do
  let base ← ofText base
  let url ← resolve (some base.asDirectory) path
  pure (url.withParameters params)

end GeoFeed.Url

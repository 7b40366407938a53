/-
# GeoFeed.Url.Reading -- reading URLs and references

A text is read after its controls and spaces at both ends, and all its tabs and
line breaks, have been dropped.  A question mark begins the query and a hash the
fragment; what is before them is the body, and the kind of the scheme says how a
body is read.

A reference without a scheme is resolved against a base: an authority of its own
replaces that of the base, a leading slash leads to the root, and any other body
goes on from the directory of the base.  A base without a root takes fragments
only.

Special schemes are lenient: any number of slashes, forward or back, may stand
before their authority, and a scheme that is also that of the base may be left
without effect.
-/
import GeoFeed.Url.Host
import GeoFeed.Url.Route

namespace GeoFeed

set_option autoImplicit false

namespace Url

/-! ## Body, query and fragment -/

/-- The three parts of a text. -/
structure Outline where
  body : List Char
  query : Option (List Char)
  fragment : Option (List Char)
deriving Repr, DecidableEq

/-- Whether a character is dropped at the ends of a text. -/
def isMargin (c : Char) : Bool := c.toNat ≤ 0x20

/-- Whether a character is dropped everywhere. -/
def isIgnored (c : Char) : Bool := c == '\t' || c == '\n' || c == '\r'

/-- A text without what is dropped. -/
def clean (cs : List Char) : List Char :=
  ((cs.dropWhile isMargin).reverse.dropWhile isMargin).reverse.filter (!isIgnored ·)

def Outline.ofChars (cs : List Char) : Outline :=
  let (front, fragment) := match Text.cut? '#' cs with
    | some (front, back) => (front, some back)
    | none => (cs, none)
  match Text.cut? '?' front with
  | some (body, query) => ⟨body, some query, fragment⟩
  | none => ⟨front, none, fragment⟩

namespace Outline

/-- Whether anything follows the body. -/
def goesOn (o : Outline) : Bool :=
  o.query.isSome || o.fragment.isSome

def writtenQuery (o : Outline) (kind : Kind) : Option (List Char) :=
  o.query.map (percentEncode (inQuerySet kind.isSpecial))

def writtenFragment (o : Outline) : Option (List Char) :=
  o.fragment.map (percentEncode inFragmentSet)

end Outline

/-- The scheme at the beginning of a body, in lower case, and what follows its
colon. -/
def scheme? (body : List Char) : Option (List Char × List Char) :=
  match body with
  | first :: _ =>
      if first.isAlpha then do
        let (name, rest) ← Text.cut? ':' body
        if name.all fun c => c.isAlphanum || c == '+' || c == '-' || c == '.' then
          pure (name.map Char.toLower, rest)
        else none
      else none
  | [] => none

/-! ## Authorities -/

/-- The part of a text before its last `@` and the part after it. -/
def cutLastAt? (text : List Char) : Option (List Char × List Char) :=
  (Text.cut? '@' text.reverse).map fun (back, front) => (front.reverse, back.reverse)

/-- The name and password before an `@`. -/
def readUser (text : List Char) : List Char × List Char :=
  match Text.cut? ':' text with
  | some (name, password) =>
      (percentEncode inUserinfoSet name, percentEncode inUserinfoSet password)
  | none => (percentEncode inUserinfoSet text, [])

/-- The host at the beginning of a text and what follows it; a colon within
square brackets does not end it. -/
def spanHost (bracketed : Bool) : List Char → List Char × List Char
  | [] => ([], [])
  | c :: rest =>
      if c == ':' && !bracketed then ([], c :: rest)
      else
        let (host, after) := spanHost ((bracketed || c == '[') && c != ']') rest
        (c :: host, after)

/-- A port and what follows it; none is named by no figures, nor by the standard
port of the scheme. -/
def readPort (scheme : List Char) (text : List Char) :
    Except Error (Option Nat × List Char) :=
  let figures := text.takeWhile Char.isDigit
  let rest := text.dropWhile Char.isDigit
  let number := Nat.ofDigitChars 10 figures 0
  let ended := match rest with
    | [] => true
    | c :: _ => c == '/' || c == '\\'
  if 65535 < number || !ended then .error .invalidPort
  else if figures.isEmpty || standardPort? scheme = some number then .ok (none, rest)
  else .ok (some number, rest)

/-- The authority that a text begins with, and what follows it.  `more` says that
a query or a fragment comes after the text. -/
def readAuthority (scheme : List Char) (more : Bool) (text : List Char) :
    Except Error (Authority × List Char) := do
  let kind := Kind.ofScheme scheme
  let section_ := text.takeWhile (!isSlash kind.isSpecial ·)
  let rest := text.dropWhile (!isSlash kind.isSpecial ·)
  let ((username, password), location) ← match cutLastAt? section_ with
    | none => pure (([], []), section_)
    | some ([], location) =>
        if location.isEmpty && (more || !rest.isEmpty) then throw .emptyHost
        else pure (([], []), location)
    | some (front, location) => pure (readUser front, location)
  let (name, after) := spanHost false location
  if name.isEmpty && kind.isSpecial then throw .emptyHost
  let host ← if kind.isSpecial then Host.readSpecial name else Host.readGeneral name
  if host.isEmpty && after.head? = some ':' then throw .emptyHost
  let (number, rest) ← match after with
    | ':' :: after => readPort scheme (after ++ rest)
    | _ => pure (none, rest)
  if host.isEmpty && !(username.isEmpty && password.isEmpty) then throw .emptyHost
  pure (⟨username, password, host, number⟩, rest)

/-- A URL of an authority and a path, read after the two slashes. -/
def afterSlashes (scheme : List Char) (o : Outline) (text : List Char) : Except Error Url := do
  let kind := Kind.ofScheme scheme
  let (a, rest) ← readAuthority scheme o.goesOn text
  pure ⟨scheme, some a, .segments (Route.read kind rest), o.writtenQuery kind, o.writtenFragment⟩

/-! ## Files -/

/-- Whether a path begins with a drive letter as a segment of its own. -/
def startsWithDrive (text : List Char) : Bool :=
  isDriveLetter (text.takeWhile (!isSlash true ·))

/-- The path of a file on no particular host. -/
def localFile (o : Outline) (parts : List (List Char)) : Url :=
  ⟨"file".toList, some {}, .segments parts, o.writtenQuery .file, o.writtenFragment⟩

/-- A file on a host, read after the two slashes.  A drive letter takes the place
of the host. -/
def fileOnHost (o : Outline) (text : List Char) : Except Error Url := do
  let name := text.takeWhile (!isSlash true ·)
  if isDriveLetter name then pure (localFile o (Route.readAfter .file [] text))
  else
    let rest := text.dropWhile (!isSlash true ·)
    let host ← if name.isEmpty then pure [] else Host.readSpecial name
    let host := if host = "localhost".toList then [] else host
    let parts := Route.read .file rest
    if startsWithDrive (rest.drop 1) then pure (localFile o parts)
    else pure { localFile o parts with authority := some { host } }

/-! ## References -/

/-- The segments of the path of a URL; none for a path without a root. -/
def segments (u : Url) : List (List Char) :=
  match u.route with
  | .segments parts => parts
  | .rootless _ => []

/-- The segments of the directory of a URL.  A drive letter that is the whole path
of a file is its own directory. -/
def directory (u : Url) : List (List Char) :=
  if u.kind = .file && u.segments.length == 1 && u.segments.any isWrittenDriveLetter then
    u.segments
  else u.segments.dropLast

/-- The base with another path. -/
def withPath (base : Url) (o : Outline) (parts : List (List Char)) : Url :=
  { base with
    route := .segments parts
    query := o.writtenQuery base.kind
    fragment := o.writtenFragment }

/-- The base itself, for a reference without a body. -/
def withoutBody (base : Url) (o : Outline) : Url :=
  { base with
    query := if o.query.isSome then o.writtenQuery base.kind else base.query
    fragment := o.writtenFragment }

/-- Resolve a reference against a base that has a root and is not a file. -/
def resolveInside (base : Url) (o : Outline) : Except Error Url :=
  match o.body with
  | [] => .ok (base.withoutBody o)
  | '/' :: '/' :: rest => afterSlashes base.scheme o rest
  | c :: rest =>
      if isSlash true c then
        if rest.head?.any (isSlash true) then
          afterSlashes base.scheme o (rest.dropWhile (isSlash true))
        else .ok (base.withPath o (Route.readAfter base.kind [] rest))
      else .ok (base.withPath o (Route.readAfter base.kind base.directory o.body))

/-- The file that a path from the root names; it stays on the drive or the host of
the base. -/
def fileFromRoot (base : Option Url) (o : Outline) (text : List Char) : Url :=
  match base with
  | some b =>
      if startsWithDrive text then localFile o (Route.readAfter .file [] text)
      else
        match b.segments.head? with
        | some first =>
            if isWrittenDriveLetter first then localFile o (Route.readAfter .file [first] text)
            else b.withPath o (Route.readAfter .file [] text)
        | none => b.withPath o (Route.readAfter .file [] text)
  | none => localFile o (Route.readAfter .file [] text)

/-- Read the body of a file URL, or resolve a reference against one. -/
def resolveFile (base : Option Url) (o : Outline) : Except Error Url :=
  match o.body with
  | [] =>
      match base with
      | some b => .ok (b.withoutBody o)
      | none => .ok (localFile o [[]])
  | c :: rest =>
      if isSlash true c then
        match rest with
        | d :: after => if isSlash true d then fileOnHost o after else .ok (fileFromRoot base o rest)
        | [] => .ok (fileFromRoot base o [])
      else
        match base with
        | some b =>
            if startsWithDrive o.body then .ok (localFile o (Route.readAfter .file [] o.body))
            else .ok (b.withPath o (Route.readAfter .file b.directory o.body))
        | none => .ok (localFile o (Route.readAfter .file [] o.body))

/-! ## URLs -/

/-- Read what follows a scheme. -/
def afterScheme (base : Option Url) (scheme : List Char) (o : Outline) : Except Error Url :=
  match Kind.ofScheme scheme with
  | .file => resolveFile (base.filter (·.scheme == scheme)) o
  | .network =>
      match base with
      | some b =>
          if b.scheme = scheme && (o.body.takeWhile (isSlash true)).length < 2 then resolveInside b o
          else afterSlashes scheme o (o.body.dropWhile (isSlash true))
      | none => afterSlashes scheme o (o.body.dropWhile (isSlash true))
  | .general =>
      match o.body with
      | '/' :: '/' :: rest => afterSlashes scheme o rest
      | '/' :: rest =>
          .ok ⟨scheme, none, .segments (Route.readAfter .general [] rest),
            o.writtenQuery .general, o.writtenFragment⟩
      | body =>
          .ok ⟨scheme, none, .rootless (percentEncode isControl body),
            o.writtenQuery .general, o.writtenFragment⟩

/-- Read a URL, or resolve a reference against a base. -/
def resolve (base : Option Url) (text : String) : Except Error Url :=
  let o := Outline.ofChars (clean text.toList)
  match scheme? o.body with
  | some (scheme, rest) => afterScheme base scheme { o with body := rest }
  | none =>
      match base with
      | none => .error .relativeWithoutBase
      | some b =>
          match b.route with
          | .rootless _ =>
              if o.body.isEmpty && o.query.isNone && o.fragment.isSome then
                .ok (b.withoutBody o)
              else .error .relativeToRootless
          | .segments _ => if b.kind = .file then resolveFile (some b) o else resolveInside b o

/-- Read an absolute URL. -/
def ofText (text : String) : Except Error Url :=
  resolve none text

end Url

end GeoFeed

/-
# GeoFeed.Url.Route -- reading paths

A path is read segment by segment.  A single dot stands for nothing and two dots
take the segment before them away, also where the dots are percent-encoded; at
the end of a path they leave an empty segment, so that the path still names a
directory.  Two dots do not take a drive letter away.

In a file URL the first segment may be a drive letter with a bar, which is
written with a colon, and empty segments at the front are dropped.
-/
import GeoFeed.Text.Cut
import GeoFeed.Url.Basic
import GeoFeed.Url.Percent

namespace GeoFeed.Url

set_option autoImplicit false

/-- A segment in which percent-encoded dots stand for themselves. -/
def decodeDots : List Char → List Char
  | '%' :: '2' :: 'e' :: rest => '.' :: decodeDots rest
  | '%' :: '2' :: 'E' :: rest => '.' :: decodeDots rest
  | c :: rest => c :: decodeDots rest
  | [] => []

/-- A letter and a colon or a bar. -/
def isDriveLetter : List Char → Bool
  | [letter, mark] => letter.isAlpha && (mark == ':' || mark == '|')
  | _ => false

/-- A letter and a colon. -/
def isWrittenDriveLetter (segment : List Char) : Bool :=
  isDriveLetter segment && segment.getLast? == some ':'

def isSlash (special : Bool) (c : Char) : Bool :=
  c == '/' || (special && c == '\\')

namespace Route

/-- The segments left when two dots follow. -/
def parent (done : List (List Char)) : List (List Char) :=
  match done.getLast? with
  | some last => if isDriveLetter last then done else done.dropLast
  | none => []

/-- The segment as it is written; `first` says that it is the first one. -/
def written (kind : Kind) (first : Bool) (piece : List Char) : List Char :=
  if kind = .file && first && isDriveLetter piece then piece.take 1 ++ [':']
  else percentEncode inPathSet piece

/-- Add one segment; `final` says that it is the last one. -/
def step (kind : Kind) (done : List (List Char)) (piece : List Char) (final : Bool) :
    List (List Char) :=
  let ending : List (List Char) := if final then [[]] else []
  if decodeDots piece = ['.', '.'] then parent done ++ ending
  else if decodeDots piece = ['.'] then done ++ ending
  else done ++ [written kind done.isEmpty piece]

/-- Add segments in order. -/
def extend (kind : Kind) (done : List (List Char)) : List (List Char) → List (List Char)
  | [] => done
  | [last] => step kind done last true
  | piece :: rest => extend kind (step kind done piece false) rest

/-- Drop the empty segments at the front of the path of a file. -/
def trimEmpty (kind : Kind) (parts : List (List Char)) : List (List Char) :=
  if kind = .file then
    match parts.dropWhile List.isEmpty with
    | [] => [[]]
    | rest => rest
  else parts

/-- The segments that come of reading a text after those already there. -/
def readAfter (kind : Kind) (done : List (List Char)) (text : List Char) : List (List Char) :=
  trimEmpty kind (extend kind done (Text.pieces (isSlash kind.isSpecial) text))

/-- Read the path that follows an authority.  Special URLs always have one. -/
def read (kind : Kind) (text : List Char) : List (List Char) :=
  match text with
  | [] => if kind.isSpecial then readAfter kind [] [] else []
  | c :: rest => if isSlash kind.isSpecial c then readAfter kind [] rest else readAfter kind [] text

end Route

end GeoFeed.Url

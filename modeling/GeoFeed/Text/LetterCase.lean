/-
# GeoFeed.Text.LetterCase -- upper and lower case

Case mapping works letter by letter, and a letter may become several: the German
sharp s is `SS` in upper case.  Only a capital sigma looks about itself: at the
end of its word it becomes the final small sigma.

ASCII letters are looked up first; `lowerChar_of_ascii` says that they have their
usual partners.
-/
import GeoFeed.Text.LetterCase.Context
import GeoFeed.Text.LetterCase.Table

namespace GeoFeed.Text

set_option autoImplicit false

namespace LetterCase

/-- The image of a letter under the given mappings. -/
def mapChar (long : List (Nat × List Nat)) (runs : List Run) (c : Char) : List Char :=
  match long.lookup c.toNat with
  | some image => image.map Char.ofNat
  | none =>
      match runs.find? (·.moves c.toNat) with
      | some run => [run.image c.toNat]
      | none => [c]

end LetterCase

/-- The upper case of a letter. -/
def upperChar (c : Char) : List Char :=
  if c.toNat < 128 then [c.toUpper]
  else LetterCase.mapChar LetterCase.upperLong LetterCase.upperRuns c

/-- The lower case of a letter. -/
def lowerChar (c : Char) : List Char :=
  if c.toNat < 128 then [c.toLower]
  else LetterCase.mapChar LetterCase.lowerLong LetterCase.lowerRuns c

/-- A text in upper case. -/
def upper (s : String) : String :=
  String.ofList (s.toList.flatMap upperChar)

/-- Whether a word goes on, after characters that are passed over. -/
def reachesCased (cs : List Char) : Bool :=
  match cs.dropWhile LetterCase.ignorable.holds with
  | c :: _ => LetterCase.cased.holds c
  | [] => false

/-- The lower case of a capital sigma between the characters before it, the last
one first, and those after it. -/
def lowerSigma (before after : List Char) : Char :=
  if reachesCased before && !reachesCased after then '\u03C2' else '\u03C3'

/-- The lower case of characters, of which those before them are given, the last
one first. -/
def lowerAfter (before : List Char) : List Char → List Char
  | [] => []
  | c :: rest =>
      (if c = '\u03A3' then [lowerSigma before rest] else lowerChar c)
        ++ lowerAfter (c :: before) rest

/-- A text in lower case. -/
def lower (s : String) : String :=
  String.ofList (lowerAfter [] s.toList)

/-- The same text but for the case of its ASCII letters. -/
def sameLetters (s t : String) : Bool :=
  s.toList.map Char.toLower == t.toList.map Char.toLower

theorem lowerChar_of_ascii {c : Char} (h : c.toNat < 128) : lowerChar c = [c.toLower] := by
  simp [lowerChar, h]

end GeoFeed.Text

/-
# GeoFeed.Text.Composition -- letters composed with their marks

An accented letter can be one character, or a letter followed by marks.
`composed` gives every text the form in which as much as possible is one
character: it takes all characters apart, brings the marks behind each letter
into the order of their classes, and puts together what can be put together.
This is normalization form C of Unicode.

A syllable of Hangul is composed of a leading sound, a vowel and possibly a
trailing sound, and its place in the block of syllables tells them.
-/
import GeoFeed.Text.Composition.Table

namespace GeoFeed.Text

set_option autoImplicit false

/-- Whether the character is a mark on the letter before it. -/
def isMark (c : Char) : Bool := Composition.marks.holds c

/-- The place of a mark among the marks of its letter; zero for all other
characters and for the marks that stay where they are. -/
def combiningClass (c : Char) : Nat :=
  match Composition.classes.run? c with
  | some run => run.numbers.headD 0
  | none => 0

namespace Composition

/-! ## Hangul -/

/-- The sounds of a syllable. -/
def soundsOf? (c : Char) : Option (List Char) :=
  let n := c.toNat - 0xAC00
  if 0xAC00 ≤ c.toNat ∧ n < 11172 then
    let start := [Char.ofNat (0x1100 + n / 588), Char.ofNat (0x1161 + n % 588 / 28)]
    some (if n % 28 = 0 then start else start ++ [Char.ofNat (0x11A7 + n % 28)])
  else none

/-- The syllable that a sound makes of what is before it. -/
def syllable? (a b : Char) : Option Char :=
  let lead := a.toNat - 0x1100
  let vowel := b.toNat - 0x1161
  let open_ := a.toNat - 0xAC00
  let trail := b.toNat - 0x11A7
  if 0x1100 ≤ a.toNat ∧ lead < 19 ∧ 0x1161 ≤ b.toNat ∧ vowel < 21 then
    some (Char.ofNat (0xAC00 + (lead * 21 + vowel) * 28))
  else if 0xAC00 ≤ a.toNat ∧ open_ < 11172 ∧ open_ % 28 = 0 ∧ 0x11A7 < b.toNat ∧ trail < 28 then
    some (Char.ofNat (a.toNat + trail))
  else none

/-! ## Taking apart -/

/-- The two characters that a character is composed of. -/
def parts? (c : Char) : Option (Char × Char) :=
  match (composed.run? c).map CodeRun.numbers with
  | some [a, b] => some (Char.ofNat a, Char.ofNat b)
  | _ => none

/-- A character taken apart; a letter has at most `marks` composed marks. -/
def takenApart : (marks : Nat) → Char → List Char
  | 0, c => [c]
  | marks + 1, c =>
      match soundsOf? c with
      | some sounds => sounds
      | none =>
          match parts? c with
          | some (a, b) => takenApart marks a ++ [b]
          | none => [c]

/-- Put a character before a text whose marks are in order. -/
def insertMark (c : Char) : List Char → List Char
  | [] => [c]
  | d :: rest =>
      if combiningClass d != 0 && combiningClass d < combiningClass c then d :: insertMark c rest
      else c :: d :: rest

/-! ## Putting together -/

/-- The character that two characters compose. -/
def pair? (a b : Char) : Option Char :=
  match syllable? a b with
  | some c => some c
  | none => (composed.find? fun run => run.numbers == [a.toNat, b.toNat]).map fun run =>
      Char.ofNat run.first

/-- Compose a text behind a letter and the marks, last one first, that stay
apart from it.  A mark reaches the letter if no mark of its own class or a
higher one stays between them. -/
def composeFrom (letter : Char) (apart : List Char) : List Char → List Char
  | [] => letter :: apart.reverse
  | c :: rest =>
      let reaches := match apart with
        | [] => true
        | d :: _ => combiningClass d < combiningClass c
      match if reaches then pair? letter c else none with
      | some whole => composeFrom whole apart rest
      | none =>
          if combiningClass c = 0 then letter :: (apart.reverse ++ composeFrom c [] rest)
          else composeFrom letter (c :: apart) rest

/-- Compose a text; marks at its beginning have no letter. -/
def compose : List Char → List Char
  | [] => []
  | c :: rest =>
      if combiningClass c = 0 then composeFrom c [] rest else c :: compose rest

end Composition

/-- A text in its composed form; no letter has more than three composed marks. -/
def composed (cs : List Char) : List Char :=
  Composition.compose ((cs.flatMap (Composition.takenApart 3)).foldr Composition.insertMark [])

end GeoFeed.Text

/-
# GeoFeed.Text.CodeTable -- tables of characters

A table lists runs of characters and has a note for each run.  It is written as
a text of entries with blanks between them, numbers in base sixteen:

* `B5:3BC` is about one character;
* `61-7A:41` is about all characters from the first to the last;
* `100-12E/2:101` is about every second one of them.

The note stands behind the colon.  Where all runs of a table have the same
meaning there is none.  Runs do not overlap, so at most one of them holds a
character.
-/
import GeoFeed.Text.Cut
import GeoFeed.Text.Figure

namespace GeoFeed.Text

set_option autoImplicit false

/-- Characters at equal steps, and what a table notes about them. -/
structure CodeRun where
  first : Nat
  last : Nat
  step : Nat
  note : List Char
deriving Repr, DecidableEq

abbrev CodeTable := List CodeRun

namespace CodeRun

/-- Whether the run has the character in it. -/
def holds (run : CodeRun) (c : Char) : Bool :=
  run.first ≤ c.toNat && c.toNat ≤ run.last && (c.toNat - run.first) % run.step == 0

/-- The numbers that the note lists, with points between them. -/
def numbers (run : CodeRun) : List Nat :=
  if run.note.isEmpty then []
  else (pieces (· == '.') run.note).map fun figures => (valueIn? 16 figures).getD 0

/-- The two sides of a mark, or the text and a second side to fall back on. -/
def sides (mark : Char) (text other : List Char) : List Char × List Char :=
  (cut? mark text).getD (text, other)

/-- The run that an entry describes. -/
def ofChars (entry : List Char) : CodeRun :=
  let (range, note) := sides ':' entry []
  let (ends, step) := sides '/' range ['1']
  let (first, last) := sides '-' ends ends
  let number := fun figures => (valueIn? 16 figures).getD 0
  ⟨number first, number last, number step, note⟩

end CodeRun

namespace CodeTable

/-- The table that a text describes. -/
def ofString (text : String) : CodeTable :=
  ((pieces (fun c => c == ' ' || c == '\n') text.toList).filter (!·.isEmpty)).map CodeRun.ofChars

/-- The run that a character is in. -/
def run? (table : CodeTable) (c : Char) : Option CodeRun :=
  table.find? (·.holds c)

/-- Whether the table has the character in it. -/
def holds (table : CodeTable) (c : Char) : Bool :=
  table.any (·.holds c)


end CodeTable

end GeoFeed.Text

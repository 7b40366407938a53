/-
# GeoFeed.Toml.Text -- blanks, comments, strings and keys

A line ends with a line feed, which may have a carriage return before it.  No
other control character but the tab is allowed anywhere, comments included.

A basic string is written in double quotes and has escapes; a literal string is
written in single quotes and has none.  With three quotes either may go over
several lines, the first of which is passed over when it is empty; up to two
quotes may stand in such a text, also at its very end.  In a basic text a
backslash at the end of a line takes away the blanks and line ends that follow.
-/
import GeoFeed.Text.Figure

namespace GeoFeed.Toml

set_option autoImplicit false

open GeoFeed.Text (figureValue? valueIn?)

/-- A reader: what it read and what is left, unless it refuses the text. -/
abbrev Reader (α : Type) := List Char → Option (α × List Char)

/-! ## Blanks and comments -/

def isBlank (c : Char) : Bool := c == ' ' || c == '\t'

def skipBlanks (cs : List Char) : List Char := cs.dropWhile isBlank

/-- The characters that stand for themselves in comments and strings. -/
def isPlain (c : Char) : Bool := c == '\t' || (0x20 ≤ c.toNat && c.toNat != 0x7F)

/-- What follows a line end. -/
def afterLineEnd? : List Char → Option (List Char)
  | '\n' :: rest => some rest
  | '\r' :: '\n' :: rest => some rest
  | _ => none

/-- A text without the comment that it begins with, if it does. -/
def skipComment : List Char → List Char
  | '#' :: rest => rest.dropWhile isPlain
  | cs => cs

/-- What follows the rest of a line on which nothing more is said. -/
def endLine? (cs : List Char) : Option (List Char) :=
  match skipComment (skipBlanks cs) with
  | [] => some []
  | rest => afterLineEnd? rest

/-- Skip blanks, line ends and comments; a comment must end with its line. -/
def skipSpaceFrom (inComment : Bool) : List Char → Option (List Char)
  | [] => if inComment then none else some []
  | '\n' :: rest => skipSpaceFrom false rest
  | '\r' :: '\n' :: rest => skipSpaceFrom false rest
  | c :: rest =>
      if inComment then if isPlain c then skipSpaceFrom true rest else none
      else if isBlank c then skipSpaceFrom false rest
      else if c == '#' then skipSpaceFrom true rest
      else some (c :: rest)

/-- Skip everything that may stand between the values of an array. -/
def skipSpace? (cs : List Char) : Option (List Char) :=
  skipSpaceFrom false cs

/-! ## Strings -/

/-- The character that so many hexadecimal figures name. -/
def scalar? (width : Nat) (figures : List Char) : Option Char := do
  let n ← valueIn? 16 figures
  if figures.length = width ∧ n.isValidChar then some (Char.ofNat n) else none

/-- The character that an escape stands for, after its backslash. -/
def escape? : Reader Char
  | 'b' :: rest => some ('\x08', rest)
  | 'f' :: rest => some ('\x0c', rest)
  | 'n' :: rest => some ('\n', rest)
  | 'r' :: rest => some ('\r', rest)
  | 't' :: rest => some ('\t', rest)
  | '"' :: rest => some ('"', rest)
  | '\\' :: rest => some ('\\', rest)
  | 'u' :: rest => (scalar? 4 (rest.take 4)).map fun c => (c, rest.drop 4)
  | 'U' :: rest => (scalar? 8 (rest.take 8)).map fun c => (c, rest.drop 8)
  | _ => none

/-- The rest of a basic string of which `seen` has been read, last character
first.  Each step reads at least one character of the line. -/
def basicBody? (seen : List Char) : (steps : Nat) → Reader (List Char)
  | 0, _ => none
  | steps + 1, cs =>
      match cs with
      | '"' :: rest => some (seen.reverse, rest)
      | '\\' :: rest =>
          match escape? rest with
          | some (c, rest) => basicBody? (c :: seen) steps rest
          | none => none
      | c :: rest => if isPlain c then basicBody? (c :: seen) steps rest else none
      | [] => none

/-- The rest of a literal string. -/
def literalBody? : Reader (List Char) := fun cs =>
  let text := cs.takeWhile fun c => isPlain c && c != '\''
  match cs.dropWhile fun c => isPlain c && c != '\'' with
  | '\'' :: rest => some (text, rest)
  | _ => none

/-- Whether nothing but blanks is left of a line. -/
def endsLine (cs : List Char) : Bool :=
  (afterLineEnd? (skipBlanks cs)).isSome

/-- Skip a run of blanks and line ends. -/
def skipJoined : (steps : Nat) → List Char → List Char
  | 0, cs => cs
  | steps + 1, cs =>
      match afterLineEnd? (skipBlanks cs) with
      | some rest => skipJoined steps rest
      | none => skipBlanks cs

/-- The rest of a text over several lines, whose quotes are `quote`; `basic` says
that it has escapes. -/
def linesBody? (quote : Char) (basic : Bool) (seen : List Char) : (steps : Nat) → Reader (List Char)
  | 0, _ => none
  | steps + 1, cs =>
      match cs with
      | [] => none
      | c :: rest =>
          if c = quote then
            match (rest.takeWhile (· == quote)).length with
            | 0 | 1 => linesBody? quote basic (c :: seen) steps rest
            | 2 => some (seen.reverse, rest.drop 2)
            | 3 => some ((quote :: seen).reverse, rest.drop 3)
            | _ => some ((quote :: quote :: seen).reverse, rest.drop 4)
          else if c = '\\' && basic then
            if endsLine rest then linesBody? quote basic seen steps (skipJoined rest.length rest)
            else
              match escape? rest with
              | some (d, rest) => linesBody? quote basic (d :: seen) steps rest
              | none => none
          else
            match afterLineEnd? cs with
            | some rest => linesBody? quote basic ('\n' :: seen) steps rest
            | none => if isPlain c then linesBody? quote basic (c :: seen) steps rest else none

/-- A text over several lines, after its opening quotes. -/
def lines? (quote : Char) (basic : Bool) : Reader (List Char) := fun cs =>
  let body := (afterLineEnd? cs).getD cs
  linesBody? quote basic [] (body.length + 1) body

/-- A string on one line. -/
def line? : Reader (List Char)
  | '"' :: rest => basicBody? [] ((rest.takeWhile isPlain).length + 1) rest
  | '\'' :: rest => literalBody? rest
  | _ => none

/-- A string of any kind. -/
def string? : Reader (List Char)
  | '"' :: '"' :: '"' :: rest => lines? '"' true rest
  | '\'' :: '\'' :: '\'' :: rest => lines? '\'' false rest
  | cs => line? cs

/-! ## Keys -/

/-- The characters of a key without quotes. -/
def isKeyChar (c : Char) : Bool := c.isAlphanum || c == '-' || c == '_'

/-- One part of a key. -/
def simpleKey? : Reader String := fun cs =>
  match cs with
  | '"' :: _ => (line? cs).map fun (text, rest) => (String.ofList text, rest)
  | '\'' :: _ => (line? cs).map fun (text, rest) => (String.ofList text, rest)
  | _ =>
      let name := cs.takeWhile isKeyChar
      if name.isEmpty then none else some (String.ofList name, cs.dropWhile isKeyChar)

/-- The parts of a key, at most so many; `seen` has been read, last part first. -/
def keyParts? (seen : List String) : (most : Nat) → Reader (List String)
  | 0, _ => none
  | most + 1, cs =>
      match simpleKey? (skipBlanks cs) with
      | none => none
      | some (part, rest) =>
          match skipBlanks rest with
          | '.' :: rest => keyParts? (part :: seen) most rest
          | rest => some ((part :: seen).reverse, rest)

/-- How deep keys and values may be nested. -/
def nestingLimit : Nat := 79

/-- A key with the blanks around it. -/
def key? : Reader (List String) :=
  keyParts? [] nestingLimit

end GeoFeed.Toml

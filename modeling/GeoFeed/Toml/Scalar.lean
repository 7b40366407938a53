/-
# GeoFeed.Toml.Scalar -- numbers, truth values and dates

A number is a whole number of 64 bits, in decimal or, with a prefix and without a
sign, in another notation; or it has a fraction or a power of ten and must not be
too large for a floating-point number.  Underscores may stand between figures,
and no decimal number but zero begins with a zero.

A date, a time of day, or both with or without an offset are recognised before
numbers are.
-/
import GeoFeed.Toml.Text
import GeoFeed.Toml.Value

namespace GeoFeed.Toml

set_option autoImplicit false

open GeoFeed.Text (figureValue?)

/-! ## Figures -/

/-- Figures with underscores between them, without the underscores.  An underscore
must have a figure after it. -/
def figures? (isFigure : Char → Bool) (seen : List Char) : Reader (List Char)
  | '_' :: c :: rest =>
      if seen.isEmpty || !isFigure c then none else figures? isFigure (c :: seen) rest
  | c :: rest =>
      if isFigure c then figures? isFigure (c :: seen) rest
      else if seen.isEmpty || c == '_' then none
      else some (seen.reverse, c :: rest)
  | [] => if seen.isEmpty then none else some (seen.reverse, [])

/-- A sign, if there is one; whether it is a minus. -/
def sign : List Char → Bool × List Char
  | '+' :: rest => (false, rest)
  | '-' :: rest => (true, rest)
  | rest => (false, rest)

/-- The figures of a decimal number; a zero at the front stands alone. -/
def decimal? : Reader (List Char)
  | '0' :: rest => some (['0'], rest)
  | cs => figures? Char.isDigit [] cs

/-! ## Numbers -/

def hexFigures (base : Nat) (c : Char) : Bool :=
  match figureValue? c with
  | some d => d < base
  | none => false

/-- The value of figures in a base. -/
def valueOf (base : Nat) (figures : List Char) : Nat :=
  figures.foldl (fun n c => n * base + (figureValue? c).getD 0) 0

def inWord (n : Int) : Bool := -Int.ofNat (Nat.pow 2 63) ≤ n && n < Int.ofNat (Nat.pow 2 63)

/-- A whole number in another notation, after its prefix. -/
def prefixed? (base : Nat) : Reader Value := fun cs => do
  let (figures, rest) ← figures? (hexFigures base) [] cs
  let n := Int.ofNat (valueOf base figures)
  if inWord n then some (.integer n, rest) else none

/-- A whole number. -/
def integer? : Reader Value
  | '0' :: 'x' :: rest => prefixed? 16 rest
  | '0' :: 'o' :: rest => prefixed? 8 rest
  | '0' :: 'b' :: rest => prefixed? 2 rest
  | cs => do
      let (negative, cs) := sign cs
      let (figures, rest) ← decimal? cs
      let size := Int.ofNat (valueOf 10 figures)
      let n := if negative then -size else size
      if inWord n then some (.integer n, rest) else none

/-- The power of ten after the `e` of a number, if there is one. -/
def exponent? : Reader (Option Int) := fun cs =>
  match cs with
  | c :: rest =>
      if c == 'e' || c == 'E' then do
        let (negative, rest) := sign rest
        let (figures, rest) ← figures? Char.isDigit [] rest
        let size := Int.ofNat (valueOf 10 figures)
        some (some (if negative then -size else size), rest)
      else some (none, cs)
  | [] => some (none, [])

/-- The figures after a point, if there is one. -/
def fraction? : Reader (Option (List Char)) := fun cs =>
  match cs with
  | '.' :: rest => (figures? Char.isDigit [] rest).map fun (figures, rest) => (some figures, rest)
  | _ => some (none, cs)

/-- Whether `n * 10^e` is nearer to the next power of two than to the largest
floating-point number, or larger still. -/
def isTooLarge (n : Nat) (e : Int) : Bool :=
  let least := Nat.pow 2 1024 - Nat.pow 2 970
  if n = 0 then false
  else if 400 < e then true
  else if 0 ≤ e then least ≤ n * Nat.pow 10 e.toNat
  else
    let down := (-e).toNat
    if Nat.log2 n < 3 * down then false else least * Nat.pow 10 down ≤ n

/-- A number with a fraction or a power of ten. -/
def float? : Reader Value := fun cs => do
  let (negative, afterSign) := sign cs
  let (whole, rest) ← decimal? afterSign
  let (fraction, rest) ← fraction? rest
  let (power, rest) ← exponent? rest
  if fraction.isNone && power.isNone then none
  let digits := whole ++ fraction.getD []
  let scale := power.getD 0 - Int.ofNat (fraction.getD []).length
  if !negative && isTooLarge (valueOf 10 digits) scale then none
  some (.float (String.ofList (cs.take (cs.length - rest.length))), rest)

/-- What follows a word that a text begins with. -/
def word? (word : String) (cs : List Char) : Option (List Char) :=
  if word.toList.isPrefixOf cs then some (cs.drop word.length) else none

/-- An infinite number, or none at all. -/
def specialFloat? : Reader Value := fun cs =>
  let (negative, rest) := sign cs
  let mark := if negative then "-" else ""
  match word? "inf" rest, word? "nan" rest with
  | some rest, _ => some (.float (mark ++ "inf"), rest)
  | _, some rest => some (.float (mark ++ "nan"), rest)
  | _, _ => none

/-! ## Dates and times -/

/-- A number of exactly so many figures within bounds. -/
def bounded? (width low high : Nat) : Reader Nat := fun cs =>
  let figures := cs.take width
  let n := valueOf 10 figures
  if figures.length = width && figures.all Char.isDigit && low ≤ n && n ≤ high then
    some (n, cs.drop width)
  else none

/-- What follows a mark. -/
def mark? (mark : Char) : List Char → Option (List Char)
  | c :: rest => if c = mark then some rest else none
  | [] => none

/-- The number of days of a month. -/
def daysIn (year month : Nat) : Nat :=
  if month = 2 then
    if year % 4 = 0 ∧ (year % 100 ≠ 0 ∨ year % 400 = 0) then 29 else 28
  else if month = 4 ∨ month = 6 ∨ month = 9 ∨ month = 11 then 30
  else 31

/-- A date; what follows it. -/
def day? (cs : List Char) : Option (List Char) := do
  let (year, cs) ← bounded? 4 0 9999 cs
  let (month, cs) ← bounded? 2 1 12 (← mark? '-' cs)
  let (_, cs) ← bounded? 2 1 (daysIn year month) (← mark? '-' cs)
  pure cs

/-- A time of day; what follows it. -/
def time? (cs : List Char) : Option (List Char) := do
  let (_, cs) ← bounded? 2 0 23 cs
  let (_, cs) ← bounded? 2 0 59 (← mark? ':' cs)
  let (_, cs) ← bounded? 2 0 60 (← mark? ':' cs)
  match cs with
  | '.' :: c :: rest => if c.isDigit then some (rest.dropWhile Char.isDigit) else some cs
  | _ => some cs

/-- An offset, if there is one; what follows it. -/
def offset? (cs : List Char) : Option (List Char) :=
  match cs with
  | 'Z' :: rest => some rest
  | 'z' :: rest => some rest
  | c :: rest =>
      if c == '+' || c == '-' then do
        let (_, rest) ← bounded? 2 0 23 rest
        let (_, rest) ← bounded? 2 0 59 (← mark? ':' rest)
        pure rest
      else some cs
  | [] => some []

/-- What follows a time of day and its offset, after the mark that parts it from
its date; nothing is passed over where no time stands there. -/
def timeAfterDay? (cs : List Char) : Option (List Char) :=
  match cs with
  | c :: rest =>
      if c == 'T' || c == 't' || c == ' ' then
        match time? rest with
        | some rest => offset? rest
        | none => some cs
      else some cs
  | [] => some []

/-- A date, a time of day, or both. -/
def date? : Reader Value := fun cs => do
  let rest ← match day? cs with
    | some rest => timeAfterDay? rest
    | none => time? cs
  some (.date (String.ofList (cs.take (cs.length - rest.length))), rest)

/-! ## Scalars -/

/-- A value that is neither an array nor a table. -/
def scalarValue? : Reader Value := fun cs =>
  match cs with
  | '"' :: _ => (string? cs).map fun (text, rest) => (.string (String.ofList text), rest)
  | '\'' :: _ => (string? cs).map fun (text, rest) => (.string (String.ofList text), rest)
  | 't' :: _ => (word? "true" cs).map fun rest => (.boolean true, rest)
  | 'f' :: _ => (word? "false" cs).map fun rest => (.boolean false, rest)
  | _ => (((date? cs).or (float? cs)).or (specialFloat? cs)).or (integer? cs)

end GeoFeed.Toml

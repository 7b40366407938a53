/-
# GeoFeed.Url.Address -- numeric hosts

An IPv4 address may be spelled with one to four numbers, each in decimal, octal
or hexadecimal notation; the last number fills all the bytes that are left.  It
is always written as four decimal bytes.

An IPv6 address has eight pieces of sixteen bits, of which one run of zeros may
be left out, and the last two may be spelled as an IPv4 address.  It is written
with its first longest run of two or more zeros left out.
-/
import GeoFeed.Decimal.Positional
import GeoFeed.Text.Cut
import GeoFeed.Url.Error
import GeoFeed.Url.Percent

namespace GeoFeed.Url

set_option autoImplicit false

namespace Ipv4

/-- A number in the notation that its beginning announces. -/
def number? : List Char → Option Nat
  | [] => none
  | '0' :: 'x' :: rest => Text.valueIn? 16 rest
  | '0' :: 'X' :: rest => Text.valueIn? 16 rest
  | '0' :: c :: rest => Text.valueIn? 8 (c :: rest)
  | cs => Text.valueIn? 10 cs

/-- Whether a domain ends in a number, and so is meant as an address. -/
def endsInNumber (domain : List Char) : Bool :=
  let labels := (Text.pieces (· == '.') domain).reverse
  let last := match labels with
    | [] :: last :: _ => some last
    | [] :: [] => none
    | last :: _ => some last
    | [] => none
  match last with
  | some label => (!label.isEmpty && label.all Char.isDigit) || (number? label).isSome
  | none => false

/-- The numbers of an address, the first one first. -/
def combine? (numbers : List Nat) : Option Nat :=
  match numbers.reverse with
  | [] => none
  | last :: front =>
      let front := front.reverse
      if front.length ≤ 3 && front.all (· ≤ 255) && last < Nat.pow 256 (4 - front.length) then
        some (front.foldl (fun n b => n * 256 + b) 0 * Nat.pow 256 (4 - front.length) + last)
      else none

/-- The address that a domain spells; one point at the end is passed over. -/
def ofDomain? (domain : List Char) : Option Nat := do
  let labels := Text.pieces (· == '.') domain
  let labels := if labels.getLast? = some [] then labels.dropLast else labels
  combine? (← labels.mapM number?)

def toChars (address : Nat) : List Char :=
  let byte (k : Nat) := Decimal.digitsOf (address / Nat.pow 256 k % 256)
  byte 3 ++ '.' :: (byte 2 ++ '.' :: (byte 1 ++ '.' :: byte 0))

end Ipv4

namespace Ipv6

/-- The value of one piece, at most four figures, and what follows it. -/
def piece (cs : List Char) : Nat × Nat × List Char :=
  let figures := (cs.take 4).takeWhile fun c => (Text.figureValue? c).isSome
  (figures.foldl (fun n c => n * 16 + (Text.figureValue? c).getD 0) 0, figures.length,
    cs.drop figures.length)

/-- A decimal byte without leading zeros, and what follows it. -/
def byte? (cs : List Char) : Option (Nat × List Char) :=
  let figures := cs.takeWhile Char.isDigit
  let value := Nat.ofDigitChars 10 figures 0
  match figures with
  | [] => none
  | '0' :: _ :: _ => none
  | _ => if value ≤ 255 then some (value, cs.drop figures.length) else none

/-- An IPv4 address at the end, as two pieces. -/
def tail? (cs : List Char) : Option (List Nat) := do
  let (a, cs) ← byte? cs
  let cs ← point? cs
  let (b, cs) ← byte? cs
  let cs ← point? cs
  let (c, cs) ← byte? cs
  let cs ← point? cs
  let (d, cs) ← byte? cs
  if cs.isEmpty then pure [a * 256 + b, c * 256 + d] else none
where
  point? : List Char → Option (List Char)
    | '.' :: rest => some rest
    | _ => none

/-- Read pieces until the end: those read, in order, and the number of pieces
before the run that is left out.  `count` pieces have been read before, and each
step reads one more; `start` says that a piece must come now. -/
def pieces? : (steps : Nat) → (read : List Nat) → (gap : Option Nat) → List Char →
    Option (List Nat × Option Nat)
  | 0, _, _, _ => none
  | steps + 1, read, gap, cs =>
      match cs with
      | [] => some (read.reverse, gap)
      | ':' :: rest =>
          if gap.isSome || read.length ≥ 8 then none
          else pieces? steps read (some read.length) rest
      | _ =>
          if read.length ≥ 8 then none
          else
            let (value, width, rest) := piece cs
            match rest with
            | '.' :: _ =>
                if width = 0 || read.length > 6 then none
                else (tail? cs).map fun two => (read.reverse ++ two, gap)
            | ':' :: more => if more.isEmpty then none else pieces? steps (value :: read) gap more
            | [] => pieces? steps (value :: read) gap []
            | _ => none

/-- The eight pieces that a text spells. -/
def ofText? (cs : List Char) : Option (List Nat) := do
  let cs ← match cs with
    | ':' :: ':' :: rest => some (':' :: rest)
    | ':' :: _ => none
    | cs => some cs
  let (read, gap) ← pieces? (cs.length + 1) [] none cs
  match gap with
  | none => if read.length = 8 then some read else none
  | some before =>
      if read.length ≤ 8 then
        some (read.take before ++ List.replicate (8 - read.length) 0 ++ read.drop before)
      else none

/-- The first longest run of zeros, as its place and length. -/
def longestZeros (pieces : List Nat) : Nat × Nat :=
  let runs := (List.range pieces.length).map fun k =>
    (k, ((pieces.drop k).takeWhile (· == 0)).length)
  runs.foldl (fun best run => if best.2 < run.2 then run else best) (0, 0)

def pieceChars (n : Nat) : List Char :=
  Nat.toDigits 16 n

def toChars (pieces : List Nat) : List Char :=
  let joined (ps : List Nat) := List.intercalate [':'] (ps.map pieceChars)
  let (place, length) := longestZeros pieces
  if length < 2 then joined pieces
  else joined (pieces.take place) ++ ':' :: ':' :: joined (pieces.drop (place + length))

end Ipv6

end GeoFeed.Url

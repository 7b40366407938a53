/-
# GeoFeed.Url.Punycode -- labels beyond ASCII spelled in ASCII

A label is spelled as its ASCII letters, a hyphen if there are any, and a number
for each of its other letters.  Those letters are put in one after the other,
lower code points first, equal ones from left to right.  A number tells how many
possible places for them are passed over: for each code point in turn there is
one place before, between and behind the letters that are there already.

A number is written with figures of base thirty-six, low figures first.  How
much a figure can hold is bounded by a threshold that depends on the numbers
before it, so that a figure below its threshold ends the number.
-/
import GeoFeed.Text.Cut

namespace GeoFeed.Url.Punycode

set_option autoImplicit false

/-! ## Figures -/

/-- `a` to `z` stand for 0 to 25 and `0` to `9` for the rest. -/
def figure (n : Nat) : Char :=
  Char.ofNat (if n < 26 then 97 + n else 22 + n)

def figureValue? (c : Char) : Option Nat :=
  if 'a' ≤ c ∧ c ≤ 'z' then some (c.toNat - 97)
  else if 'A' ≤ c ∧ c ≤ 'Z' then some (c.toNat - 65)
  else if '0' ≤ c ∧ c ≤ '9' then some (c.toNat - 22)
  else none

/-! ## Numbers -/

/-- The threshold of the figure at a place, counted in steps of thirty-six. -/
def threshold (bias place : Nat) : Nat :=
  min 26 (max 1 (place - bias))

theorem threshold_pos (bias place : Nat) : 0 < threshold bias place := by
  unfold threshold; omega

theorem threshold_le (bias place : Nat) : threshold bias place ≤ 26 := by
  unfold threshold; omega

/-- The figures of a number from a place on. -/
def numberFrom (bias place n : Nat) : List Char :=
  let t := threshold bias place
  if n < t then [figure n]
  else figure (t + (n - t) % (36 - t)) :: numberFrom bias (place + 36) ((n - t) / (36 - t))
termination_by n
decreasing_by
  have low := threshold_pos bias place
  have quotient := Nat.div_le_self (n - threshold bias place) (36 - threshold bias place)
  omega

/-- The number at the front of a text and what follows it; a figure at this place
counts `weight` times. -/
def numberAt? (bias place weight : Nat) : List Char → Option (Nat × List Char)
  | [] => none
  | c :: rest => do
      let n ← figureValue? c
      let t := threshold bias place
      if n < t then some (n * weight, rest)
      else
        let (more, rest) ← numberAt? bias (place + 36) (weight * (36 - t)) rest
        some (n * weight + more, rest)

theorem length_of_numberAt? {bias place weight n : Nat} {cs rest : List Char}
    (h : numberAt? bias place weight cs = some (n, rest)) : rest.length < cs.length := by
  induction cs generalizing place weight n with
  | nil => simp [numberAt?] at h
  | cons c cs ih =>
      simp only [numberAt?, Option.bind_eq_bind, Option.bind_eq_some_iff] at h
      obtain ⟨d, -, h⟩ := h
      split at h
      · simp only [Option.some.injEq, Prod.mk.injEq] at h
        simp [← h.2]
      · obtain ⟨⟨more, after⟩, found, h⟩ := Option.bind_eq_some_iff.1 h
        simp only [Option.some.injEq, Prod.mk.injEq] at h
        have shorter := ih (h.2 ▸ found)
        simp only [List.length_cons]
        omega

/-! ## How thresholds follow the numbers -/

/-- Divide until the number is small, and count by thirty-six. -/
def scaled (count n : Nat) : Nat :=
  if 455 < n then scaled (count + 36) (n / 35) else count + 36 * n / (n + 38)
termination_by n
decreasing_by exact Nat.div_lt_self (by omega) (by decide)

/-- The bias after a number was written, when so many letters are there. -/
def nextBias (n letters : Nat) (isFirst : Bool) : Nat :=
  let n := if isFirst then n / 700 else n / 2
  scaled 0 (n + n / letters)

/-! ## Spelling -/

/-- A letter beyond ASCII, with the place where it is put in. -/
structure Insertion where
  code : Nat
  place : Nat
deriving Repr, DecidableEq

/-- The letters beyond ASCII in the order in which they are put in. -/
def insertions (cs : List Char) : List Insertion :=
  let beyond := cs.zipIdx.filter fun (c, _) => 128 ≤ c.toNat
  (beyond.mergeSort fun (c, _) (d, _) => c.toNat ≤ d.toNat).map fun (c, i) =>
    ⟨c.toNat, (cs.take i).countP fun d => d.toNat ≤ c.toNat⟩

/-- Write the numbers of insertions when so many letters are there, and the places
before `place` of the code point `code` are passed. -/
def write (isFirst : Bool) (bias letters code place : Nat) : List Insertion → List Char
  | [] => []
  | next :: rest =>
      let n := (next.code - code) * (letters + 1) + next.place - place
      numberFrom bias 36 n ++
        write false (nextBias n (letters + 1) isFirst) (letters + 1) next.code (next.place + 1) rest

/-- The spelling of a label. -/
def encode (cs : List Char) : List Char :=
  let plain := cs.filter fun c => c.toNat < 128
  plain ++ (if plain.isEmpty then [] else ['-']) ++
    write true 72 plain.length 128 0 (insertions cs)

/-! ## Reading -/

/-- Put in the letters whose numbers are written. -/
def read? (isFirst : Bool) (bias code place : Nat) (label cs : List Char) : Option (List Char) :=
  if cs.isEmpty then some label
  else
    match _ : numberAt? bias 36 1 cs with
    | none => none
    | some (n, rest) =>
        let places := label.length + 1
        let next := code + (place + n) / places
        if Nat.isValidChar next then
          read? false (nextBias n places isFirst) next ((place + n) % places + 1)
            (label.insertIdx ((place + n) % places) (Char.ofNat next)) rest
        else none
termination_by cs.length
decreasing_by exact length_of_numberAt? (by assumption)

/-- The parts before and behind the last hyphen, which no text begins with. -/
def cutLast (cs : List Char) : List Char × List Char :=
  match Text.cut? '-' cs.reverse with
  | some (back, front) => if front.isEmpty then ([], cs) else (front.reverse, back.reverse)
  | none => ([], cs)

/-- The label of a spelling. -/
def decode? (cs : List Char) : Option (List Char) :=
  let (plain, numbers) := cutLast cs
  if plain.all fun c => c.toNat < 128 then read? true 72 128 0 plain numbers else none

end GeoFeed.Url.Punycode

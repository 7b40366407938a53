/-
# GeoFeed.Decimal.Positional -- the text of a number

A number is written with the fewest digits that read back to it, always in
positional notation: never with an exponent, and without a point when it is
whole.  A zero keeps its sign.  What is not finite is `inf`, `-inf` or `NaN`.

`toText_chars` lists the characters such a text is made of; none of them is
blank and none means anything to XML.
-/
import GeoFeed.Decimal.Shortest

namespace GeoFeed.Decimal

set_option autoImplicit false

/-- The parts of a binary number of 64 bits. -/
inductive Reading where
  | notANumber
  | infinite (negative : Bool)
  | finite (negative : Bool) (magnitude : Magnitude)
deriving Repr, DecidableEq

/-- Read the sign, the eleven bits of exponent and the fifty-two of fraction. -/
def Reading.ofBits (bits : UInt64) : Reading :=
  let n : Nat := bits.toNat
  let negative := decide (Nat.pow 2 63 ≤ n)
  let power : Nat := n / Nat.pow 2 52 % Nat.pow 2 11
  let fraction : Nat := n % Nat.pow 2 52
  if power = 2047 then
    if fraction = 0 then .infinite negative else .notANumber
  else if power = 0 then .finite negative ⟨fraction, -1074, false⟩
  else .finite negative ⟨fraction + Nat.pow 2 52, Int.ofNat power - 1075, fraction == 0 && power != 1⟩

/-- The decimal digits of a natural number. -/
def digitsOf (n : Nat) : List Char :=
  Nat.toDigits 10 n

/-- `digits * 10^exponent` in positional notation. -/
def Scaled.toChars (s : Scaled) : List Char :=
  let digits := digitsOf s.digits
  if 0 ≤ s.exponent then digits ++ List.replicate s.exponent.toNat '0'
  else
    let places := (-s.exponent).toNat
    if digits.length ≤ places then
      '0' :: '.' :: (List.replicate (places - digits.length) '0' ++ digits)
    else digits.take (digits.length - places) ++ '.' :: digits.drop (digits.length - places)

def Magnitude.toChars (v : Magnitude) : List Char :=
  if v.significand = 0 then ['0'] else v.shortest.toChars

def signed (negative : Bool) (text : List Char) : List Char :=
  if negative then '-' :: text else text

def Reading.toChars : Reading → List Char
  | .notANumber => ['N', 'a', 'N']
  | .infinite negative => signed negative ['i', 'n', 'f']
  | .finite negative magnitude => signed negative magnitude.toChars

/-- The text of a number. -/
def toText (x : Float) : String :=
  String.ofList (Reading.ofBits x.toBits).toChars

/-! ## What the text is made of -/

/-- Digits, signs, points and the letters of `inf` and `NaN`. -/
def isNumberChar (c : Char) : Bool :=
  c.isDigit || c == '-' || c == '.' || c == 'i' || c == 'n' || c == 'f' || c == 'N' || c == 'a'

theorem isNumberChar_of_mem_digitsOf {n : Nat} {c : Char} (h : c ∈ digitsOf n) :
    isNumberChar c = true := by
  have digit := Nat.isDigit_of_mem_toDigits (by decide) (by decide) h
  simp [isNumberChar, digit]

theorem Scaled.toChars_chars (s : Scaled) {c : Char} (h : c ∈ s.toChars) :
    isNumberChar c = true := by
  have digit : ∀ {d}, d ∈ digitsOf s.digits → isNumberChar d = true :=
    fun hd => isNumberChar_of_mem_digitsOf hd
  have zero : ∀ {d n}, d ∈ List.replicate n '0' → isNumberChar d = true := by
    intro d n hd
    rw [List.eq_of_mem_replicate hd]
    decide
  simp only [Scaled.toChars] at h
  split at h
  · rcases List.mem_append.1 h with h | h
    · exact digit h
    · exact zero h
  · split at h
    · simp only [List.mem_cons, List.mem_append] at h
      rcases h with rfl | rfl | h | h
      · decide
      · decide
      · exact zero h
      · exact digit h
    · simp only [List.mem_append, List.mem_cons] at h
      rcases h with h | rfl | h
      · exact digit (List.mem_of_mem_take h)
      · decide
      · exact digit (List.mem_of_mem_drop h)

theorem Scaled.toChars_ne_nil (s : Scaled) : s.toChars ≠ [] := by
  simp only [Scaled.toChars]
  split
  · simp [digitsOf, Nat.toDigits_ne_nil]
  · split <;> simp

theorem Reading.toChars_ne_nil (r : Reading) : r.toChars ≠ [] := by
  cases r with
  | notANumber => simp [Reading.toChars]
  | infinite negative => cases negative <;> simp [Reading.toChars, signed]
  | finite negative magnitude =>
      cases negative
      · simp only [Reading.toChars, signed, Magnitude.toChars, Bool.false_eq_true, if_false]
        split
        · simp
        · exact Scaled.toChars_ne_nil _
      · simp [Reading.toChars, signed]

theorem Reading.toChars_chars (r : Reading) {c : Char} (h : c ∈ r.toChars) :
    isNumberChar c = true := by
  cases r with
  | notANumber =>
      simp only [Reading.toChars, List.mem_cons, List.not_mem_nil, or_false] at h
      rcases h with rfl | rfl | rfl <;> decide
  | infinite negative =>
      have among : c = '-' ∨ c = 'i' ∨ c = 'n' ∨ c = 'f' := by
        cases negative <;> simp only [Reading.toChars, signed, Bool.false_eq_true, if_true, if_false,
          List.mem_cons, List.not_mem_nil, or_false] at h <;> grind
      rcases among with rfl | rfl | rfl | rfl <;> decide
  | finite negative magnitude =>
      have inside : ∀ d ∈ magnitude.toChars, isNumberChar d = true := by
        intro d hd
        simp only [Magnitude.toChars] at hd
        split at hd
        · simp only [List.mem_singleton] at hd
          subst hd
          decide
        · exact Scaled.toChars_chars _ hd
      cases negative
      · exact inside c (by simpa [Reading.toChars, signed] using h)
      · simp only [Reading.toChars, signed, if_true, List.mem_cons] at h
        rcases h with rfl | h
        · decide
        · exact inside c h

theorem toText_chars (x : Float) {c : Char} (h : c ∈ (toText x).toList) : isNumberChar c = true :=
  Reading.toChars_chars _ (by simpa [toText] using h)

theorem toText_ne_nil (x : Float) : (toText x).toList ≠ [] := by
  simpa [toText] using Reading.toChars_ne_nil _

end GeoFeed.Decimal

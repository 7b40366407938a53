/-
# GeoFeed.Proofs.Text.ByteOrder -- the order of texts is that of their bytes

Texts are compared character by character, and so are the names in a table.  Their bytes in
UTF-8 are compared byte by byte, and the order is the same.  A character is one to four
bytes, as its number needs (`Encodes`).  One of more bytes has a greater first byte; of two
characters with as many bytes, the first byte has the highest places of the number and the
others follow in order.  So the bytes of two characters differ before either ends
(`Encodes.append_lt`), and what follows them has no say.

Main statement: `utf8Bytes_lt_iff`.
-/
import GeoFeed.Output

namespace GeoFeed.Text

set_option autoImplicit false

/-- The bytes of the character with the given number: the first one has the highest places, behind
a mark of how many bytes there are, and each of the others six more. -/
inductive Encodes (n : Nat) : List UInt8 → Prop where
  | one {a : UInt8} (size : n < 0x80) (first : a.toNat = n) : Encodes n [a]
  | two {a b : UInt8} (size : 0x80 ≤ n ∧ n < 0x800) (first : a.toNat = 0xC0 + n / 64)
      (second : b.toNat = 0x80 + n % 64) : Encodes n [a, b]
  | three {a b c : UInt8} (size : 0x800 ≤ n ∧ n < 0x10000) (first : a.toNat = 0xE0 + n / 4096)
      (second : b.toNat = 0x80 + n / 64 % 64) (third : c.toNat = 0x80 + n % 64) : Encodes n [a, b, c]
  | four {a b c d : UInt8} (size : 0x10000 ≤ n ∧ n < 0x110000)
      (first : a.toNat = 0xF0 + n / 262144) (second : b.toNat = 0x80 + n / 4096 % 64)
      (third : c.toNat = 0x80 + n / 64 % 64) (fourth : d.toNat = 0x80 + n % 64) :
      Encodes n [a, b, c, d]

theorem encodes_utf8EncodeChar (c : Char) : Encodes c.val.toNat (String.utf8EncodeChar c) := by
  have bound : c.val.toNat < 0x110000 := by
    have valid := c.valid
    simp only [UInt32.isValidChar, Nat.isValidChar] at valid
    omega
  have byte {n value : Nat} (same : n % 256 = value) : (UInt8.ofNat n).toNat = value := by
    rw [UInt8.toNat_ofNat', same]
  unfold String.utf8EncodeChar
  simp only
  split
  · exact .one (by omega) (byte (by omega))
  · split
    · exact .two (by omega) (byte (by omega)) (byte (by omega))
    · split
      · exact .three (by omega) (byte (by omega)) (byte (by omega)) (byte (by omega))
      · exact .four (by omega) (byte (by omega)) (byte (by omega)) (byte (by omega))
          (byte (by omega))

/-- **The bytes of a greater number are greater,** whatever follows either. -/
theorem Encodes.append_lt {m n : Nat} {front front' : List UInt8} (encodes : Encodes m front)
    (encodes' : Encodes n front') (less : m < n) (rest rest' : List UInt8) :
    front ++ rest < front' ++ rest' := by
  cases encodes <;> cases encodes' <;>
    simp only [List.cons_append, List.nil_append, List.cons_lt_cons_iff, UInt8.lt_iff_toNat_lt,
      ← UInt8.toNat_inj] <;>
    omega

theorem utf8EncodeChar_append_lt {c d : Char} (less : c < d) (rest rest' : List UInt8) :
    String.utf8EncodeChar c ++ rest < String.utf8EncodeChar d ++ rest' :=
  (encodes_utf8EncodeChar c).append_lt (encodes_utf8EncodeChar d) less rest rest'

theorem utf8Bytes_cons (c : Char) (rest : List Char) :
    utf8Bytes (c :: rest) = String.utf8EncodeChar c ++ utf8Bytes rest :=
  List.flatMap_cons

theorem utf8Bytes_lt_of_lt {cs ds : List Char} (less : cs < ds) : utf8Bytes cs < utf8Bytes ds := by
  induction cs generalizing ds with
  | nil =>
      cases ds with
      | nil => exact absurd less (List.lt_irrefl [])
      | cons d ds =>
          rw [utf8Bytes_cons]
          obtain ⟨b, bytes, spelled⟩ := List.exists_cons_of_ne_nil (String.utf8EncodeChar_ne_nil (c := d))
          rw [spelled]
          exact List.nil_lt_cons _ _
  | cons c cs ih =>
      cases ds with
      | nil => exact absurd less (List.not_lt_nil _)
      | cons d ds =>
          rw [utf8Bytes_cons, utf8Bytes_cons]
          rcases List.cons_lt_cons_iff.1 less with first | ⟨rfl, others⟩
          · exact utf8EncodeChar_append_lt first _ _
          · exact List.append_left_lt (ih others)

/-- **Texts are in the order of their bytes.** -/
theorem utf8Bytes_lt_iff {s t : String} : utf8Bytes s.toList < utf8Bytes t.toList ↔ s < t := by
  constructor
  · intro less
    apply Decidable.byContradiction
    intro notLess
    rcases Decidable.em (t < s) with greater | notGreater
    · exact List.lt_asymm less (utf8Bytes_lt_of_lt (String.lt_iff.1 greater))
    · have same := String.le_antisymm (String.not_lt.1 notGreater) (String.not_lt.1 notLess)
      rw [same] at less
      exact List.lt_irrefl _ less
  · intro less
    exact utf8Bytes_lt_of_lt (String.lt_iff.1 less)

end GeoFeed.Text

/-
# GeoFeed.Url.Percent -- percent-encoded bytes

A byte is percent-encoded as a percent sign and two hexadecimal figures, capital
letters among them.  A part of a URL encodes the characters of its set and every
character outside ASCII; the sets here are named for the parts that use them.
Decoding leaves a percent sign alone that is not followed by two figures.
-/
import GeoFeed.Text.Figure

namespace GeoFeed.Url

set_option autoImplicit false

open Text (figure figureValue?)

def encodeByte (b : UInt8) : List Char :=
  ['%', figure (b.toNat / 16), figure (b.toNat % 16)]

/-- The percent-encoded bytes of a character. -/
def encodeBytes (c : Char) : List Char :=
  (String.utf8EncodeChar c).flatMap encodeByte

/-- Encode the characters of a set and those outside ASCII. -/
def percentEncode (set : Char → Bool) (cs : List Char) : List Char :=
  cs.flatMap fun c => if c.toNat < 128 && !set c then [c] else encodeBytes c

/-- The bytes of a text in which percent-encoded bytes stand for themselves. -/
def percentDecode : List Char → List UInt8
  | '%' :: a :: b :: rest =>
      match figureValue? a, figureValue? b with
      | some high, some low => UInt8.ofNat (high * 16 + low) :: percentDecode rest
      | _, _ => 0x25 :: percentDecode (a :: b :: rest)
  | c :: rest => String.utf8EncodeChar c ++ percentDecode rest
  | [] => []

/-- The text that bytes spell in UTF-8. -/
def textOfBytes? (bytes : List UInt8) : Option String :=
  String.fromUTF8? (ByteArray.mk bytes.toArray)

/-! ## Decoding what was encoded -/

theorem percentDecode_encodeByte (b : UInt8) (rest : List Char) :
    percentDecode (encodeByte b ++ rest) = b :: percentDecode rest := by
  have small := b.toNat_lt
  have high := Text.figureValue?_figure (n := b.toNat / 16) (by omega)
  have low := Text.figureValue?_figure (n := b.toNat % 16) (by omega)
  simp only [encodeByte, List.cons_append, List.nil_append, percentDecode, high, low]
  rw [Nat.div_add_mod', UInt8.ofNat_toNat]

/-- A character that is no percent sign stands for itself. -/
theorem percentDecode_cons {c : Char} (h : c ≠ '%') (rest : List Char) :
    percentDecode (c :: rest) = String.utf8EncodeChar c ++ percentDecode rest := by
  rw [percentDecode]
  rintro a b tail rfl
  exact absurd rfl h

/-- The bytes of a text spell it. -/
theorem textOfBytes?_toByteArray (s : String) : textOfBytes? s.toByteArray.data.toList = some s := by
  have same : ByteArray.mk s.toByteArray.data.toList.toArray = s.toByteArray := by simp
  rw [textOfBytes?, same, String.fromUTF8?, dif_pos s.isValidUTF8]
  rfl

/-! ## What each part encodes -/

def isControl (c : Char) : Bool :=
  c.toNat < 0x20 || c.toNat == 0x7F

def inFragmentSet (c : Char) : Bool :=
  isControl c || c == ' ' || c == '"' || c == '<' || c == '>' || c.toNat == 0x60

def inPathSet (c : Char) : Bool :=
  inFragmentSet c || c == '#' || c == '?' || c == '\x7b' || c == '\x7d'

def inUserinfoSet (c : Char) : Bool :=
  inPathSet c || c == '/' || c == ':' || c == ';' || c == '=' || c == '@' || c == '[' ||
    c == '\\' || c == ']' || c == '^' || c == '|'

/-- The set for queries; special URLs encode the apostrophe too. -/
def inQuerySet (special : Bool) (c : Char) : Bool :=
  isControl c || c == ' ' || c == '"' || c == '#' || c == '<' || c == '>' ||
    (special && c == '\'')

end GeoFeed.Url

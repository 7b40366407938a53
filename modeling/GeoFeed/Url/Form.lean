/-
# GeoFeed.Url.Form -- form-urlencoded pairs

A list of names and values is written as `name=value` pairs with ampersands
between them.  Letters and figures of ASCII and the four marks `*`, `-`, `.` and
`_` stand for themselves, a space is a plus sign, and every other byte is
percent-encoded.

Each byte is encoded on its own, so the encoding of a text is the encodings of
its bytes in order.  A reader cuts at the ampersands and at the first equals sign
of each piece; since an encoding has neither in it, every list of pairs reads
back (`decodePairs?_encodePairs`).
-/
import GeoFeed.Text.Cut
import GeoFeed.Url.Percent

namespace GeoFeed.Url.Form

set_option autoImplicit false

/-- The bytes that stand for themselves. -/
def isPlain (b : UInt8) : Bool :=
  let n := b.toNat
  (48 ≤ n && n ≤ 57) || (65 ≤ n && n ≤ 90) || (97 ≤ n && n ≤ 122) ||
    n == 0x2A || n == 0x2D || n == 0x2E || n == 0x5F

def encodeByte (b : UInt8) : List Char :=
  if isPlain b then [Char.ofNat b.toNat]
  else if b == 0x20 then ['+']
  else Url.encodeByte b

/-- The encoding of a text. -/
def encode (s : String) : List Char :=
  s.toByteArray.data.toList.flatMap encodeByte

/-- The encoding of a list of pairs. -/
def encodePairs (pairs : List (String × String)) : List Char :=
  List.intercalate ['&'] (pairs.map fun (name, value) => encode name ++ '=' :: encode value)

/-! ## Reading -/

/-- A space is a plus sign. -/
def spaceOfPlus (c : Char) : Char := if c = '+' then ' ' else c

/-- The text of an encoding, if its bytes spell one. -/
def decode? (cs : List Char) : Option String :=
  textOfBytes? (percentDecode (cs.map spaceOfPlus))

/-- The name and the value in a piece; without an equals sign it is all name. -/
def decodePair? (piece : List Char) : Option (String × String) := do
  let (name, value) := (Text.cut? '=' piece).getD (piece, [])
  pure (← decode? name, ← decode? value)

/-- The pairs of a query; empty pieces are passed over. -/
def decodePairs? (cs : List Char) : Option (List (String × String)) :=
  ((Text.pieces (· == '&') cs).filter (!·.isEmpty)).mapM decodePair?

/-! ## What is written reads back -/

/-- The characters of a plain byte. -/
theorem plain_cases {b : UInt8} (h : isPlain b = true) :
    Char.ofNat b.toNat ∉ ['%', '+', '&', '='] ∧ String.utf8EncodeChar (Char.ofNat b.toNat) = [b] := by
  have all : ∀ n ∈ List.range 256, isPlain (UInt8.ofNat n) = true →
      Char.ofNat n ∉ ['%', '+', '&', '='] ∧
        String.utf8EncodeChar (Char.ofNat n) = [UInt8.ofNat n] := by decide +kernel
  have := all b.toNat (List.mem_range.2 b.toNat_lt)
  rw [UInt8.ofNat_toNat] at this
  exact this h

theorem figure_ne_plus {n : Nat} (h : n < 16) : Text.figure n ∉ ['+', '&', '='] := by
  have all : ∀ m ∈ List.range 16, Text.figure m ∉ ['+', '&', '='] := by decide
  exact all n (List.mem_range.2 h)

/-- An encoding has none of the marks of a list of pairs in it. -/
theorem not_mark_of_mem_encodeByte {b : UInt8} {c : Char} (h : c ∈ encodeByte b) :
    c ≠ '&' ∧ c ≠ '=' := by
  unfold encodeByte at h
  split at h
  · rename_i plain
    have := (plain_cases plain).1
    simp_all
  · split at h
    · simp_all
    · have small := b.toNat_lt
      have high := figure_ne_plus (n := b.toNat / 16) (by omega)
      have low := figure_ne_plus (n := b.toNat % 16) (by omega)
      simp only [Url.encodeByte, List.mem_cons, List.not_mem_nil, or_false] at h
      rcases h with rfl | rfl | rfl
      · decide
      · simp_all
      · simp_all

theorem not_mark_of_mem_encode {s : String} {c : Char} (h : c ∈ encode s) : c ≠ '&' ∧ c ≠ '=' := by
  obtain ⟨b, -, found⟩ := List.mem_flatMap.1 h
  exact not_mark_of_mem_encodeByte found

theorem percentDecode_encodeByte_map (b : UInt8) (rest : List Char) :
    percentDecode ((encodeByte b).map spaceOfPlus ++ rest) = b :: percentDecode rest := by
  unfold encodeByte
  split
  · rename_i plain
    obtain ⟨free, bytes⟩ := plain_cases plain
    simp only [List.mem_cons, List.not_mem_nil, or_false, not_or] at free
    simp only [List.map_cons, List.map_nil, spaceOfPlus, if_neg free.2.1, List.cons_append,
      List.nil_append]
    rw [percentDecode_cons free.1, bytes, List.singleton_append]
  · split
    · rename_i space
      rw [eq_of_beq space]
      simp only [List.map_cons, List.map_nil, spaceOfPlus, if_true, List.cons_append,
        List.nil_append]
      rw [percentDecode_cons (by decide)]
      rfl
    · have small := b.toNat_lt
      have high := figure_ne_plus (n := b.toNat / 16) (by omega)
      have low := figure_ne_plus (n := b.toNat % 16) (by omega)
      simp only [List.mem_cons, List.not_mem_nil, or_false, not_or] at high low
      have same : (Url.encodeByte b).map spaceOfPlus = Url.encodeByte b := by
        simp [Url.encodeByte, spaceOfPlus, high.1, low.1]
      rw [same, percentDecode_encodeByte]

theorem percentDecode_map_flatMap (bytes : List UInt8) :
    percentDecode ((bytes.flatMap encodeByte).map spaceOfPlus) = bytes := by
  induction bytes with
  | nil => rfl
  | cons b rest ih =>
      rw [List.flatMap_cons, List.map_append, percentDecode_encodeByte_map, ih]

/-- **A text reads back from its encoding.** -/
theorem decode?_encode (s : String) : decode? (encode s) = some s := by
  rw [decode?, encode, percentDecode_map_flatMap, textOfBytes?_toByteArray]

theorem decodePair?_encode (name value : String) :
    decodePair? (encode name ++ '=' :: encode value) = some (name, value) := by
  have cut : Text.cut? '=' (encode name ++ '=' :: encode value) = some (encode name, encode value) :=
    Text.cut?_eq_some_iff.2 ⟨rfl, fun h => (not_mark_of_mem_encode h).2 rfl⟩
  simp [decodePair?, cut, decode?_encode]

/-- The encoding of a pair is not empty and has no ampersand in it. -/
theorem free_of_pair {name value : String} {c : Char} (h : c ∈ encode name ++ '=' :: encode value) :
    (c == '&') = false := by
  rw [List.mem_append, List.mem_cons] at h
  rcases h with h | rfl | h
  · simpa using (not_mark_of_mem_encode h).1
  · rfl
  · simpa using (not_mark_of_mem_encode h).1

theorem mapM_decodePair? (pairs : List (String × String)) :
    (pairs.map fun (name, value) => encode name ++ '=' :: encode value).mapM decodePair?
      = some pairs := by
  induction pairs with
  | nil => rfl
  | cons pair rest ih =>
      obtain ⟨name, value⟩ := pair
      simp [List.mapM_cons, decodePair?_encode, ih]

/-- **A list of pairs reads back,** empty names, empty values and repetitions
included. -/
theorem decodePairs?_encodePairs (pairs : List (String × String)) :
    decodePairs? (encodePairs pairs) = some pairs := by
  cases pairs with
  | nil => rfl
  | cons pair rest =>
      have cut := Text.pieces_intercalate (· == '&') '&' rfl
        (encode pair.1 ++ '=' :: encode pair.2)
        (rest.map fun (name, value) => encode name ++ '=' :: encode value)
        (by
          intro piece h c hc
          rcases List.mem_cons.1 h with rfl | h
          · exact free_of_pair hc
          · obtain ⟨⟨name, value⟩, -, rfl⟩ := List.mem_map.1 h
            exact free_of_pair hc)
      have full : ((encode pair.1 ++ '=' :: encode pair.2) ::
          rest.map fun (name, value) => encode name ++ '=' :: encode value).filter (!·.isEmpty)
            = (pair :: rest).map fun (name, value) => encode name ++ '=' :: encode value := by
        rw [List.filter_eq_self.2]
        · rfl
        · intro piece h
          rcases List.mem_cons.1 h with rfl | h
          · simp
          · obtain ⟨⟨name, value⟩, -, rfl⟩ := List.mem_map.1 h
            simp
      have shown : encodePairs (pair :: rest)
          = ['&'].intercalate ((encode pair.1 ++ '=' :: encode pair.2) ::
              rest.map fun (name, value) => encode name ++ '=' :: encode value) := rfl
      rw [decodePairs?, shown, cut, full, mapM_decodePair?]

end GeoFeed.Url.Form

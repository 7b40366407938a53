/-
# GeoFeed.Json.Reader -- reading JSON

The grammar is that of RFC 8259 and nothing more: no comments, no trailing
commas, no byte order mark, no leading zeros, no control characters in strings.
After the value only blanks may follow.

The reader goes by bytes, each of which is taken for the character of its number.
The grammar has no characters beyond ASCII, so such bytes may only stand in
strings; whether they spell a text there is asked when the string has been read.

Every step gives back what is left of the bytes together with the fact that they
became fewer; this is why the reader ends.
-/
import GeoFeed.Json.Value
import GeoFeed.Text.Figure

namespace GeoFeed.Json

set_option autoImplicit false

/-- What is left of a text after something was read. -/
abbrev Rest (cs : List Char) := { rest : List Char // rest.length < cs.length }

def isSpace (c : Char) : Bool :=
  c == ' ' || c == '\n' || c == '\r' || c == '\t'

def skip (cs : List Char) : List Char :=
  cs.dropWhile isSpace

theorem length_dropWhile_le (p : Char → Bool) (cs : List Char) :
    (cs.dropWhile p).length ≤ cs.length :=
  (List.dropWhile_sublist p).length_le

theorem length_skip_le (cs : List Char) : (skip cs).length ≤ cs.length :=
  length_dropWhile_le _ _

theorem length_of_skip {cs rest : List Char} {c : Char} (h : skip cs = c :: rest) :
    rest.length < cs.length := by
  have := length_skip_le cs
  rw [h] at this
  exact this

/-! ## Strings -/

/-- The code unit that four hexadecimal figures spell. -/
def codeUnit? (a b c d : Char) : Option Nat :=
  Text.valueIn? 16 [a, b, c, d]

/-- The character of a two-character escape. -/
def simpleEscape? (c : Char) : Option Char :=
  match c with
  | '"' => some '"'
  | '\\' => some '\\'
  | '/' => some '/'
  | 'b' => some '\x08'
  | 'f' => some '\x0c'
  | 'n' => some '\n'
  | 'r' => some '\r'
  | 't' => some '\t'
  | _ => none

/-- A string as far as it has been read: its bytes, last first; the first half of
a surrogate pair that waits for its second; and whether some half was left
alone. -/
structure Draft where
  reversed : List UInt8
  pending : Option Nat
  broken : Bool

namespace Draft

/-- Add bytes that are no half of a pair. -/
def add (d : Draft) (bytes : List UInt8) : Draft :=
  ⟨bytes.reverse ++ d.reversed, none, d.broken || d.pending.isSome⟩

/-- Add a character. -/
def push (d : Draft) (c : Char) : Draft :=
  d.add (String.utf8EncodeChar c)

def pushUnit (d : Draft) (unit : Nat) : Draft :=
  if 0xD800 ≤ unit ∧ unit < 0xDC00 then ⟨d.reversed, some unit, d.broken || d.pending.isSome⟩
  else if 0xDC00 ≤ unit ∧ unit < 0xE000 then
    match d.pending with
    | some high =>
        { d with pending := none }.push
          (Char.ofNat (0x10000 + (high - 0xD800) * 0x400 + (unit - 0xDC00)))
    | none => { d with broken := true }
  else d.push (Char.ofNat unit)

/-- The text of a string, unless half of a pair was left alone or the bytes are
not those of a text. -/
def finish (d : Draft) : Option String :=
  if d.broken || d.pending.isSome then none else String.fromUTF8? ⟨d.reversed.reverse.toArray⟩

end Draft

/-- Read a string after its opening quote. -/
def stringBody? (d : Draft) : List Char → Option (Option String × List Char)
  | '"' :: rest => some (d.finish, rest)
  | '\\' :: 'u' :: a :: b :: c :: e :: rest =>
      match codeUnit? a b c e with
      | some unit => stringBody? (d.pushUnit unit) rest
      | none => none
  | '\\' :: c :: rest =>
      match simpleEscape? c with
      | some escaped => stringBody? (d.push escaped) rest
      | none => none
  | c :: rest =>
      if c.toNat < 0x20 ∨ c = '\\' then none else stringBody? (d.add [UInt8.ofNat c.toNat]) rest
  | [] => none

theorem length_stringBody? {d : Draft} {cs rest : List Char} {text : Option String}
    (h : stringBody? d cs = some (text, rest)) : rest.length < cs.length := by
  fun_induction stringBody? d cs with
  | case1 d rest' => simp_all
  | case2 d a b c e rest' unit found ih => have := ih h; simp only [List.length_cons]; omega
  | case3 => simp at h
  | case4 d c rest' _ escaped found ih => have := ih h; simp only [List.length_cons]; omega
  | case5 => simp at h
  | case6 => simp at h
  | case7 d c rest' _ _ _ _ ih => have := ih h; simp only [List.length_cons]; omega
  | case8 => simp at h

/-- Read a string after its opening quote. -/
def string? (cs : List Char) : Option (Option String × Rest cs) :=
  match h : stringBody? ⟨[], none, false⟩ cs with
  | some (text, rest) => some (text, ⟨rest, length_stringBody? h⟩)
  | none => none

/-! ## Numbers -/

/-- The figures at the front. -/
def figures (cs : List Char) : List Char × List Char :=
  (cs.takeWhile Char.isDigit, cs.dropWhile Char.isDigit)

/-- The figures before the point: one zero, or figures without a leading zero. -/
def wholeFigures? (cs : List Char) : Option (List Char × List Char) :=
  match figures cs with
  | ([], _) => none
  | ('0' :: _ :: _, _) => none
  | read => some read

/-- The figures after a point, if there is one. -/
def fraction? : List Char → Option (Option (List Char) × List Char)
  | '.' :: rest =>
      match figures rest with
      | ([], _) => none
      | (read, rest) => some (some read, rest)
  | cs => some (none, cs)

/-- The power of ten after an `e`, if there is one. -/
def exponent? (cs : List Char) : Option (Option Int × List Char) :=
  match cs with
  | c :: rest =>
      if c = 'e' ∨ c = 'E' then
        let (negative, rest) :=
          match rest with
          | '-' :: rest => (true, rest)
          | '+' :: rest => (false, rest)
          | rest => (false, rest)
        match figures rest with
        | ([], _) => none
        | (read, rest) =>
            let size := Int.ofNat (Nat.ofDigitChars 10 read 0)
            some (some (if negative then -size else size), rest)
      else some (none, cs)
  | [] => some (none, [])

/-- Read the figures of a number. -/
def unsigned? (negative : Bool) (cs : List Char) : Option (Number × Rest cs) := do
  let (whole, rest) ← wholeFigures? cs
  let (fraction, rest) ← fraction? rest
  let (exponent, rest) ← exponent? rest
  if h : rest.length < cs.length then pure (⟨negative, whole, fraction, exponent⟩, ⟨rest, h⟩)
  else none

/-- Read a number. -/
def number? : (cs : List Char) → Option (Number × Rest cs)
  | '-' :: rest =>
      (unsigned? true rest).map fun (n, after) =>
        (n, ⟨after.1, by have := after.2; simp only [List.length_cons]; omega⟩)
  | cs => unsigned? false cs

/-! ## Values -/

/-- What follows a word at the front of a text. -/
def word? (word : List Char) (cs : List Char) : Option (Rest cs) :=
  if h : word.isPrefixOf cs = true ∧ (cs.drop word.length).length < cs.length then
    some ⟨cs.drop word.length, h.2⟩
  else none

/-- Add one more step to what was read before a rest. -/
def Rest.mono {cs ds : List Char} (h : ds.length ≤ cs.length) (rest : Rest ds) : Rest cs :=
  ⟨rest.1, Nat.lt_of_lt_of_le rest.2 h⟩

mutual

/-- Read one value. -/
def value? (cs : List Char) : Option (Value × Rest cs) :=
  match h : skip cs with
  | [] => none
  | '"' :: body =>
      (string? body).map fun (text, rest) =>
        (.string text, rest.mono (Nat.le_of_lt (length_of_skip h)))
  | '[' :: inner =>
      match h' : skip inner with
      | ']' :: rest => some (.array [], ⟨rest, by have := length_of_skip h; have := length_of_skip h'; omega⟩)
      | _ =>
          match items? inner with
          | some (items, rest) => some (.array items, rest.mono (Nat.le_of_lt (length_of_skip h)))
          | none => none
  | '{' :: inner =>
      match h' : skip inner with
      | '}' :: rest => some (.object [], ⟨rest, by have := length_of_skip h; have := length_of_skip h'; omega⟩)
      | _ =>
          match members? inner with
          | some (members, rest) =>
              some (.object members, rest.mono (Nat.le_of_lt (length_of_skip h)))
          | none => none
  | _ =>
      let here := skip cs
      have shorter : here.length ≤ cs.length := length_skip_le cs
      match word? "null".toList here, word? "true".toList here, word? "false".toList here with
      | some rest, _, _ => some (.null, rest.mono shorter)
      | _, some rest, _ => some (.bool true, rest.mono shorter)
      | _, _, some rest => some (.bool false, rest.mono shorter)
      | none, none, none => (number? here).map fun (n, rest) => (.number n, rest.mono shorter)
termination_by 2 * cs.length
decreasing_by
  all_goals
    have := length_of_skip h
    omega

/-- Read the items of an array after its bracket. -/
def items? (cs : List Char) : Option (List Value × Rest cs) :=
  match value? cs with
  | none => none
  | some (first, rest) =>
      match h : skip rest.1 with
      | ']' :: after =>
          some ([first], ⟨after, by have := rest.2; have := length_of_skip h; omega⟩)
      | ',' :: more =>
          match items? more with
          | some (items, after) =>
              some (first :: items,
                after.mono (by have := rest.2; have := length_of_skip h; omega))
          | none => none
      | _ => none
termination_by 2 * cs.length + 1
decreasing_by
  · omega
  · have := rest.2
    have := length_of_skip h
    omega

/-- Read the members of an object after its brace. -/
def members? (cs : List Char) : Option (List (Option String × Value) × Rest cs) :=
  match hKey : skip cs with
  | '"' :: body =>
      match string? body with
      | none => none
      | some (name, afterName) =>
          match hColon : skip afterName.1 with
          | ':' :: source =>
              match value? source with
              | none => none
              | some (value, rest) =>
                  match h : skip rest.1 with
                  | '}' :: after =>
                      some ([(name, value)], ⟨after, by
                        have := length_of_skip hKey
                        have := afterName.2
                        have := length_of_skip hColon
                        have := rest.2
                        have := length_of_skip h
                        omega⟩)
                  | ',' :: more =>
                      match members? more with
                      | some (members, after) =>
                          some ((name, value) :: members, after.mono (by
                            have := length_of_skip hKey
                            have := afterName.2
                            have := length_of_skip hColon
                            have := rest.2
                            have := length_of_skip h
                            omega))
                      | none => none
                  | _ => none
          | _ => none
  | _ => none
termination_by 2 * cs.length + 1
decreasing_by
  · have := length_of_skip hKey
    have := afterName.2
    have := length_of_skip hColon
    omega
  · have := length_of_skip hKey
    have := afterName.2
    have := length_of_skip hColon
    have := rest.2
    have := length_of_skip h
    omega

end

/-- The value that bytes spell, if they are JSON. -/
def Value.ofBytes? (bytes : ByteArray) : Option Value :=
  match value? (bytes.data.toList.map fun b => Char.ofNat b.toNat) with
  | some (value, rest) => if (skip rest.1).isEmpty then some value else none
  | none => none

/-- The value that a text spells, if it is JSON. -/
def Value.ofText? (s : String) : Option Value :=
  ofBytes? s.toUTF8

end GeoFeed.Json

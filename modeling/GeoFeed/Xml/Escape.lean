/-
# GeoFeed.Xml.Escape -- escaped character data

Five characters mean something to an XML reader: the two angle brackets, the
ampersand and the two quotes.  Escaping writes each of them as its predefined
entity and leaves everything else as it is, in element content and in attribute
values alike.  `unescape?` reads such text again; it refuses an ampersand that
does not begin one of the five entities.

Main statements: `unescape?_escape`, nothing is lost, and `escape_plain`, no
angle bracket and no quote survives, so escaped text can neither open a tag nor
end an attribute value.
-/
namespace GeoFeed.Xml

set_option autoImplicit false

/-- How a character is written. -/
def escapeChar (c : Char) : List Char :=
  if c = '<' then ['&', 'l', 't', ';']
  else if c = '>' then ['&', 'g', 't', ';']
  else if c = '&' then ['&', 'a', 'm', 'p', ';']
  else if c = '\'' then ['&', 'a', 'p', 'o', 's', ';']
  else if c = '"' then ['&', 'q', 'u', 'o', 't', ';']
  else [c]

/-- How a text is written. -/
def escape (text : List Char) : List Char :=
  text.flatMap escapeChar

/-- Read escaped text. -/
def unescape? : List Char → Option (List Char)
  | '&' :: 'l' :: 't' :: ';' :: rest => (unescape? rest).map ('<' :: ·)
  | '&' :: 'g' :: 't' :: ';' :: rest => (unescape? rest).map ('>' :: ·)
  | '&' :: 'a' :: 'm' :: 'p' :: ';' :: rest => (unescape? rest).map ('&' :: ·)
  | '&' :: 'a' :: 'p' :: 'o' :: 's' :: ';' :: rest => (unescape? rest).map ('\'' :: ·)
  | '&' :: 'q' :: 'u' :: 'o' :: 't' :: ';' :: rest => (unescape? rest).map ('"' :: ·)
  | c :: rest => if c = '&' then none else (unescape? rest).map (c :: ·)
  | [] => some []

theorem unescape?_escapeChar (c : Char) (rest : List Char) :
    unescape? (escapeChar c ++ rest) = (unescape? rest).map (c :: ·) := by
  by_cases lt : c = '<'
  · subst lt; simp [escapeChar, unescape?]
  by_cases gt : c = '>'
  · subst gt; simp [escapeChar, unescape?]
  by_cases amp : c = '&'
  · subst amp; simp [escapeChar, unescape?]
  by_cases apos : c = '\''
  · subst apos; simp [escapeChar, unescape?]
  by_cases quot : c = '"'
  · subst quot; simp [escapeChar, unescape?]
  · simp only [escapeChar, lt, gt, amp, apos, quot, if_false, List.singleton_append]
    rw [unescape?.eq_def]
    split <;> simp_all

theorem unescape?_escape (text : List Char) : unescape? (escape text) = some text := by
  induction text with
  | nil => rfl
  | cons c rest ih =>
      have split_ : escape (c :: rest) = escapeChar c ++ escape rest := rfl
      rw [split_, unescape?_escapeChar, ih, Option.map_some]

theorem escapeChar_plain {c d : Char} (h : d ∈ escapeChar c) :
    d ≠ '<' ∧ d ≠ '>' ∧ d ≠ '\'' ∧ d ≠ '"' := by
  simp only [escapeChar] at h
  split at h
  · simp only [List.mem_cons, List.not_mem_nil, or_false] at h
    rcases h with rfl | rfl | rfl | rfl <;> decide
  split at h
  · simp only [List.mem_cons, List.not_mem_nil, or_false] at h
    rcases h with rfl | rfl | rfl | rfl <;> decide
  split at h
  · simp only [List.mem_cons, List.not_mem_nil, or_false] at h
    rcases h with rfl | rfl | rfl | rfl | rfl <;> decide
  split at h
  · simp only [List.mem_cons, List.not_mem_nil, or_false] at h
    rcases h with rfl | rfl | rfl | rfl | rfl | rfl <;> decide
  split at h
  · simp only [List.mem_cons, List.not_mem_nil, or_false] at h
    rcases h with rfl | rfl | rfl | rfl | rfl | rfl <;> decide
  · simp_all

theorem escape_plain {text : List Char} {d : Char} (h : d ∈ escape text) :
    d ≠ '<' ∧ d ≠ '>' ∧ d ≠ '\'' ∧ d ≠ '"' := by
  obtain ⟨c, -, inside⟩ := List.mem_flatMap.1 h
  exact escapeChar_plain inside

end GeoFeed.Xml

/-
# GeoFeed.Proofs.Xml.Token -- reading markup

A reader goes through a text from front to back and finds tokens: the declaration,
tags with their attributes, CDATA sections, and the characters between them.  It
knows nothing of how the text came about.  A tag begins at an angle bracket, a
CDATA section ends at the first `]]>`, an attribute value at the first quote, and
an ampersand must begin one of the five entities.

What is written for an event is read as the tokens of that event, whatever
follows it (`tokens?_event`), provided that the event is legible: its names are
names, and a CDATA section does not contain its own end.  No text and no attribute
value is excluded.
-/
import Mathlib.Data.List.Basic
import GeoFeed.Text.Cut
import GeoFeed.Xml.Event

namespace GeoFeed.Xml

set_option autoImplicit false

inductive Token where
  | declaration
  | opening (name : String) (attributes : Attributes)
  | closing (name : String)
  | empty (name : String) (attributes : Attributes)
  /-- A character of the text, written as itself or as an entity. -/
  | character (c : Char)
  | cdata (content : String)
deriving Repr, DecidableEq

/-- The tokens of an event. -/
def Event.tokens : Event → List Token
  | declaration => [.declaration]
  | opening name attributes => [.opening name attributes]
  | closing name => [.closing name]
  | empty name attributes => [.empty name attributes]
  | text content => content.toList.map .character
  | cdata content => [.cdata content]

/-! ## The reader -/

/-- The characters of names. -/
def isNameChar (c : Char) : Bool :=
  c.isAlphanum || c == ':' || c == '_' || c == '-' || c == '.'

/-- Read a name. -/
def name? (cs : List Char) : Option (String × List Char) :=
  match cs.takeWhile isNameChar with
  | [] => none
  | name => some (String.ofList name, cs.dropWhile isNameChar)

/-- Read an entity after its ampersand. -/
def reference? : List Char → Option (Char × List Char)
  | 'l' :: 't' :: ';' :: rest => some ('<', rest)
  | 'g' :: 't' :: ';' :: rest => some ('>', rest)
  | 'a' :: 'm' :: 'p' :: ';' :: rest => some ('&', rest)
  | 'a' :: 'p' :: 'o' :: 's' :: ';' :: rest => some ('\'', rest)
  | 'q' :: 'u' :: 'o' :: 't' :: ';' :: rest => some ('"', rest)
  | _ => none

/-- Read one attribute after the blank before it. -/
def attribute? (cs : List Char) : Option ((String × String) × List Char) :=
  match name? cs with
  | some (name, '=' :: '"' :: rest) => do
      let (value, rest) ← Text.cut? '"' rest
      pure ((name, String.ofList (← unescape? value)), rest)
  | _ => none

/-- Read the attributes of a tag. -/
def attributes? : List Char → Option (Attributes × List Char)
  | ' ' :: cs =>
      match attribute? cs with
      | none => none
      | some (a, rest) =>
          if rest.length ≤ cs.length then
            (attributes? rest).map fun (more, rest) => (a :: more, rest)
          else none
  | cs => some ([], cs)
termination_by cs => cs.length

/-- Read the content of a CDATA section and its end. -/
def cdataEnd? : List Char → Option (List Char × List Char)
  | ']' :: ']' :: '>' :: rest => some ([], rest)
  | c :: rest => (cdataEnd? rest).map fun (content, rest) => (c :: content, rest)
  | [] => none

/-- Read a start tag, or an element without content, after the angle bracket. -/
def tag? (cs : List Char) : Option (Token × List Char) :=
  match name? cs with
  | none => none
  | some (name, rest) =>
      match attributes? rest with
      | some (attributes, '>' :: rest) => some (.opening name attributes, rest)
      | some (attributes, '/' :: '>' :: rest) => some (.empty name attributes, rest)
      | _ => none

/-- Read an end tag after its slash. -/
def endTag? (cs : List Char) : Option (Token × List Char) :=
  match name? cs with
  | some (name, '>' :: rest) => some (.closing name, rest)
  | _ => none

/-- Read a token after an angle bracket. -/
def markup? : List Char → Option (Token × List Char)
  | '/' :: rest => endTag? rest
  | '!' :: rest => do
      let rest ← "[CDATA[".toList.isPrefixOf? rest
      let (content, rest) ← cdataEnd? rest
      pure (.cdata (String.ofList content), rest)
  | '?' :: rest =>
      ("xml version=\"1.0\" encoding=\"UTF-8\"?>".toList.isPrefixOf? rest).map (.declaration, ·)
  | rest => tag? rest

/-- Read a token. -/
def token? : List Char → Option (Token × List Char)
  | '<' :: rest => markup? rest
  | '&' :: rest => (reference? rest).map fun (c, rest) => (.character c, rest)
  | c :: rest => some (.character c, rest)
  | [] => none

/-- Read all tokens of a text. -/
def tokens? (cs : List Char) : Option (List Token) :=
  if cs.isEmpty then some []
  else
    match token? cs with
    | none => none
    | some (t, rest) =>
        if rest.length < cs.length then (tokens? rest).map (t :: ·) else none
termination_by cs.length

/-! ## Reading what was written -/

/-- A name: not empty, and made of the characters of names. -/
def isName (name : String) : Bool :=
  !name.toList.isEmpty && name.toList.all isNameChar

/-- A text without the end of a CDATA section. -/
def EndFree (content : List Char) : Prop := ¬ [']', ']', '>'] <:+: content

/-- An event that a reader can tell apart from what follows it. -/
def Event.Legible : Event → Prop
  | opening name attributes => isName name ∧ attributes.all fun a => isName a.1
  | closing name => isName name
  | empty name attributes => isName name ∧ attributes.all fun a => isName a.1
  | cdata content => EndFree content.toList
  | declaration => True
  | text _ => True

/-- A text that does not go on with a name. -/
def NameEnds (rest : List Char) : Prop := ∀ c ∈ rest.head?, isNameChar c = false

theorem name?_append {name : String} (named : isName name) {rest : List Char}
    (ends : NameEnds rest) : name? (name.toList ++ rest) = some (name, rest) := by
  simp only [isName, Bool.and_eq_true, Bool.not_eq_true', List.all_eq_true] at named
  obtain ⟨nonempty, chars⟩ := named
  have takes : (name.toList ++ rest).takeWhile isNameChar = name.toList := by
    rw [List.takeWhile_append_of_pos chars]
    cases rest with
    | nil => simp
    | cons c rest => simp [ends c (by simp)]
  have drops : (name.toList ++ rest).dropWhile isNameChar = rest := by
    rw [List.dropWhile_append_of_pos chars]
    cases rest with
    | nil => simp
    | cons c rest => simp [ends c (by simp)]
  unfold name?
  rw [takes, drops]
  split
  · rename_i absent
    simp [absent] at nonempty
  · rw [String.ofList_toList]

theorem quote_not_mem_escape (text : List Char) : '"' ∉ escape text :=
  fun member => (escape_plain member).2.2.2 rfl

theorem attribute?_append {name : String} (named : isName name) (value : String) (rest : List Char) :
    attribute? (name.toList ++ '=' :: '"' :: (escape value.toList ++ '"' :: rest))
      = some ((name, value), rest) := by
  have ends : NameEnds ('=' :: '"' :: (escape value.toList ++ '"' :: rest)) := by
    intro c first
    cases first
    decide
  have cut : Text.cut? '"' (escape value.toList ++ '"' :: rest) = some (escape value.toList, rest) :=
    Text.cut?_eq_some_iff.2 ⟨rfl, quote_not_mem_escape _⟩
  simp [attribute?, name?_append named ends, cut, unescape?_escape]

/-- A text that does not go on with an attribute. -/
def AttributesEnd (rest : List Char) : Prop := ∀ c ∈ rest.head?, c ≠ ' '

theorem attributes?_append {attributes : Attributes} (named : attributes.all fun a => isName a.1)
    {rest : List Char} (ends : AttributesEnd rest) :
    attributes? (attributesToChars attributes ++ rest) = some (attributes, rest) := by
  induction attributes with
  | nil =>
      rw [attributesToChars, List.flatMap_nil, List.nil_append, attributes?.eq_def]
      split
      · exact absurd rfl (ends ' ' (by simp))
      · rfl
  | cons a more ih =>
      obtain ⟨name, value⟩ := a
      simp only [List.all_cons, Bool.and_eq_true] at named
      have shape : attributesToChars ((name, value) :: more) ++ rest
          = ' ' :: (name.toList ++ '=' :: '"' :: (escape value.toList
              ++ '"' :: (attributesToChars more ++ rest))) := by
        simp [attributesToChars]
      rw [shape, attributes?, attribute?_append named.1]
      simp only [ih named.2, Option.map_some]
      rw [if_pos]
      simp only [List.length_append, List.length_cons]
      omega

theorem EndFree.tail {c : Char} {content : List Char} (free : EndFree (c :: content)) :
    EndFree content :=
  fun inside => free (List.infix_cons inside)

/-- The first `]]>` after the content is the one that was put there: neither the
content nor the two together hold an earlier one. -/
theorem cdataEnd?_append {content : List Char} (free : EndFree content) (rest : List Char) :
    cdataEnd? (content ++ ']' :: ']' :: '>' :: rest) = some (content, rest) := by
  induction content with
  | nil => rfl
  | cons c content ih =>
      rw [List.cons_append, cdataEnd?.eq_def]
      split
      · rename_i rest' same
        exfalso
        obtain ⟨rfl, same⟩ := List.cons.inj same
        -- the brackets of the mark reach two characters into the content at most
        match content, same with
        | [], same => simp at same
        | [d], same => simp at same
        | d :: e :: more, same =>
            simp only [List.cons_append, List.cons.injEq] at same
            obtain ⟨-, rfl, rfl, -⟩ := same
            exact free ⟨[], more, rfl⟩
      · rename_i d rest' _ same
        obtain ⟨rfl, rfl⟩ := List.cons.inj same
        rw [ih free.tail]
        rfl
      · rename_i same
        cases same

theorem attributesEnd_cons {c : Char} {rest : List Char} (h : c ≠ ' ') :
    AttributesEnd (c :: rest) := by
  intro d first
  cases first
  exact h

theorem nameEnds_cons {c : Char} {rest : List Char} (h : isNameChar c = false) :
    NameEnds (c :: rest) := by
  intro d first
  cases first
  exact h

theorem nameEnds_attributes (attributes : Attributes) {c : Char} (h : isNameChar c = false)
    (rest : List Char) : NameEnds (attributesToChars attributes ++ c :: rest) := by
  cases attributes with
  | nil => exact nameEnds_cons h
  | cons a more => exact nameEnds_cons (by decide)

/-- A name does not begin like an end tag, a CDATA section or a declaration. -/
theorem markup?_of_named {name : String} (named : isName name) (rest : List Char) :
    markup? (name.toList ++ rest) = tag? (name.toList ++ rest) := by
  simp only [isName, Bool.and_eq_true, Bool.not_eq_true', List.all_eq_true] at named
  obtain ⟨nonempty, chars⟩ := named
  cases shape : name.toList with
  | nil => simp [shape] at nonempty
  | cons c more =>
      have first := chars c (by simp [shape])
      rw [List.cons_append, markup?.eq_def]
      split
      · rename_i same
        obtain ⟨rfl, -⟩ := List.cons.inj same
        exact absurd first (by decide)
      · rename_i same
        obtain ⟨rfl, -⟩ := List.cons.inj same
        exact absurd first (by decide)
      · rename_i same
        obtain ⟨rfl, -⟩ := List.cons.inj same
        exact absurd first (by decide)
      · rfl

section Chars

variable (name : String) (attributes : Attributes) (content : String)

theorem toChars_opening : (Event.opening name attributes).toChars
    = '<' :: (name.toList ++ attributesToChars attributes ++ ['>']) := rfl

theorem toChars_closing : (Event.closing name).toChars = '<' :: '/' :: (name.toList ++ ['>']) := rfl

theorem toChars_empty : (Event.empty name attributes).toChars
    = '<' :: (name.toList ++ attributesToChars attributes ++ ['/', '>']) := rfl

theorem toChars_cdata : (Event.cdata content).toChars
    = '<' :: '!' :: ("[CDATA[".toList ++ content.toList ++ [']', ']', '>']) := rfl

theorem toChars_declaration : Event.declaration.toChars
    = '<' :: '?' :: "xml version=\"1.0\" encoding=\"UTF-8\"?>".toList := rfl

end Chars

theorem token?_opening {name : String} {attributes : Attributes} (named : isName name)
    (namedAll : attributes.all fun a => isName a.1) (rest : List Char) :
    token? ((Event.opening name attributes).toChars ++ rest)
      = some (.opening name attributes, rest) := by
  have shape : (Event.opening name attributes).toChars ++ rest
      = '<' :: (name.toList ++ (attributesToChars attributes ++ '>' :: rest)) := by
    simp [toChars_opening]
  rw [shape, token?, markup?_of_named named, tag?,
    name?_append named (nameEnds_attributes attributes (by decide) rest)]
  simp only
  rw [attributes?_append namedAll (attributesEnd_cons (by decide))]
  rfl

theorem token?_empty {name : String} {attributes : Attributes} (named : isName name)
    (namedAll : attributes.all fun a => isName a.1) (rest : List Char) :
    token? ((Event.empty name attributes).toChars ++ rest)
      = some (.empty name attributes, rest) := by
  have shape : (Event.empty name attributes).toChars ++ rest
      = '<' :: (name.toList ++ (attributesToChars attributes ++ '/' :: '>' :: rest)) := by
    simp [toChars_empty]
  rw [shape, token?, markup?_of_named named, tag?,
    name?_append named (nameEnds_attributes attributes (by decide) ('>' :: rest))]
  simp only
  rw [attributes?_append namedAll (attributesEnd_cons (by decide))]
  rfl

theorem token?_closing {name : String} (named : isName name) (rest : List Char) :
    token? ((Event.closing name).toChars ++ rest) = some (.closing name, rest) := by
  have shape : (Event.closing name).toChars ++ rest = '<' :: '/' :: (name.toList ++ '>' :: rest) := by
    simp [toChars_closing]
  rw [shape, token?, markup?, endTag?, name?_append named (nameEnds_cons (by decide))]
  rfl

theorem token?_cdata {content : String} (free : EndFree content.toList) (rest : List Char) :
    token? ((Event.cdata content).toChars ++ rest) = some (.cdata content, rest) := by
  have shape : (Event.cdata content).toChars ++ rest
      = '<' :: '!' :: ("[CDATA[".toList ++ (content.toList ++ ']' :: ']' :: '>' :: rest)) := by
    rw [toChars_cdata]
    simp only [List.cons_append, List.append_assoc, List.nil_append]
  have opens : "[CDATA[".toList.isPrefixOf?
      ("[CDATA[".toList ++ (content.toList ++ ']' :: ']' :: '>' :: rest))
        = some (content.toList ++ ']' :: ']' :: '>' :: rest) :=
    List.isPrefixOf?_eq_some_iff_append_eq.2 rfl
  rw [shape, token?, markup?, opens]
  simp [cdataEnd?_append free]

theorem token?_declaration (rest : List Char) :
    token? (Event.declaration.toChars ++ rest) = some (.declaration, rest) := by
  have shape : Event.declaration.toChars ++ rest
      = '<' :: '?' :: ("xml version=\"1.0\" encoding=\"UTF-8\"?>".toList ++ rest) := by
    rw [toChars_declaration]
    simp only [List.cons_append]
  have opens : "xml version=\"1.0\" encoding=\"UTF-8\"?>".toList.isPrefixOf?
      ("xml version=\"1.0\" encoding=\"UTF-8\"?>".toList ++ rest) = some rest :=
    List.isPrefixOf?_eq_some_iff_append_eq.2 rfl
  rw [shape, token?, markup?, opens]
  rfl

theorem token?_escapeChar (c : Char) (rest : List Char) :
    token? (escapeChar c ++ rest) = some (.character c, rest) := by
  by_cases lt : c = '<'
  · subst lt; rfl
  by_cases gt : c = '>'
  · subst gt; rfl
  by_cases amp : c = '&'
  · subst amp; rfl
  by_cases apos : c = '\''
  · subst apos; rfl
  by_cases quot : c = '"'
  · subst quot; rfl
  · simp only [escapeChar, lt, gt, amp, apos, quot, if_false, List.singleton_append]
    rw [token?.eq_def]
    split <;> simp_all

/-! ## Reading sequences -/

theorem tokens?_nil : tokens? [] = some [] := by
  rw [tokens?]
  rfl

/-- A reader that gets ahead goes on after its token. -/
theorem tokens?_append {front rest : List Char} {t : Token} (nonempty : front ≠ [])
    (read : token? (front ++ rest) = some (t, rest)) :
    tokens? (front ++ rest) = (tokens? rest).map (t :: ·) := by
  have ahead : rest.length < (front ++ rest).length := by
    have := List.length_pos_iff.2 nonempty
    rw [List.length_append]
    omega
  have more : (front ++ rest).isEmpty = false := by simp [nonempty]
  rw [tokens?, more, read]
  simp only [Bool.false_eq_true, if_false, if_pos ahead]

theorem escapeChar_ne_nil (c : Char) : escapeChar c ≠ [] := by
  unfold escapeChar
  split
  · simp
  · repeat' split
    all_goals simp

theorem tokens?_text (content rest : List Char) :
    tokens? (escape content ++ rest) = (tokens? rest).map (content.map .character ++ ·) := by
  induction content with
  | nil => simp [escape]
  | cons c content ih =>
      have shape : escape (c :: content) ++ rest = escapeChar c ++ (escape content ++ rest) := by
        simp [escape]
      rw [shape, tokens?_append (escapeChar_ne_nil c) (token?_escapeChar c _), ih, Option.map_map]
      rfl

/-- **What is written for a legible event is read as its tokens.** -/
theorem tokens?_event {e : Event} (legible : e.Legible) (rest : List Char) :
    tokens? (e.toChars ++ rest) = (tokens? rest).map (e.tokens ++ ·) := by
  cases e with
  | declaration => exact tokens?_append (by decide) (token?_declaration rest)
  | opening name attributes =>
      exact tokens?_append (List.cons_ne_nil _ _) (token?_opening legible.1 legible.2 rest)
  | closing name => exact tokens?_append (List.cons_ne_nil _ _) (token?_closing legible rest)
  | empty name attributes =>
      exact tokens?_append (List.cons_ne_nil _ _) (token?_empty legible.1 legible.2 rest)
  | text content => exact tokens?_text content.toList rest
  | cdata content => exact tokens?_append (List.cons_ne_nil _ _) (token?_cdata legible rest)

/-- **A text of legible events is read as their tokens, whatever follows.** -/
theorem tokens?_eventsToChars_append {events : List Event} (legible : ∀ e ∈ events, e.Legible)
    (rest : List Char) : tokens? (eventsToChars events ++ rest)
      = (tokens? rest).map (events.flatMap Event.tokens ++ ·) := by
  induction events with
  | nil => simp
  | cons e more ih =>
      have tail := ih fun e member => legible e (List.mem_cons_of_mem _ member)
      rw [eventsToChars_cons, List.append_assoc, tokens?_event (legible e List.mem_cons_self), tail,
        Option.map_map]
      simp [Function.comp_def]

theorem tokens?_eventsToChars {events : List Event} (legible : ∀ e ∈ events, e.Legible) :
    tokens? (eventsToChars events) = some (events.flatMap Event.tokens) := by
  have alone := tokens?_eventsToChars_append legible []
  rwa [List.append_nil, tokens?_nil, Option.map_some, List.append_nil] at alone

end GeoFeed.Xml

/-
# GeoFeed.Proofs.Xml.Legal -- characters that XML does not have

XML has no controls but the tab and the line breaks, and neither of the last two places
of the basic plane.  Such a character cannot be written at all: escaping has nothing
for it, a CDATA section holds it as it is, and a reader has to refuse the document.

Markup itself adds none.  The strays of a document, in order, are the strays of what
its events hold (`strays_eventsToChars`): of the texts, of the sections, and of the
values of the attributes.
-/
import GeoFeed.Proofs.Url.Visible
import GeoFeed.Proofs.Xml.Token

namespace GeoFeed.Xml

set_option autoImplicit false

/-- The characters that XML has. -/
def isChar (c : Char) : Bool :=
  let n := c.toNat
  n == 0x9 || n == 0xA || n == 0xD || (0x20 ≤ n && n ≤ 0xD7FF) || (0xE000 ≤ n && n ≤ 0xFFFD) ||
    (0x10000 ≤ n && n ≤ 0x10FFFF)

/-- The characters in a text that XML does not have. -/
def strays (cs : List Char) : List Char := cs.filter (!isChar ·)

theorem mem_strays {c : Char} {cs : List Char} : c ∈ strays cs ↔ c ∈ cs ∧ isChar c = false := by
  simp [strays]

theorem strays_eq_nil_iff {cs : List Char} : strays cs = [] ↔ ∀ c ∈ cs, isChar c = true := by
  simp [strays]

@[simp]
theorem strays_nil : strays [] = [] := rfl

@[simp]
theorem strays_append (front back : List Char) :
    strays (front ++ back) = strays front ++ strays back :=
  List.filter_append ..

theorem strays_cons {c : Char} (legal : isChar c = true) (cs : List Char) :
    strays (c :: cs) = strays cs := by
  simp [strays, legal]

theorem strays_flatMap {α : Type} (text : α → List Char) (items : List α) :
    strays (items.flatMap text) = items.flatMap fun item => strays (text item) :=
  List.filter_flatMap ..

theorem isChar_of_isVisible {c : Char} (seen : Url.isVisible c = true) : isChar c = true := by
  simp only [Url.isVisible, Bool.and_eq_true, decide_eq_true_eq] at seen
  simp only [isChar, Bool.or_eq_true, Bool.and_eq_true, decide_eq_true_eq, beq_iff_eq]
  omega

theorem strays_of_visible {cs : List Char} (seen : Url.Visible cs) : strays cs = [] :=
  strays_eq_nil_iff.2 fun c member => isChar_of_isVisible (seen c member)

/-! ## Escaping and sections -/

/-- Escaping takes no stray away. -/
theorem strays_escapeChar (c : Char) : strays (escapeChar c) = strays [c] := by
  by_cases lt : c = '<'
  · subst lt; rfl
  by_cases gt : c = '>'
  · subst gt; rfl
  by_cases amp : c = '&'
  · subst amp; rfl
  by_cases apos : c = '\''
  · subst apos; rfl
  by_cases quot : c = '"'
  · subst quot; rfl
  · simp only [escapeChar, lt, gt, amp, apos, quot, if_false]

theorem strays_escape (text : List Char) : strays (escape text) = strays text := by
  induction text with
  | nil => rfl
  | cons c rest ih =>
      have split_ : escape (c :: rest) = escapeChar c ++ escape rest := rfl
      rw [split_, strays_append, strays_escapeChar, ih, ← strays_append, List.singleton_append]

/-! ## Events -/

namespace Event

/-- The characters that an event holds, apart from its markup. -/
def content : Event → List Char
  | text held | cdata held => held.toList
  | opening _ attributes | empty _ attributes => attributes.flatMap fun a => a.2.toList
  | closing _ | declaration => []

end Event

theorem isChar_of_isNameChar {c : Char} (h : isNameChar c = true) : isChar c = true := by
  refine isChar_of_isVisible ?_
  simp only [isNameChar, Bool.or_eq_true, beq_iff_eq] at h
  rcases h with (((letter | rfl) | rfl) | rfl) | rfl
  · exact Url.isVisible_of_isAlphanum letter
  all_goals decide

theorem strays_of_isName {name : String} (named : isName name) : strays name.toList = [] := by
  simp only [isName, Bool.and_eq_true, List.all_eq_true] at named
  exact strays_eq_nil_iff.2 fun c member => isChar_of_isNameChar (named.2 c member)

theorem strays_attributesToChars {attributes : Attributes}
    (named : attributes.all fun a => isName a.1) :
    strays (attributesToChars attributes) = strays (attributes.flatMap fun a => a.2.toList) := by
  rw [attributesToChars, strays_flatMap, strays_flatMap]
  refine List.flatMap_congr fun a member => ?_
  have name := strays_of_isName (List.all_eq_true.1 named a member)
  simp only [strays_cons (by decide : isChar ' ' = true), strays_append,
    strays_cons (by decide : isChar '=' = true), strays_cons (by decide : isChar '"' = true), name,
    strays_escape, strays_nil, List.nil_append, List.append_nil]

/-- **The strays of an event are those of what it holds.** -/
theorem strays_toChars {e : Event} (legible : e.Legible) : strays e.toChars = strays e.content := by
  cases e with
  | declaration => decide +kernel
  | opening name attributes =>
      have last : strays ['>'] = [] := by decide
      rw [toChars_opening, strays_cons (by decide), strays_append, strays_append,
        strays_of_isName legible.1, strays_attributesToChars legible.2, last, List.append_nil]
      rfl
  | closing name =>
      have last : strays ['>'] = [] := by decide
      rw [toChars_closing, strays_cons (by decide), strays_cons (by decide), strays_append,
        strays_of_isName legible, last]
      rfl
  | empty name attributes =>
      have last : strays ['/', '>'] = [] := by decide
      rw [toChars_empty, strays_cons (by decide), strays_append, strays_append,
        strays_of_isName legible.1, strays_attributesToChars legible.2, last, List.append_nil]
      rfl
  | text held => exact strays_escape held.toList
  | cdata held =>
      have first : strays "[CDATA[".toList = [] := by decide
      have last : strays [']', ']', '>'] = [] := by decide
      rw [toChars_cdata, strays_cons (by decide), strays_cons (by decide), strays_append,
        strays_append, first, last, List.append_nil]
      rfl

/-- The strays of a document are those of what its events hold, in order. -/
theorem strays_eventsToChars {events : List Event} (legible : ∀ e ∈ events, e.Legible) :
    strays (eventsToChars events) = strays (events.flatMap Event.content) := by
  rw [eventsToChars, strays_flatMap, strays_flatMap]
  exact List.flatMap_congr fun e member => strays_toChars (legible e member)

/-- Sections together hold the text that was cut into them. -/
theorem content_cdataEvents (held : String) :
    (cdataEvents held).flatMap Event.content = held.toList := by
  rw [cdataEvents, List.flatMap_map]
  have each : (fun part => Event.content (.cdata (String.ofList part))) = id := by
    funext part
    exact String.toList_ofList
  rw [each, List.flatMap_id, flatten_cdataSections]

theorem content_element (name held : String) :
    (element name held).flatMap Event.content = held.toList := by
  simp [element, Event.content]

theorem content_cdataElement (name held : String) :
    (cdataElement name held).flatMap Event.content = held.toList := by
  rw [cdataElement, List.flatMap_cons, List.flatMap_append, content_cdataEvents]
  simp [Event.content]

end GeoFeed.Xml

/-
# GeoFeed.Proofs.Xml.Tree -- reading elements

A document is read as one element: its name, its attributes, its own text, and the
elements inside it.  The reader keeps the elements that are open in a stack of
frames.  An end tag must name the innermost open element, which then belongs to the
one around it; at the end no element may be open, and nothing may follow the root.

Whether events spell elements does not depend on the frame that they are read in,
nor on what follows (`Spells`).  So what is spelled by a document is put together
from what its parts spell: `Spells.append` in a row, `Spells.around` inside a pair
of tags.

Main statement: `ofBytes?_document`.
-/
import GeoFeed.Proofs.Xml.Bytes
import GeoFeed.Proofs.Xml.Cdata
import GeoFeed.Url.Percent

namespace GeoFeed.Xml

set_option autoImplicit false

/-- An element that has been read. -/
structure Element where
  name : String
  attributes : Attributes
  /-- The characters of the element that are in none of its children. -/
  text : String
  children : List Element

/-- An element without attributes that holds only text. -/
def Element.leaf (name text : String) : Element := ⟨name, [], text, []⟩

/-! ## The reader -/

/-- An element that is open, with what has been read of it. -/
structure Frame where
  name : String
  attributes : Attributes
  text : List Char := []
  children : List Element := []

namespace Frame

/-- Go on in a frame. -/
def fill (frame : Frame) (text : List Char) (children : List Element) : Frame :=
  { frame with text := frame.text ++ text, children := frame.children ++ children }

/-- The element, once its end tag has been read. -/
def close (frame : Frame) : Element :=
  ⟨frame.name, frame.attributes, String.ofList frame.text, frame.children⟩

theorem fill_fill (frame : Frame) (text more : List Char) (children others : List Element) :
    (frame.fill text children).fill more others = frame.fill (text ++ more) (children ++ others) := by
  simp [fill]

theorem fill_nil (frame : Frame) : frame.fill [] [] = frame := by
  simp [fill]

end Frame

/-- Read the rest of a document in the given frame, inside the given outer ones. -/
def readTree (frame : Frame) (outer : List Frame) : List Token → Option Element
  | [] => none
  | .declaration :: _ => none
  | .character c :: rest => readTree (frame.fill [c] []) outer rest
  | .cdata content :: rest => readTree (frame.fill content.toList []) outer rest
  | .empty name attributes :: rest =>
      readTree (frame.fill [] [⟨name, attributes, "", []⟩]) outer rest
  | .opening name attributes :: rest => readTree { name, attributes } (frame :: outer) rest
  | .closing name :: rest =>
      if name = frame.name then
        match outer with
        | around :: outer => readTree (around.fill [] [frame.close]) outer rest
        | [] => if rest.isEmpty then some frame.close else none
      else none

/-- Read a document: the declaration and one element. -/
def document? : List Token → Option Element
  | .declaration :: .opening name attributes :: rest => readTree { name, attributes } [] rest
  | _ => none

/-- Read one element with nothing before it and nothing after. -/
def root? : List Token → Option Element
  | .opening name attributes :: rest => readTree { name, attributes } [] rest
  | _ => none

theorem document?_declaration (tokens : List Token) :
    document? (.declaration :: tokens) = root? tokens := by
  cases tokens with
  | nil => rfl
  | cons t rest => cases t <;> rfl

/-- Read the tokens of a text in UTF-8. -/
def tokensOfBytes? (bytes : List UInt8) : Option (List Token) := do
  let text ← Url.textOfBytes? bytes
  tokens? text.toList

/-- Read a document in UTF-8. -/
def ofBytes? (bytes : List UInt8) : Option Element := do
  let tokens ← tokensOfBytes? bytes
  document? tokens

/-- Read one element in UTF-8. -/
def rootOfBytes? (bytes : List UInt8) : Option Element := do
  let tokens ← tokensOfBytes? bytes
  root? tokens

/-! ## What events spell -/

/-- Legible events that are read as a text and elements, wherever they stand. -/
structure Spells (events : List Event) (text : List Char) (children : List Element) : Prop where
  legible : ∀ e ∈ events, e.Legible
  reads : ∀ frame outer rest, readTree frame outer (events.flatMap Event.tokens ++ rest)
    = readTree (frame.fill text children) outer rest

namespace Spells

theorem nil : Spells [] [] [] where
  legible := by simp
  reads frame outer rest := by rw [Frame.fill_nil]; rfl

theorem append {front back : List Event} {text more : List Char} {children others : List Element}
    (first : Spells front text children) (second : Spells back more others) :
    Spells (front ++ back) (text ++ more) (children ++ others) where
  legible e member := by
    rcases List.mem_append.1 member with before | after
    · exact first.legible e before
    · exact second.legible e after
  reads frame outer rest := by
    rw [List.flatMap_append, List.append_assoc, first.reads, second.reads, Frame.fill_fill]

/-- Elements in a row. -/
theorem flatMap {α : Type} {events : α → List Event} {children : α → List Element} {items : List α}
    (each : ∀ item ∈ items, Spells (events item) [] (children item)) :
    Spells (items.flatMap events) [] (items.flatMap children) := by
  induction items with
  | nil => exact nil
  | cons item rest ih =>
      exact (each item List.mem_cons_self).append
        (ih fun other member => each other (List.mem_cons_of_mem _ member))

/-- An escaped text is read as itself, whatever its characters are. -/
theorem text (content : String) : Spells [.text content] content.toList [] where
  legible := by simp [Event.Legible]
  reads frame outer rest := by
    rw [List.flatMap_singleton, Event.tokens]
    generalize content.toList = chars
    induction chars generalizing frame with
    | nil => rw [Frame.fill_nil]; rfl
    | cons c chars ih =>
        rw [List.map_cons, List.cons_append, readTree, ih, Frame.fill_fill]
        rfl

theorem cdata {content : String} (free : EndFree content.toList) :
    Spells [.cdata content] content.toList [] where
  legible e member := by
    obtain rfl := List.mem_singleton.1 member
    exact free
  reads frame outer rest := rfl

/-- CDATA sections are read as the text that they hold together. -/
theorem cdataEvents (content : String) : Spells (Xml.cdataEvents content) content.toList [] := by
  have parts : ∀ sections : List (List Char), (∀ part ∈ sections, EndFree part) →
      Spells (sections.map fun part => .cdata (String.ofList part)) sections.flatten [] := by
    intro sections free
    induction sections with
    | nil => exact nil
    | cons part rest ih =>
        have one : Spells [.cdata (String.ofList part)] part [] := by
          have free_part : EndFree (String.ofList part).toList := by
            rw [String.toList_ofList]
            exact free part List.mem_cons_self
          have spelled := cdata free_part
          rwa [String.toList_ofList] at spelled
        exact one.append (ih fun other member => free other (List.mem_cons_of_mem _ member))
  have all := parts (cdataSections content.toList) fun part member => endFree_of_mem_sections member
  rwa [flatten_cdataSections] at all

theorem empty (name : String) (attributes : Attributes) (named : isName name)
    (namedAll : attributes.all fun a => isName a.1) :
    Spells [.empty name attributes] [] [⟨name, attributes, "", []⟩] where
  legible e member := by
    obtain rfl := List.mem_singleton.1 member
    exact ⟨named, namedAll⟩
  reads frame outer rest := rfl

/-- **What stands between a pair of tags is the content of one element.** -/
theorem around {events : List Event} {text : List Char} {children : List Element}
    (content : Spells events text children) (name : String) (attributes : Attributes)
    (named : isName name) (namedAll : attributes.all fun a => isName a.1) :
    Spells (.opening name attributes :: (events ++ [.closing name])) []
      [⟨name, attributes, String.ofList text, children⟩] where
  legible e member := by
    rcases List.mem_cons.1 member with rfl | member
    · exact ⟨named, namedAll⟩
    · rcases List.mem_append.1 member with inside | last
      · exact content.legible e inside
      · obtain rfl := List.mem_singleton.1 last
        exact named
  reads frame outer rest := by
    have shape : (Event.opening name attributes :: (events ++ [.closing name])).flatMap Event.tokens
          ++ rest
        = .opening name attributes :: (events.flatMap Event.tokens ++ .closing name :: rest) := by
      simp [Event.tokens]
    rw [shape, readTree, content.reads, readTree]
    exact if_pos rfl

/-- An element with one escaped text. -/
theorem element (name : String) (named : isName name) (content : String) :
    Spells (Xml.element name content) [] [.leaf name content] := by
  have inside := (text content).around name [] named rfl
  rwa [String.ofList_toList] at inside

/-- An element with one text in CDATA sections. -/
theorem cdataElement (name : String) (named : isName name) (content : String) :
    Spells (Xml.cdataElement name content) [] [.leaf name content] := by
  have inside := (cdataEvents content).around name [] named rfl
  rwa [String.ofList_toList] at inside

end Spells

/-! ## Whole documents -/

theorem textOfBytes?_utf8Bytes (cs : List Char) :
    Url.textOfBytes? (utf8Bytes cs) = some (String.ofList cs) := by
  have same : utf8Bytes cs = (String.ofList cs).toByteArray.data.toList := by
    simp [utf8Bytes, List.utf8Encode]
  rw [same, Url.textOfBytes?_toByteArray]

/-- The bytes of legible events are read as their tokens. -/
theorem tokensOfBytes?_bytes {events : List Event} (legible : ∀ e ∈ events, e.Legible) :
    tokensOfBytes? (bytes events) = some (events.flatMap Event.tokens) := by
  rw [tokensOfBytes?, bytes, textOfBytes?_utf8Bytes, Option.bind_eq_bind, Option.bind_some,
    String.toList_ofList, tokens?_eventsToChars legible]

section Root

variable {name : String} {attributes : Attributes} {events : List Event} {text : List Char}
  {children : List Element} (named : isName name) (namedAll : attributes.all fun a => isName a.1)
  (content : Spells events text children)

include named namedAll content

/-- **An element is read as what its content spells.** -/
theorem rootOfBytes?_bytes :
    rootOfBytes? (bytes (.opening name attributes :: (events ++ [.closing name])))
      = some ⟨name, attributes, String.ofList text, children⟩ := by
  have legible := (content.around name attributes named namedAll).legible
  have shape : (Event.opening name attributes :: (events ++ [.closing name])).flatMap Event.tokens
      = .opening name attributes :: (events.flatMap Event.tokens ++ [.closing name]) := by
    simp [Event.tokens]
  rw [rootOfBytes?, tokensOfBytes?_bytes legible, Option.bind_eq_bind, Option.bind_some, shape,
    root?, content.reads, readTree]
  exact if_pos rfl

/-- **A document is read as the element that it spells.** -/
theorem ofBytes?_document :
    ofBytes? (bytes (.declaration :: .opening name attributes :: (events ++ [.closing name])))
      = some ⟨name, attributes, String.ofList text, children⟩ := by
  have legible := (content.around name attributes named namedAll).legible
  have alone := rootOfBytes?_bytes named namedAll content
  rw [rootOfBytes?, tokensOfBytes?_bytes legible, Option.bind_eq_bind, Option.bind_some] at alone
  have declaration : Event.declaration.Legible := trivial
  rw [ofBytes?, tokensOfBytes?_bytes (List.forall_mem_cons.2 ⟨declaration, legible⟩),
    Option.bind_eq_bind, Option.bind_some, ← alone]
  exact document?_declaration _

end Root

end GeoFeed.Xml

/-
# GeoFeed.Xml.Event -- markup as a sequence of events

A document is written as a sequence of events: tags, stretches of text, CDATA
sections.  Each event has one text (`Event.toChars`), and a document is the
texts of its events one after the other, with nothing in between: no
indentation and no line breaks.

Names are written as they are, so a name with a namespace prefix is the
caller's business.  Text and attribute values are escaped.
-/
import GeoFeed.Xml.Escape
import GeoFeed.Xml.Cdata

namespace GeoFeed.Xml

set_option autoImplicit false

/-- Attributes in the order in which they are written. -/
abbrev Attributes := List (String × String)

inductive Event where
  /-- The XML declaration. -/
  | declaration
  /-- A start tag. -/
  | opening (name : String) (attributes : Attributes)
  /-- An end tag. -/
  | closing (name : String)
  /-- An element without content. -/
  | empty (name : String) (attributes : Attributes)
  /-- Escaped text. -/
  | text (content : String)
  /-- One CDATA section with the given content. -/
  | cdata (content : String)
deriving Repr, DecidableEq

def attributesToChars (attributes : Attributes) : List Char :=
  attributes.flatMap fun (name, value) =>
    ' ' :: (name.toList ++ '=' :: '"' :: (escape value.toList ++ ['"']))

namespace Event

/-- What is written for an event. -/
def toChars : Event → List Char
  | declaration => "<?xml version=\"1.0\" encoding=\"UTF-8\"?>".toList
  | opening name attributes => '<' :: (name.toList ++ attributesToChars attributes ++ ['>'])
  | closing name => '<' :: '/' :: (name.toList ++ ['>'])
  | empty name attributes => '<' :: (name.toList ++ attributesToChars attributes ++ ['/', '>'])
  | text content => escape content.toList
  | cdata content => "<![CDATA[".toList ++ content.toList ++ "]]>".toList

/-- What is written for an event, as a text. -/
def toText (e : Event) : String :=
  String.ofList e.toChars

/-- What a report about an event calls it: the name of its element, or its kind. -/
def subject : Event → String
  | declaration => "XML declaration"
  | opening name _ => name
  | closing name => name
  | empty name _ => name
  | text _ => "text"
  | cdata _ => "CDATA"

end Event

/-- The CDATA sections that hold a text. -/
def cdataEvents (content : String) : List Event :=
  (cdataSections content.toList).map fun part => .cdata (String.ofList part)

/-- An element whose content is one escaped text. -/
def element (name content : String) : List Event :=
  [.opening name [], .text content, .closing name]

/-- An element whose content is one text in CDATA sections. -/
def cdataElement (name content : String) : List Event :=
  .opening name [] :: (cdataEvents content ++ [.closing name])

/-- The text of a sequence of events. -/
def eventsToChars (events : List Event) : List Char :=
  events.flatMap Event.toChars

@[simp]
theorem eventsToChars_nil : eventsToChars [] = [] := rfl

@[simp]
theorem eventsToChars_cons (e : Event) (rest : List Event) :
    eventsToChars (e :: rest) = e.toChars ++ eventsToChars rest := rfl

@[simp]
theorem eventsToChars_append (left right : List Event) :
    eventsToChars (left ++ right) = eventsToChars left ++ eventsToChars right := by
  simp [eventsToChars]

end GeoFeed.Xml

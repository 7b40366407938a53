/-
# GeoFeed.Proofs.Xml.Bytes -- the bytes of markup

The bytes of a sequence of events are those of its events one after the other
(`bytes_append`), so each byte belongs to one event (`eventAt?`).
-/
import GeoFeed.Output

namespace GeoFeed

set_option autoImplicit false

theorem utf8Bytes_append (front back : List Char) :
    utf8Bytes (front ++ back) = utf8Bytes front ++ utf8Bytes back :=
  List.flatMap_append

namespace Xml

/-- The bytes of a sequence of events. -/
def bytes (events : List Event) : List UInt8 :=
  utf8Bytes (eventsToChars events)

@[simp]
theorem bytes_nil : bytes [] = [] := rfl

@[simp]
theorem bytes_append (front back : List Event) : bytes (front ++ back) = bytes front ++ bytes back := by
  rw [bytes, eventsToChars_append, utf8Bytes_append, bytes, bytes]

theorem bytes_cons (e : Event) (rest : List Event) :
    bytes (e :: rest) = utf8Bytes e.toChars ++ bytes rest := by
  rw [bytes, eventsToChars_cons, utf8Bytes_append, bytes]

@[simp]
theorem bytes_singleton (e : Event) : bytes [e] = utf8Bytes e.toChars := by
  rw [bytes_cons, bytes_nil, List.append_nil]

theorem bytes_flatMap {α : Type} (events : α → List Event) (items : List α) :
    bytes (items.flatMap events) = items.flatMap fun item => bytes (events item) := by
  induction items with
  | nil => rfl
  | cons item rest ih => rw [List.flatMap_cons, bytes_append, ih, List.flatMap_cons]

/-! ## The event at a byte -/

/-- The event to which the byte of the given number belongs, counted from zero. -/
def eventAt? : List Event → Nat → Option Event
  | [], _ => none
  | e :: rest, n =>
      if n < (utf8Bytes e.toChars).length then some e
      else eventAt? rest (n - (utf8Bytes e.toChars).length)

theorem eventAt?_append_of_lt {front : List Event} {n : Nat} (inside : n < (bytes front).length)
    (back : List Event) : eventAt? (front ++ back) n = eventAt? front n := by
  induction front generalizing n with
  | nil => simp at inside
  | cons e rest ih =>
      simp only [List.cons_append, eventAt?]
      split
      · rfl
      · rw [bytes_cons, List.length_append] at inside
        exact ih (by omega)

theorem eventAt?_append_of_le {front : List Event} {n : Nat} (beyond : (bytes front).length ≤ n)
    (back : List Event) :
    eventAt? (front ++ back) n = eventAt? back (n - (bytes front).length) := by
  induction front generalizing n with
  | nil => rfl
  | cons e rest ih =>
      rw [bytes_cons, List.length_append] at beyond ⊢
      simp only [List.cons_append, eventAt?]
      rw [if_neg (by omega), ih (by omega), Nat.sub_sub]

end Xml

end GeoFeed

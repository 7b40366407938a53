/-
# GeoFeed.Output -- outputs that may refuse bytes

An output takes bytes until its room is used up; an output without a limit takes
all.  Of a write that does not fit, the bytes that fit are stored and the write
is refused, so what an output holds is always a beginning of what was sent to
it.  A write of no bytes is never refused.

A delivery is what became of a series of writes: the bytes that were stored, what
the output takes from then on, and the failure that ended the series, if any.
Nothing is written after a failure.
-/
import GeoFeed.Xml.Event

namespace GeoFeed

set_option autoImplicit false

/-- A refused write: what was to be written, and the reason the output gave. -/
structure WriteError where
  what : String
  reason : String
deriving Repr, DecidableEq

def WriteError.message (e : WriteError) : String :=
  "Failed to write " ++ e.what ++ ": " ++ e.reason

/-- What an output will still take, and the reason it gives for refusing more. -/
structure Output where
  room : Option Nat := none
  refusal : String := ""
deriving Repr, DecidableEq

/-- What became of a series of writes. -/
structure Delivery (ε : Type) where
  bytes : List UInt8
  output : Output
  failure : Option ε
deriving Repr, DecidableEq

namespace Delivery

variable {ε φ : Type}

/-- Nothing was to be written. -/
def idle (output : Output) : Delivery ε := ⟨[], output, none⟩

/-- Go on with the output where nothing has failed. -/
def andThen (d : Delivery ε) (more : Output → Delivery ε) : Delivery ε :=
  match d.failure with
  | some _ => d
  | none =>
      let next := more d.output
      ⟨d.bytes ++ next.bytes, next.output, next.failure⟩

/-- The same delivery with its failure told in other terms. -/
def mapFailure (d : Delivery ε) (f : ε → φ) : Delivery φ :=
  ⟨d.bytes, d.output, d.failure.map f⟩

/-! ## Deliveries in a row -/

theorem andThen_of_failure {d : Delivery ε} (h : d.failure.isSome) (more : Output → Delivery ε) :
    d.andThen more = d := by
  obtain ⟨cause, h⟩ := Option.isSome_iff_exists.1 h
  simp [andThen, h]

end Delivery

/-- The bytes of a text. -/
def utf8Bytes (cs : List Char) : List UInt8 :=
  cs.flatMap String.utf8EncodeChar

namespace Output

/-- Send bytes, which a failure will call `what`. -/
def store (output : Output) (what : String) (bytes : List UInt8) : Delivery WriteError :=
  match output.room with
  | none => ⟨bytes, output, none⟩
  | some room =>
      if bytes.length ≤ room then
        ⟨bytes, { output with room := some (room - bytes.length) }, none⟩
      else ⟨bytes.take room, { output with room := some 0 }, some ⟨what, output.refusal⟩⟩

/-- Write one event. -/
def write (output : Output) (e : Xml.Event) : Delivery WriteError :=
  output.store e.subject (utf8Bytes e.toChars)

/-- Write events one after the other. -/
def writeAll (output : Output) : List Xml.Event → Delivery WriteError
  | [] => .idle output
  | e :: rest => (output.write e).andThen fun next => next.writeAll rest

/-! ## What is stored -/

theorem write_unlimited {output : Output} (h : output.room = none) (e : Xml.Event) :
    output.write e = ⟨utf8Bytes e.toChars, output, none⟩ := by
  simp [write, store, h]

/-- **An output without a limit stores every event.** -/
theorem writeAll_unlimited {output : Output} (h : output.room = none) (events : List Xml.Event) :
    output.writeAll events = ⟨utf8Bytes (Xml.eventsToChars events), output, none⟩ := by
  induction events with
  | nil => rfl
  | cons e rest ih =>
      simp only [writeAll, write_unlimited h, Delivery.andThen, ih]
      simp [utf8Bytes]

end Output

end GeoFeed

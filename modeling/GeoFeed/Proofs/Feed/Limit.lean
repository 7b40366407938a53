/-
# GeoFeed.Proofs.Feed.Limit -- feeds on an output that is too small

An output with a limit stores a beginning of the document.  Where the document
fits, the limit leaves no trace at all.  Where it does not, the output holds
exactly as many bytes as it takes, and the failure goes back to one refused write:
that of the event to which the first missing byte belongs (`Xml.eventAt?`).

A failure is told in other terms on its way up, as a failure of a fragment and of
its feature.  `Delivery.StopsShort` carries the refused write through all of them
(`StopsShort.mapFailure`), and through everything that would have followed
(`StopsShort.andThen`).  The encoders are any encoders whatever: one that fails by
itself does so only if all it wrote before was accepted.

Main statement: `deliverDocument_limited`.
-/
import GeoFeed.Proofs.Feed.Trace

namespace GeoFeed

set_option autoImplicit false

/-! ## The write behind a failure -/

/-- The refused write behind the failure of a fragment. -/
def GmlError.refusedWrite? : GmlError → Option WriteError
  | unsupported _ => none
  | output cause => some cause

/-- The refused write behind a failure of markup. -/
def MarkupError.refusedWrite? : MarkupError → Option WriteError
  | output cause => some cause
  | gml cause => cause.refusedWrite?

/-- The refused write behind the failure of a feed. -/
def FeedError.refusedWrite? : FeedError → Option WriteError
  | output cause => some cause
  | gml _ cause => cause.refusedWrite?

theorem FeedError.refusedWrite?_ofMarkup (feature : String) (e : MarkupError) :
    (FeedError.ofMarkup feature e).refusedWrite? = e.refusedWrite? := by
  cases e <;> rfl

/-! ## Stopping short -/

/-- A delivery of events that ended when the given room was used up. -/
structure Delivery.StopsShort {ε : Type} (d : Delivery ε) (root : ε → Option WriteError)
    (events : List Xml.Event) (room : Nat) (refusal : String) : Prop where
  /-- The room is filled. -/
  stored : d.bytes = (Xml.bytes events).take room
  /-- The event that did not fit is behind the failure. -/
  refused : ∃ e cause, Xml.eventAt? events room = some e ∧ d.failure = some cause ∧
    root cause = some ⟨e.subject, refusal⟩

namespace Delivery.StopsShort

variable {ε φ : Type} {d : Delivery ε} {root : ε → Option WriteError} {events : List Xml.Event}
  {room : Nat} {refusal : String}

theorem isSome_failure (short : d.StopsShort root events room refusal) : d.failure.isSome := by
  obtain ⟨-, cause, -, failed, -⟩ := short.refused
  rw [failed]
  rfl

/-- The refused write stays the same, whatever the failure is called. -/
theorem mapFailure (short : d.StopsShort root events room refusal) (f : ε → φ)
    (root' : φ → Option WriteError) (same : ∀ cause, root' (f cause) = root cause) :
    (d.mapFailure f).StopsShort root' events room refusal := by
  obtain ⟨e, cause, found, failed, behind⟩ := short.refused
  refine ⟨short.stored, e, f cause, found, ?_, ?_⟩
  · simp [Delivery.mapFailure, failed]
  · rw [same, behind]

/-- Nothing follows. -/
theorem andThen (short : d.StopsShort root events room refusal)
    (inside : room < (Xml.bytes events).length) (more : Output → Delivery ε)
    (later : List Xml.Event) :
    (d.andThen more).StopsShort root (events ++ later) room refusal := by
  obtain ⟨e, cause, found, failed, behind⟩ := short.refused
  rw [Delivery.andThen_of_failure short.isSome_failure]
  refine ⟨?_, e, cause, ?_, failed, behind⟩
  · rw [short.stored, Xml.bytes_append, List.take_append_of_le_length (Nat.le_of_lt inside)]
  · rw [Xml.eventAt?_append_of_lt inside, found]

/-- What comes first may fit. -/
theorem of_andThen (front : List Xml.Event) {later : List Xml.Event} {more : Output → Delivery ε}
    (stored : d.bytes = Xml.bytes front) (ok : d.failure = none)
    (fits : (Xml.bytes front).length ≤ room)
    (short : (more d.output).StopsShort root later (room - (Xml.bytes front).length) refusal) :
    (d.andThen more).StopsShort root (front ++ later) room refusal := by
  obtain ⟨e, cause, found, failed, behind⟩ := short.refused
  refine ⟨?_, e, cause, ?_, ?_, behind⟩
  · simp only [Delivery.andThen, ok, short.stored, stored]
    rw [Xml.bytes_append, List.take_append, List.take_of_length_le fits]
  · rw [Xml.eventAt?_append_of_le fits, found]
  · simp only [Delivery.andThen, ok, failed]

end Delivery.StopsShort

namespace Output

variable {encoders : Encoders} {calls : Nat} {room : Nat} (refusal : String)

/-- An output with room for so many bytes. -/
abbrev limited (room : Nat) (refusal : String) : Output := ⟨some room, refusal⟩

theorem limited_fits_iff (size : Nat) : (limited room refusal).Fits size ↔ size ≤ room := by
  simp [Fits]

theorem spend_limited (size : Nat) :
    (limited room refusal).spend size = limited (room - size) refusal := rfl

theorem write_short {e : Xml.Event} (short : room < (utf8Bytes e.toChars).length) :
    ((limited room refusal).write e).StopsShort some [e] room refusal := by
  have refused : (limited room refusal).write e
      = ⟨(utf8Bytes e.toChars).take room, limited 0 refusal, some ⟨e.subject, refusal⟩⟩ := by
    simp only [write, store, if_neg (Nat.not_le_of_lt short)]
  rw [refused]
  refine ⟨by rw [Xml.bytes_singleton], e, ⟨e.subject, refusal⟩, ?_, rfl, rfl⟩
  rw [Xml.eventAt?, if_pos short]

theorem writeAll_short {events : List Xml.Event} (short : room < (Xml.bytes events).length) :
    ((limited room refusal).writeAll events).StopsShort some events room refusal := by
  induction events generalizing room with
  | nil => simp at short
  | cons e rest ih =>
      rw [writeAll]
      by_cases here : room < (utf8Bytes e.toChars).length
      · exact (write_short refusal here).andThen (by simpa using here) _ rest
      · have fits : (utf8Bytes e.toChars).length ≤ room := Nat.le_of_not_lt here
        rw [Xml.bytes_cons, List.length_append] at short
        rw [write, store_of_fits ((limited_fits_iff refusal _).2 fits), spend_limited]
        refine Delivery.StopsShort.of_andThen [e] ?_ rfl ?_ ?_
        · rw [Xml.bytes_singleton]
        · rwa [Xml.bytes_singleton]
        · rw [Xml.bytes_singleton]
          exact ih (by omega)

/-- A step that does not fit ends where the room does. -/
theorem perform_short {step : Step} (short : room < (step.trace encoders calls).bytes.length) :
    ((limited room refusal).perform encoders calls step).delivery.StopsShort
      FeedError.refusedWrite? (step.trace encoders calls).events room refusal := by
  cases step with
  | report entry => simp [Step.trace, Trace.bytes] at short
  | write feature piece =>
      cases piece with
      | event e =>
          have refused := write_short refusal (by simpa [Step.trace, Trace.bytes] using short)
          have markup := refused.mapFailure MarkupError.output MarkupError.refusedWrite? fun _ => rfl
          exact markup.mapFailure _ _ (FeedError.refusedWrite?_ofMarkup feature)
      | fragment element geometry =>
          have refused := (writeAll_short refusal short).mapFailure GmlError.output
            GmlError.refusedWrite? fun _ => rfl
          have fragment := refused.andThen short
            (fun next => ⟨[], next, (encoders calls element geometry).unsupported.map .unsupported⟩) []
          rw [List.append_nil] at fragment
          have markup := fragment.mapFailure MarkupError.gml MarkupError.refusedWrite? fun _ => rfl
          exact markup.mapFailure _ _ (FeedError.refusedWrite?_ofMarkup feature)

theorem delivery_andThen (run : FeedRun) (more : Output → FeedRun) :
    (run.andThen more).delivery = run.delivery.andThen fun next => (more next).delivery := by
  cases failed : run.delivery.failure <;> simp [FeedRun.andThen, Delivery.andThen, failed]

/-- **Steps that do not fit end where the room does.** -/
theorem carryOut_short {steps : List Step}
    (short : room < (Step.traceAll encoders calls steps).bytes.length) :
    ((limited room refusal).carryOut encoders calls steps).delivery.StopsShort
      FeedError.refusedWrite? (Step.traceAll encoders calls steps).events room refusal := by
  induction steps generalizing room calls with
  | nil => simp [Step.traceAll] at short
  | cons step rest ih =>
      rw [carryOut, delivery_andThen]
      cases ok : (step.trace encoders calls).failure with
      | some cause =>
          -- a step that fails by itself is the last one, so this is the one that does not fit
          have last : Step.traceAll encoders calls (step :: rest) = step.trace encoders calls :=
            Trace.andThen_of_failure (by simp [ok]) _
          rw [last] at short ⊢
          simpa using (perform_short refusal short).andThen short _ []
      | none =>
          have both : Step.traceAll encoders calls (step :: rest)
              = ⟨(step.trace encoders calls).events
                    ++ (Step.traceAll encoders (calls + step.calls) rest).events,
                  (Step.traceAll encoders (calls + step.calls) rest).failure,
                  (step.trace encoders calls).log
                    ++ (Step.traceAll encoders (calls + step.calls) rest).log⟩ :=
            Trace.andThen_of_ok ok _
          rw [both] at short ⊢
          by_cases here : room < (step.trace encoders calls).bytes.length
          · exact (perform_short refusal here).andThen here _ _
          · have fits : (step.trace encoders calls).bytes.length ≤ room := Nat.le_of_not_lt here
            have tail : room - (step.trace encoders calls).bytes.length
                < (Step.traceAll encoders (calls + step.calls) rest).bytes.length := by
              simp only [Trace.bytes, Xml.bytes_append, List.length_append] at short fits ⊢
              omega
            rw [perform_of_fits ((limited_fits_iff refusal _).2 fits), ok, spend_limited]
            exact Delivery.StopsShort.of_andThen _ rfl rfl fits (ih tail)

/-- Steps that come to their end fit. -/
theorem fits_of_carryOut {output : Output} {steps : List Step}
    (ended : (output.carryOut encoders calls steps).delivery.failure = none) :
    output.Fits (Step.traceAll encoders calls steps).bytes.length := by
  obtain ⟨_, refusal⟩ := output
  rintro room ⟨⟩
  refine Nat.le_of_not_lt fun short => ?_
  have stopped := (carryOut_short refusal short).isSome_failure
  rw [ended] at stopped
  cases stopped

end Output

/-! ## Documents -/

namespace Publisher

variable (p : Publisher) (encoders : Encoders) (r : Request) (collections : List (List Feature))
  (flushRefusal : Option String)

/-- What a complete document does by itself, up to the last flush. -/
def documentTrace : Trace :=
  Step.traceAll encoders 0 (p.documentSteps r collections)

/-- A document that fits is delivered as its trace tells; only a flush may fail then. -/
theorem deliverDocument_of_fits {output : Output}
    (fits : output.Fits (p.documentTrace encoders r collections).bytes.length) :
    p.deliverDocument output flushRefusal encoders r collections
      = ⟨⟨(p.documentTrace encoders r collections).bytes,
            output.spend (p.documentTrace encoders r collections).bytes.length,
            (p.documentTrace encoders r collections).failure.or
              (flushRefusal.map fun reason => .output ⟨"feed", reason⟩)⟩,
          (p.documentTrace encoders r collections).log⟩ := by
  unfold documentTrace at fits ⊢
  rw [deliverDocument, Output.carryOut_of_fits fits]
  cases (Step.traceAll encoders 0 (p.documentSteps r collections)).failure <;>
    simp [FeedRun.andThen, Output.flush]

/-- A document that does not fit ends where the room does, and is not flushed. -/
theorem deliverDocument_short {room : Nat} (refusal : String)
    (short : room < (p.documentTrace encoders r collections).bytes.length) :
    (p.deliverDocument (.limited room refusal) flushRefusal encoders r collections).delivery.StopsShort
      FeedError.refusedWrite? (p.documentTrace encoders r collections).events room refusal := by
  unfold documentTrace at short ⊢
  rw [deliverDocument, Output.delivery_andThen]
  simpa using (Output.carryOut_short refusal short).andThen short _ []

/-- **An output with a limit holds a beginning of the document, and no refused write
is passed over.**  If the document fits, the bytes, the result and the reports are
those of an output without a limit.  Otherwise the bytes are exactly those that
fit, and behind the failure is the write of the event that holds the first byte
left out, refused by the output. -/
theorem deliverDocument_limited (refusal : String) (limit : Nat) :
    (p.deliverDocument ⟨none, refusal⟩ flushRefusal encoders r collections).delivery.bytes
        = (p.documentTrace encoders r collections).bytes ∧
      ((p.documentTrace encoders r collections).bytes.length ≤ limit →
        (p.deliverDocument ⟨some limit, refusal⟩ flushRefusal encoders r collections).delivery.bytes
            = (p.documentTrace encoders r collections).bytes ∧
          p.result r collections
              (p.deliverDocument ⟨some limit, refusal⟩ flushRefusal encoders r collections)
            = p.result r collections
              (p.deliverDocument ⟨none, refusal⟩ flushRefusal encoders r collections) ∧
          (p.deliverDocument ⟨some limit, refusal⟩ flushRefusal encoders r collections).log
            = (p.deliverDocument ⟨none, refusal⟩ flushRefusal encoders r collections).log) ∧
      (limit < (p.documentTrace encoders r collections).bytes.length →
        (p.deliverDocument ⟨some limit, refusal⟩ flushRefusal encoders r collections).delivery.bytes
            = (p.documentTrace encoders r collections).bytes.take limit ∧
          ∃ e cause, Xml.eventAt? (p.documentTrace encoders r collections).events limit = some e ∧
            p.result r collections
                (p.deliverDocument ⟨some limit, refusal⟩ flushRefusal encoders r collections)
              = .error cause ∧
            cause.refusedWrite? = some ⟨e.subject, refusal⟩) := by
  have accepts : (⟨none, refusal⟩ : Output).room = none := rfl
  have whole := p.deliverDocument_of_fits encoders r collections flushRefusal
    (Output.fits_of_unlimited accepts _)
  refine ⟨?_, ?_, ?_⟩
  · rw [whole]
  · intro fits
    have same := p.deliverDocument_of_fits encoders r collections flushRefusal
      ((Output.limited_fits_iff refusal _).2 fits)
    rw [whole, same]
    exact ⟨rfl, rfl, rfl⟩
  · intro short
    obtain ⟨cut, e, cause, found, failed, behind⟩ :=
      p.deliverDocument_short encoders r collections flushRefusal refusal short
    exact ⟨cut, e, cause, found, (p.result_eq_error_iff r collections _ cause).2 failed, behind⟩

/-- A point whose identifier ends a CDATA section. -/
def marked : Feature := ⟨"a]]>b", .empty, some (.point ⟨1, 2⟩)⟩

/-- The document of that point on outputs with and without a limit. -/
def markedRun (room : Option Nat) : FeedRun :=
  (Publisher.byId .gml).deliverDocument ⟨room, "full"⟩ none .standard (.ofOptions []) [[marked]]

/-- A limit between the two sections of a description, and one between the two numbers of a
GML fragment: what is refused is the second section, and the text of the position. -/
theorem deliverDocument_limited_in_item :
    582 < (markedRun none).delivery.bytes.length ∧
      (markedRun (some 479)).delivery.bytes = (markedRun none).delivery.bytes.take 479 ∧
      (∃ cause, (Publisher.byId .gml).result (.ofOptions []) [[marked]] (markedRun (some 479))
          = .error cause ∧
        cause.refusedWrite? = some ⟨(Xml.Event.cdata ">b").subject, "full"⟩) ∧
      (markedRun (some 582)).delivery.bytes = (markedRun none).delivery.bytes.take 582 ∧
      ∃ cause, (Publisher.byId .gml).result (.ofOptions []) [[marked]] (markedRun (some 582))
          = .error cause ∧
        cause.refusedWrite? = some ⟨(Xml.Event.text "2 1").subject, "full"⟩ := by
  have short : 582 < (markedRun none).delivery.bytes.length := by decide +kernel
  have section_at : Xml.eventAt? ((Publisher.byId .gml).documentTrace .standard (.ofOptions [])
      [[marked]]).events 479 = some (.cdata ">b") := by
    decide +kernel
  have position_at : Xml.eventAt? ((Publisher.byId .gml).documentTrace .standard (.ofOptions [])
      [[marked]]).events 582 = some (.text "2 1") := by
    decide +kernel
  have limited := (Publisher.byId .gml).deliverDocument_limited .standard (.ofOptions []) [[marked]]
    none "full"
  unfold markedRun at short ⊢
  rw [(limited 0).1] at short ⊢
  obtain ⟨cut, e, cause, found, failed, behind⟩ :=
    (limited 479).2.2 (Nat.lt_trans (by decide) short)
  obtain ⟨cut', e', cause', found', failed', behind'⟩ := (limited 582).2.2 short
  obtain rfl := Option.some.inj (section_at.symm.trans found)
  obtain rfl := Option.some.inj (position_at.symm.trans found')
  exact ⟨short, cut, ⟨cause, failed, behind⟩, cut', cause', failed', behind'⟩

end Publisher

end GeoFeed

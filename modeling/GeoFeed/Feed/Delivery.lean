/-
# GeoFeed.Feed.Delivery -- delivering a feed

The steps of a plan are carried out in order, pieces on the output and reports in
the log, until one of them fails.  A piece of an item that fails inside a GML
fragment is told as a failure of that feature; every other failure is the
refused write itself.

A complete document has the XML declaration before the feed and flushes the
output after it.

Main statement: `carryOut_append`.  What a feed writes and reports is what its
steps write and report one after the other, so a run can be taken apart wherever
its plan can.
-/
import GeoFeed.Feed.Plan

namespace GeoFeed

set_option autoImplicit false

/-- Why a feed was not delivered to its end. -/
inductive FeedError where
  | output (cause : WriteError)
  | gml (feature : String) (cause : GmlError)
deriving Repr, DecidableEq

namespace FeedError

def message : FeedError → String
  | output cause => cause.message
  | gml feature cause =>
      "Cannot transform the geometry of feature '" ++ feature ++ "' in GML: " ++ cause.message

/-- How the service tells its clients of a failure. -/
def serviceMessage (e : FeedError) : String :=
  "Error: " ++ e.message

/-- The failure of a piece for a feature. -/
def ofMarkup (feature : String) : MarkupError → FeedError
  | .output cause => output cause
  | .gml cause => gml feature cause

end FeedError

/-- The name under which the feed format is known. -/
def formatName : String := "GeoRSS"

/-- The media type of a feed. -/
def mediaType : String := "application/rss+xml"

/-- What became of a feed. -/
structure FeedRun where
  delivery : Delivery FeedError
  log : List Log.Entry

namespace FeedRun

/-- Nothing was to be done. -/
def idle (output : Output) : FeedRun := ⟨.idle output, []⟩

/-- Go on with the output where nothing has failed. -/
def andThen (run : FeedRun) (more : Output → FeedRun) : FeedRun :=
  match run.delivery.failure with
  | some _ => run
  | none =>
      let next := more run.delivery.output
      ⟨⟨run.delivery.bytes ++ next.delivery.bytes, next.delivery.output, next.delivery.failure⟩,
        run.log ++ next.log⟩

@[simp]
theorem idle_andThen (output : Output) (more : Output → FeedRun) :
    (idle output).andThen more = more output := by
  simp [andThen, idle, Delivery.idle]

theorem andThen_of_failure {run : FeedRun} (h : run.delivery.failure.isSome)
    (more : Output → FeedRun) : run.andThen more = run := by
  obtain ⟨cause, h⟩ := Option.isSome_iff_exists.1 h
  simp [andThen, h]

/-- It does not matter how a row of runs is grouped. -/
theorem andThen_assoc (run : FeedRun) (more rest : Output → FeedRun) :
    (run.andThen more).andThen rest = run.andThen fun next => (more next).andThen rest := by
  cases h : run.delivery.failure with
  | some cause => simp [andThen, h]
  | none =>
      cases hm : (more run.delivery.output).delivery.failure with
      | some cause => simp [andThen, h, hm]
      | none => simp [andThen, h, hm]

end FeedRun

/-- The number of calls of the encoder that a step takes. -/
def Step.calls : Step → Nat
  | report _ => 0
  | write _ piece => piece.calls

/-- The number of calls of the encoder that steps take. -/
def Step.totalCalls : List Step → Nat
  | [] => 0
  | step :: rest => step.calls + totalCalls rest

namespace Output

/-- Carry out one step after the given number of calls of the encoder. -/
def perform (output : Output) (encoders : Encoders) (calls : Nat) : Step → FeedRun
  | .report entry => ⟨.idle output, [entry]⟩
  | .write feature piece =>
      ⟨(output.writePiece encoders calls piece).mapFailure (.ofMarkup feature), []⟩

/-- Carry out steps after the given number of calls of the encoder. -/
def carryOut (output : Output) (encoders : Encoders) (calls : Nat) : List Step → FeedRun
  | [] => .idle output
  | step :: rest =>
      (output.perform encoders calls step).andThen fun next =>
        next.carryOut encoders (calls + step.calls) rest

/-- **Steps are carried out in a row, wherever the row is cut.** -/
theorem carryOut_append (output : Output) (encoders : Encoders) (calls : Nat)
    (front back : List Step) :
    output.carryOut encoders calls (front ++ back)
      = (output.carryOut encoders calls front).andThen fun next =>
          next.carryOut encoders (calls + Step.totalCalls front) back := by
  induction front generalizing output calls with
  | nil => simp [carryOut, Step.totalCalls]
  | cons step rest ih =>
      simp only [List.cons_append, carryOut, FeedRun.andThen_assoc]
      congr 1
      funext next
      rw [ih]
      simp [Step.totalCalls, Nat.add_assoc]

end Output

/-- Flush an output; `refusal` is the reason it gives for not flushing. -/
def Output.flush (output : Output) (refusal : Option String) : FeedRun :=
  ⟨⟨[], output, refusal.map fun reason => .output ⟨"feed", reason⟩⟩, []⟩

/-- Deliver the feed of a service for a request. -/
def Service.deliver (s : Service) (output : Output) (encoders : Encoders) (r : Request)
    (collections : List (List Feature)) : FeedRun :=
  output.carryOut encoders 0 (s.plan r collections)

namespace Publisher

variable (p : Publisher)

/-- Deliver the feed for a request. -/
def deliver (output : Output) (encoders : Encoders) (r : Request)
    (collections : List (List Feature)) : FeedRun :=
  output.carryOut encoders 0 (p.plan r collections)

/-- A publisher delivers what its service delivers. -/
theorem deliver_service (output : Output) (encoders : Encoders) (r : Request)
    (collections : List (List Feature)) :
    p.service.deliver output encoders r collections = p.deliver output encoders r collections :=
  rfl

/-- The steps of a complete document. -/
def documentSteps (r : Request) (collections : List (List Feature)) : List Step :=
  Step.events [.declaration] ++ p.plan r collections

/-- Deliver a complete document. -/
def deliverDocument (output : Output) (flushRefusal : Option String) (encoders : Encoders)
    (r : Request) (collections : List (List Feature)) : FeedRun :=
  (output.carryOut encoders 0 (p.documentSteps r collections)).andThen fun next =>
    next.flush flushRefusal

end Publisher

end GeoFeed

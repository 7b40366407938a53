/-
# GeoFeed.Proofs.Feed.Cause -- how the failure of a feed is told

A feed fails for one of two causes, and the failure does not always tell which.  An
output that has no more room refuses one step of the plan (`RefusedStep`): a step
that writes an event fails with the refused write itself, but a step that writes a
fragment passes the refused write on as a failure of the encoder, under the name of
the feature (`Step.told`).  So a caller who sees a failure of GML has to look into it:
it is a geometry that has no element only if everything before it was accepted.

Main statement: `deliver_failure_cause`, which settles the failure of every feed on
every output.  Outside the GML scheme there are no fragments, and refused writes are
told as such.
-/
import GeoFeed.Proofs.Feed.Limit
import GeoFeed.Proofs.Feed.Unsupported

namespace GeoFeed

set_option autoImplicit false

namespace Xml

/-- Exactly the bytes that there are belong to an event. -/
theorem isSome_eventAt?_iff {events : List Event} {n : Nat} :
    (eventAt? events n).isSome ↔ n < (bytes events).length := by
  induction events generalizing n with
  | nil => simp [eventAt?]
  | cons e rest ih =>
      rw [eventAt?, bytes_cons, List.length_append]
      split
      · rename_i here
        simp only [Option.isSome_some, true_iff]
        omega
      · rw [ih]
        omega

end Xml

theorem Trace.ofSteps_cons (step : Step) (rest : List Step) :
    ofSteps (step :: rest) = step.standardTrace.andThen (ofSteps rest) := rfl

/-! ## The step that is refused -/

/-- How a step tells of a refused write. -/
def Step.told (refused : WriteError) : Step → FeedError
  | .write feature (.fragment _ _) => .gml feature (.output refused)
  | _ => .output refused

/-- The step at which the given room ends. -/
structure RefusedStep (steps : List Step) (room : Nat) where
  before : List Step
  step : Step
  after : List Step
  steps_eq : steps = before ++ step :: after
  before_ok : (Trace.ofSteps before).failure = none
  before_fits : (Trace.ofSteps before).bytes.length ≤ room
  /-- The event whose bytes do not all fit. -/
  event : Xml.Event
  found : Xml.eventAt? step.standardTrace.events
    (room - (Trace.ofSteps before).bytes.length) = some event

namespace RefusedStep

variable {steps : List Step} {room : Nat}

theorem step_mem (stop : RefusedStep steps room) : stop.step ∈ steps :=
  (congrArg (stop.step ∈ ·) stop.steps_eq).mpr (List.mem_append_right _ List.mem_cons_self)

theorem step_short (stop : RefusedStep steps room) :
    room - (Trace.ofSteps stop.before).bytes.length < stop.step.standardTrace.bytes.length :=
  Xml.isSome_eventAt?_iff.1 (by rw [stop.found]; rfl)

/-- The step that is refused after one more that is not. -/
def cons {step : Step} (ok : step.standardTrace.failure = none)
    (fits : step.standardTrace.bytes.length ≤ room)
    (stop : RefusedStep steps (room - step.standardTrace.bytes.length)) :
    RefusedStep (step :: steps) room where
  before := step :: stop.before
  step := stop.step
  after := stop.after
  steps_eq := congrArg (step :: ·) stop.steps_eq
  before_ok := by
    rw [Trace.ofSteps_cons, Trace.andThen_of_ok ok]
    exact stop.before_ok
  before_fits := by
    have within := stop.before_fits
    rw [Trace.ofSteps_cons, Trace.bytes_andThen_of_ok ok, List.length_append]
    omega
  event := stop.event
  found := by
    rw [Trace.ofSteps_cons, Trace.bytes_andThen_of_ok ok, List.length_append, ← Nat.sub_sub]
    exact stop.found

end RefusedStep

/-- Where not everything fits, some step is refused. -/
theorem exists_refusedStep {steps : List Step} {room : Nat}
    (short : room < (Trace.ofSteps steps).bytes.length) : Nonempty (RefusedStep steps room) := by
  induction steps generalizing room with
  | nil => simp [Trace.ofSteps] at short
  | cons step rest ih =>
      by_cases here : room < step.standardTrace.bytes.length
      · obtain ⟨event, found⟩ := Option.isSome_iff_exists.1 (Xml.isSome_eventAt?_iff.2 here)
        exact ⟨[], step, rest, rfl, rfl, Nat.zero_le _, event, found⟩
      · cases ok : step.standardTrace.failure with
        | some cause =>
            rw [Trace.ofSteps_cons, Trace.andThen_of_failure (by simp [ok])] at short
            exact absurd short here
        | none =>
            rw [Trace.ofSteps_cons, Trace.bytes_andThen_of_ok ok, List.length_append] at short
            have later : room - step.standardTrace.bytes.length
                < (Trace.ofSteps rest).bytes.length := by omega
            obtain ⟨stop⟩ := ih later
            exact ⟨stop.cons ok (Nat.le_of_not_lt here)⟩

namespace Output

theorem trace_standard (calls : Nat) (step : Step) :
    step.trace .standard calls = step.standardTrace := by
  cases step with
  | report entry => rfl
  | write feature piece => cases piece <;> rfl

/-- A step tells of a refused write in one way only. -/
theorem eq_told_of_perform {output : Output} {encoders : Encoders} {calls : Nat} {step : Step}
    {cause : FeedError} {refused : WriteError}
    (failed : (output.perform encoders calls step).delivery.failure = some cause)
    (behind : cause.refusedWrite? = some refused) : cause = step.told refused := by
  cases step with
  | report entry => cases failed
  | write feature piece =>
      cases piece with
      | event e =>
          simp only [perform, writePiece, Delivery.mapFailure, Option.map_map,
            Option.map_eq_some_iff] at failed
          obtain ⟨w, -, rfl⟩ := failed
          obtain rfl : w = refused := Option.some.inj behind
          rfl
      | fragment element geometry =>
          simp only [perform, writePiece, Delivery.mapFailure, Option.map_map,
            Option.map_eq_some_iff] at failed
          obtain ⟨w, -, rfl⟩ := failed
          cases w with
          | unsupported kind => cases behind
          | output w' =>
              obtain rfl : w' = refused := Option.some.inj behind
              rfl

/-- **Steps that do not fit fail as the refused step tells it.** -/
theorem failure_carryOut_of_refused {steps : List Step} {room : Nat} (refusal : String)
    (stop : RefusedStep steps room) (calls : Nat) :
    ((limited room refusal).carryOut .standard calls steps).delivery.failure
      = some (stop.step.told ⟨stop.event.subject, refusal⟩) := by
  have inside := stop.step_short
  obtain ⟨before, step, after, rfl, ok, fits, event, found⟩ := stop
  have front : Step.traceAll .standard calls before = Trace.ofSteps before :=
    Step.traceAll_standard calls before
  have within : (limited room refusal).Fits (Step.traceAll .standard calls before).bytes.length :=
    (limited_fits_iff refusal _).2 (front ▸ fits)
  have ran := carryOut_of_fits within
  rw [front, spend_limited, ok] at ran
  have beyond : room - (Trace.ofSteps before).bytes.length
      < (step.trace .standard (calls + Step.totalCalls before)).bytes.length := by
    rw [trace_standard]
    exact inside
  have short := perform_short refusal beyond
  obtain ⟨e, cause, found', failed, behind⟩ := short.refused
  rw [trace_standard, found] at found'
  obtain rfl := Option.some.inj found'
  have last : ((limited (room - (Trace.ofSteps before).bytes.length) refusal).carryOut .standard
      (calls + Step.totalCalls before) (step :: after)).delivery.failure
        = some (step.told ⟨event.subject, refusal⟩) := by
    rw [carryOut, delivery_andThen, Delivery.andThen_of_failure short.isSome_failure, failed,
      eq_told_of_perform failed behind]
  rw [carryOut_append, ran]
  simpa [FeedRun.andThen] using last

end Output

/-! ## Fragments -/

/-- A fragment in an item is its markup. -/
theorem Entry.markup_of_fragment_mem_pieces {entry : Entry} {element : Gml.Element}
    {geometry : Geometry} (member : .fragment element geometry ∈ entry.pieces) :
    ∃ m, entry.markup = some m ∧ m = .gml element geometry := by
  have plain (es : List Xml.Event) : Piece.fragment element geometry ∉ Piece.events es := by
    simp [Piece.events]
  rw [pieces, List.mem_append, List.mem_append] at member
  rcases member with (front | markup) | closing
  · exact absurd front (plain _)
  · cases found : entry.markup with
    | none =>
        rw [found] at markup
        cases markup
    | some m =>
        rw [found] at markup
        refine ⟨m, rfl, ?_⟩
        cases m with
        | simple name content => exact absurd markup (plain _)
        | latLong lat lon => exact absurd markup (plain _)
        | gml element' geometry' =>
            cases List.mem_singleton.1 markup
            rfl
  · exact absurd closing (plain _)

namespace Step

/-- Whether a step writes a fragment. -/
def isFragment : Step → Bool
  | .write _ (.fragment _ _) => true
  | _ => false

theorem told_of_not_isFragment {step : Step} (plain : step.isFragment = false)
    (refused : WriteError) : step.told refused = .output refused := by
  cases step with
  | report entry => rfl
  | write feature piece =>
      cases piece with
      | event e => rfl
      | fragment element geometry => cases plain

end Step

namespace Publisher

variable (p : Publisher) (r : Request) (collections : List (List Feature))

/-- **Outside the GML scheme no step of a feed writes a fragment.** -/
theorem isFragment_of_mem_plan (other : (r.shape p.standard).value.scheme ≠ .gml) {step : Step}
    (member : step ∈ p.plan r collections) : step.isFragment = false := by
  rcases mem_plan member with
    ⟨report, rfl⟩ | ⟨e, -, rfl⟩ | ⟨f, -, entry, written, piece, inside, rfl⟩
  · rfl
  · rfl
  · cases piece with
    | event e => rfl
    | fragment element geometry =>
        exfalso
        obtain ⟨m, found, rfl⟩ := Entry.markup_of_fragment_mem_pieces inside
        obtain ⟨g, same⟩ := Feature.markup_of_mem_feedEntries written found
        exact other (Scheme.scheme_of_markup same).symm

/-- **The failure of a feed is settled by what it writes and where the room ends.**  Where
all that it writes by itself fits, it fails only for the first written part that GML has
no element for.  Where the room ends before, one step of the plan is refused, and the
failure is what that step tells: outside all fragments the refused write, and inside a
fragment a failure of GML for its feature, with the refused write behind it.  Under any
other scheme than GML it is always the refused write. -/
theorem deliver_failure_cause (output : Output) :
    (output.Fits (p.feedTrace r collections).bytes.length →
      ∀ cause, p.result r collections (p.deliver output .standard r collections) = .error cause →
        (r.shape p.standard).value.scheme = .gml ∧
          ∃ stop : FirstLacking collections.flatten (r.shape p.standard).value.continuation,
            cause = .gml stop.feature.id (.unsupported stop.part.unwrap.kindName)) ∧
      ∀ room, output.room = some room → room < (p.feedTrace r collections).bytes.length →
        ∃ stop : RefusedStep (p.plan r collections) room,
          p.result r collections (p.deliver output .standard r collections)
              = .error (stop.step.told ⟨stop.event.subject, output.refusal⟩) ∧
            ((r.shape p.standard).value.scheme ≠ .gml →
              stop.step.told ⟨stop.event.subject, output.refusal⟩
                = .output ⟨stop.event.subject, output.refusal⟩) := by
  have traced : Step.traceAll .standard 0 (p.plan r collections) = p.feedTrace r collections :=
    Step.traceAll_standard 0 _
  constructor
  · intro fits cause error
    have ran : p.deliver output .standard r collections = _ := Output.carryOut_of_fits (traced ▸ fits)
    have failed := (p.result_eq_error_iff r collections _ cause).1 error
    rw [ran, traced] at failed
    exact p.exists_firstLacking_of_failure r collections failed
  · intro room limited short
    obtain ⟨_, refusal⟩ := output
    cases limited
    obtain ⟨stop⟩ := exists_refusedStep short
    refine ⟨stop, ?_, fun other => ?_⟩
    · exact (p.result_eq_error_iff r collections _ _).2
        (Output.failure_carryOut_of_refused refusal stop 0)
    · exact Step.told_of_not_isFragment (p.isFragment_of_mem_plan r collections other stop.step_mem) _

/-- A room that ends with the opening tag of a fragment. -/
theorem deliver_failure_cause_in_fragment :
    (⟨some 494, "full"⟩ : Output).room = some 494 ∧
      494 < ((Publisher.byId .gml).feedTrace (.ofOptions [])
        [[⟨"way.1", .empty, some (.lineString [])⟩]]).bytes.length ∧
      ∃ stop : RefusedStep ((Publisher.byId .gml).plan (.ofOptions [])
          [[⟨"way.1", .empty, some (.lineString [])⟩]]) 494,
        (Publisher.byId .gml).result (.ofOptions []) [[⟨"way.1", .empty, some (.lineString [])⟩]]
            ((Publisher.byId .gml).deliver ⟨some 494, "full"⟩ .standard (.ofOptions [])
              [[⟨"way.1", .empty, some (.lineString [])⟩]])
          = .error (stop.step.told ⟨stop.event.subject, "full"⟩) := by
  have short : 494 < ((Publisher.byId .gml).feedTrace (.ofOptions [])
      [[⟨"way.1", .empty, some (.lineString [])⟩]]).bytes.length := by
    decide +kernel
  obtain ⟨stop, told, -⟩ := ((Publisher.byId .gml).deliver_failure_cause (.ofOptions [])
    [[⟨"way.1", .empty, some (.lineString [])⟩]] ⟨some 494, "full"⟩).2 494 rfl short
  exact ⟨rfl, short, stop, told⟩

/-- The failure does not tell the cause: this write of `gml:posList` is refused by the
output, and the caller is told of a failure of GML. -/
theorem refused_write_told_as_gml :
    ¬ ∀ (p : Publisher) (r : Request) (collections : List (List Feature)) (output : Output)
      (cause : FeedError),
        p.result r collections (p.deliver output .standard r collections) = .error cause →
          cause.refusedWrite?.isSome → ∃ refused, cause = .output refused := by
  intro told
  have failed : (Publisher.byId .gml).result (.ofOptions [])
      [[⟨"way.1", .empty, some (.lineString [])⟩]]
      ((Publisher.byId .gml).deliver ⟨some 494, "full"⟩ .standard (.ofOptions [])
        [[⟨"way.1", .empty, some (.lineString [])⟩]])
      = .error (.gml "way.1" (.output ⟨"gml:posList", "full"⟩)) := by
    decide +kernel
  obtain ⟨refused, same⟩ := told _ _ _ _ _ failed rfl
  cases same

end Publisher

end GeoFeed

/-
# GeoFeed.Proofs.Feed.Trace -- what the steps of a feed do by themselves

A trace tells what steps do apart from any output: the events that they write, in
order, what they report, and the failure of an encoder that ends them, if there
is one.  Nothing follows a failure (`Trace.andThen`), so traces put one after the
other are a row in which the first failure counts (`Trace.concat`).

An output adds to this only its room.  As long as the events of a trace fit,
carrying out the steps stores their bytes and ends as the trace ends
(`carryOut_of_fits`); an output without a limit is the case in which everything
fits (`carryOut_unlimited`).

The standard encoder answers every call alike.  Under it the trace of steps is the
row of the traces of the single steps (`traceAll_standard`), and so a feed can be
taken apart into its header, its features and its end.
-/
import GeoFeed.Feed.Delivery
import GeoFeed.Proofs.Xml.Bytes

namespace GeoFeed

set_option autoImplicit false

/-- What steps write, how they end, and what they report. -/
structure Trace where
  events : List Xml.Event := []
  failure : Option FeedError := none
  log : List Log.Entry := []

namespace Trace

/-- One trace after another, unless the first has failed. -/
def andThen (t next : Trace) : Trace :=
  match t.failure with
  | some _ => t
  | none => ⟨t.events ++ next.events, next.failure, t.log ++ next.log⟩

/-- A row of traces, up to the first failure. -/
def concat : List Trace → Trace
  | [] => {}
  | t :: rest => t.andThen (concat rest)

/-- The bytes of everything that is written. -/
def bytes (t : Trace) : List UInt8 :=
  Xml.bytes t.events

/-! ## Traces in a row -/

theorem andThen_of_failure {t : Trace} (failed : t.failure.isSome) (next : Trace) :
    t.andThen next = t := by
  obtain ⟨cause, h⟩ := Option.isSome_iff_exists.1 failed
  simp [andThen, h]

theorem andThen_of_ok {t : Trace} (ok : t.failure = none) (next : Trace) :
    t.andThen next = ⟨t.events ++ next.events, next.failure, t.log ++ next.log⟩ := by
  simp [andThen, ok]

@[simp]
theorem andThen_idle (t : Trace) : t.andThen {} = t := by
  cases failed : t.failure with
  | some cause => exact andThen_of_failure (by simp [failed]) _
  | none => rw [andThen_of_ok failed, ← failed]; simp

theorem andThen_assoc (t u v : Trace) : (t.andThen u).andThen v = t.andThen (u.andThen v) := by
  cases failed : t.failure with
  | some cause => simp [andThen, failed]
  | none =>
      cases failed' : u.failure with
      | some cause => simp [andThen, failed, failed']
      | none => simp [andThen, failed, failed']

@[simp]
theorem concat_nil : concat [] = {} := rfl

@[simp]
theorem concat_cons (t : Trace) (rest : List Trace) :
    concat (t :: rest) = t.andThen (concat rest) := rfl

@[simp]
theorem concat_append (front back : List Trace) :
    concat (front ++ back) = (concat front).andThen (concat back) := by
  induction front with
  | nil => rfl
  | cons t rest ih => rw [List.cons_append, concat_cons, ih, concat_cons, andThen_assoc]

/-- Rows in a row. -/
theorem concat_flatMap {α : Type} (rows : α → List Trace) (items : List α) :
    concat (items.flatMap rows) = concat (items.map fun item => concat (rows item)) := by
  induction items with
  | nil => rfl
  | cons item rest ih => rw [List.flatMap_cons, concat_append, ih, List.map_cons, concat_cons]

/-- A row without a failure writes and reports everything. -/
theorem concat_of_ok {ts : List Trace} (ok : ∀ t ∈ ts, t.failure = none) :
    concat ts = ⟨ts.flatMap events, none, ts.flatMap log⟩ := by
  induction ts with
  | nil => rfl
  | cons t rest ih =>
      have tail := ih fun u member => ok u (List.mem_cons_of_mem _ member)
      rw [concat_cons, andThen_of_ok (ok t List.mem_cons_self), tail]
      rfl

/-- **A row ends at its first failure**, whatever would have followed. -/
theorem concat_append_failing {front : List Trace} (ok : ∀ t ∈ front, t.failure = none)
    {t : Trace} (failed : t.failure.isSome) (back : List Trace) :
    concat (front ++ t :: back)
      = ⟨front.flatMap events ++ t.events, t.failure, front.flatMap log ++ t.log⟩ := by
  rw [concat_append, concat_cons, andThen_of_failure failed, concat_of_ok ok]
  rfl

theorem concat_failure_isSome_iff (ts : List Trace) :
    (concat ts).failure.isSome ↔ ∃ t ∈ ts, t.failure.isSome := by
  induction ts with
  | nil => simp
  | cons t rest ih =>
      cases failed : t.failure with
      | some cause =>
          have whole := andThen_of_failure (t := t) (by simp [failed]) (concat rest)
          simp [whole, failed]
      | none =>
          rw [concat_cons, andThen_of_ok failed]
          simp [ih, failed]

theorem concat_failure_eq_none_iff (ts : List Trace) :
    (concat ts).failure = none ↔ ∀ t ∈ ts, t.failure = none := by
  rw [← Option.not_isSome_iff_eq_none, concat_failure_isSome_iff]
  simp

@[simp]
theorem bytes_idle : bytes {} = [] := rfl

@[simp]
theorem bytes_andThen_of_ok {t : Trace} (ok : t.failure = none) (next : Trace) :
    (t.andThen next).bytes = t.bytes ++ next.bytes := by
  simp [bytes, andThen_of_ok ok]

end Trace

/-! ## Steps -/

namespace Step

/-- What a step does after the given number of calls of the encoder. -/
def trace (encoders : Encoders) (calls : Nat) : Step → Trace
  | .report entry => { log := [entry] }
  | .write _ (.event e) => { events := [e] }
  | .write feature (.fragment element geometry) =>
      let fragment := encoders calls element geometry
      { events := fragment.events
        failure := fragment.unsupported.map fun kind => .gml feature (.unsupported kind) }

/-- What steps do after the given number of calls of the encoder. -/
def traceAll (encoders : Encoders) (calls : Nat) : List Step → Trace
  | [] => {}
  | step :: rest => (step.trace encoders calls).andThen (traceAll encoders (calls + step.calls) rest)

/-- What a step does with the standard encoder. -/
def standardTrace (step : Step) : Trace := step.trace .standard 0

/-- **Under the standard encoder steps can be told apart.** -/
theorem traceAll_standard (calls : Nat) (steps : List Step) :
    traceAll .standard calls steps = Trace.concat (steps.map standardTrace) := by
  induction steps generalizing calls with
  | nil => rfl
  | cons step rest ih =>
      have same : step.trace .standard calls = step.standardTrace := by
        cases step with
        | report entry => rfl
        | write feature piece => cases piece <;> rfl
      rw [traceAll, ih, same, List.map_cons, Trace.concat_cons]

end Step

/-! ## Outputs with enough room -/

namespace Output

/-- Whether so many bytes fit. -/
def Fits (output : Output) (size : Nat) : Prop :=
  ∀ room, output.room = some room → size ≤ room

/-- The output after so many bytes. -/
def spend (output : Output) (size : Nat) : Output :=
  { output with room := output.room.map (· - size) }

theorem fits_of_unlimited {output : Output} (accepts : output.room = none) (size : Nat) :
    output.Fits size := by
  intro room limited
  rw [accepts] at limited
  cases limited

theorem spend_of_unlimited {output : Output} (accepts : output.room = none) (size : Nat) :
    output.spend size = output := by
  cases output
  simp_all [spend]

@[simp]
theorem spend_zero (output : Output) : output.spend 0 = output := by
  cases output with
  | mk room refusal => cases room <;> rfl

theorem spend_spend (output : Output) (size more : Nat) :
    (output.spend size).spend more = output.spend (size + more) := by
  cases output with
  | mk room refusal => cases room <;> simp [spend, Nat.sub_sub]

theorem fits_add_iff (output : Output) (size more : Nat) :
    output.Fits (size + more) ↔ output.Fits size ∧ (output.spend size).Fits more := by
  cases output with
  | mk room refusal =>
      cases room with
      | none => simp [Fits, spend]
      | some room => simp only [Fits, spend, Option.map_some, Option.some.injEq, forall_eq']; omega

theorem store_of_fits {output : Output} {what : String} {bytes : List UInt8}
    (fits : output.Fits bytes.length) :
    output.store what bytes = ⟨bytes, output.spend bytes.length, none⟩ := by
  unfold store
  split
  · rename_i unlimited
    rw [spend_of_unlimited unlimited]
  · rename_i room limited
    rw [if_pos (fits room limited)]
    simp [spend, limited]

theorem writeAll_of_fits {output : Output} {events : List Xml.Event}
    (fits : output.Fits (Xml.bytes events).length) :
    output.writeAll events
      = ⟨Xml.bytes events, output.spend (Xml.bytes events).length, none⟩ := by
  induction events generalizing output with
  | nil => simp [writeAll, Delivery.idle]
  | cons e rest ih =>
      rw [Xml.bytes_cons, List.length_append, fits_add_iff] at fits
      rw [writeAll, write, store_of_fits fits.1, Xml.bytes_cons, List.length_append, ← spend_spend]
      simp only [Delivery.andThen]
      rw [ih fits.2]

/-- A step whose events fit is carried out as its trace tells. -/
theorem perform_of_fits {output : Output} {encoders : Encoders} {calls : Nat} {step : Step}
    (fits : output.Fits (step.trace encoders calls).bytes.length) :
    output.perform encoders calls step
      = ⟨⟨(step.trace encoders calls).bytes,
            output.spend (step.trace encoders calls).bytes.length,
            (step.trace encoders calls).failure⟩,
          (step.trace encoders calls).log⟩ := by
  cases step with
  | report entry => simp [perform, Step.trace, Delivery.idle, Trace.bytes]
  | write feature piece =>
      cases piece with
      | event e =>
          have one : (Step.trace encoders calls (.write feature (.event e))).bytes
              = utf8Bytes e.toChars := by
            simp [Step.trace, Trace.bytes]
          rw [one] at fits ⊢
          simp only [perform, writePiece, write, store_of_fits fits]
          rfl
      | fragment element geometry =>
          simp only [perform, writePiece, writeFragment, Step.trace, Trace.bytes] at fits ⊢
          rw [writeAll_of_fits fits]
          simp only [Delivery.mapFailure, Delivery.andThen, Option.map_none, List.append_nil,
            Option.map_map]
          rfl

/-- **Steps whose events fit are carried out as their trace tells.** -/
theorem carryOut_of_fits {output : Output} {encoders : Encoders} {calls : Nat} {steps : List Step}
    (fits : output.Fits (Step.traceAll encoders calls steps).bytes.length) :
    output.carryOut encoders calls steps
      = ⟨⟨(Step.traceAll encoders calls steps).bytes,
            output.spend (Step.traceAll encoders calls steps).bytes.length,
            (Step.traceAll encoders calls steps).failure⟩,
          (Step.traceAll encoders calls steps).log⟩ := by
  induction steps generalizing output calls with
  | nil => simp [carryOut, FeedRun.idle, Delivery.idle, Step.traceAll]
  | cons step rest ih =>
      rw [carryOut]
      cases ok : (step.trace encoders calls).failure with
      | some cause =>
          have ended : Step.traceAll encoders calls (step :: rest) = step.trace encoders calls :=
            Trace.andThen_of_failure (by simp [ok]) _
          rw [ended] at fits ⊢
          rw [perform_of_fits fits, FeedRun.andThen_of_failure (by simp [ok])]
      | none =>
          have both : (Step.traceAll encoders calls (step :: rest)).bytes
              = (step.trace encoders calls).bytes
                ++ (Step.traceAll encoders (calls + step.calls) rest).bytes :=
            Trace.bytes_andThen_of_ok ok _
          rw [both, List.length_append, fits_add_iff] at fits
          rw [both, perform_of_fits fits.1, ok, List.length_append, ← spend_spend]
          simp only [FeedRun.andThen, ih fits.2, Step.traceAll, Trace.andThen_of_ok ok]

/-- **An output without a limit adds nothing to the trace.** -/
theorem carryOut_unlimited {output : Output} (accepts : output.room = none) (encoders : Encoders)
    (calls : Nat) (steps : List Step) :
    output.carryOut encoders calls steps
      = ⟨⟨(Step.traceAll encoders calls steps).bytes, output,
            (Step.traceAll encoders calls steps).failure⟩,
          (Step.traceAll encoders calls steps).log⟩ := by
  rw [carryOut_of_fits (fits_of_unlimited accepts _), spend_of_unlimited accepts]

end Output

/-! ## The result -/

namespace Publisher

variable (p : Publisher) (r : Request) (collections : List (List Feature))

/-- What the caller is told of a run of the feed: its counts, or why it did not come
to its end. -/
def result (run : FeedRun) : Except FeedError Summary :=
  match run.delivery.failure with
  | none => .ok (p.planSummary r collections)
  | some cause => .error cause

theorem result_eq_error_iff (run : FeedRun) (cause : FeedError) :
    p.result r collections run = .error cause ↔ run.delivery.failure = some cause := by
  unfold result
  split <;> simp_all

theorem result_eq_ok_iff (run : FeedRun) (counts : Summary) :
    p.result r collections run = .ok counts
      ↔ run.delivery.failure = none ∧ p.planSummary r collections = counts := by
  unfold result
  split <;> simp_all

end Publisher

/-! ## A small service -/

/-- Templates that take every text of a feature from its identifier. -/
def Templates.byId : Templates where
  title f := .ok f.id
  link f := .ok f.id
  description f := .ok f.id
  published _ := .error (.missingAttribute "published")
  enclosures f := .ok ("url=" ++ f.id ++ "\nlength=1\ntype=" ++ f.id)

/-- A service that knows no types and takes all texts from identifiers. -/
def Publisher.byId (standard : Scheme) : Publisher where
  templates := .byId
  catalog := .ofTable .empty
  systemName := "geofeed"
  standard := standard

/-- A request that names no types. -/
def Request.ofOptions (entries : List (String × String)) : Request where
  baseUrl := "http://localhost"
  outputFormat := mediaType
  types := []
  options := .ofList entries

end GeoFeed

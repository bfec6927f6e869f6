/-
  The state of the receiver scheduler runtime (`pulse-runtime/src/lib.rs`) and the
  bookkeeping its operations share: sparse history, refusals, traces and outputs.

  A `&mut self` method becomes a computation over a `Cycle`: the runtime, the output the
  call is filling, and a trail that no computation reads.  The trail only names the
  moments statements about whole runs speak of.
-/
import ConstellationMonitor.Runtime.Binding

namespace ConstellationMonitor.Runtime

open Foundation ConstellationMonitor.Types Evaluation
open Std (ExtTreeMap ExtTreeSet)

/-! ## Keys -/

/-- `ConsumerKey`. -/
structure ConsumerKey where
  subject : SubjectId
  consumer : ConsumerId
  deriving DecidableEq

namespace ConsumerKey

/-- The fields in declaration order. -/
def fields (key : ConsumerKey) : SubjectId × ConsumerId := (key.subject, key.consumer)

theorem fields_injective : Function.Injective fields := by
  intro left right h
  cases left
  cases right
  simp_all [fields]

instance : Ord ConsumerKey := ordOf fields

instance : Std.TransOrd ConsumerKey := transOrd_ordOf _

instance : Std.LawfulEqOrd ConsumerKey := lawfulEqOrd_ordOf fields_injective

end ConsumerKey

/-- `ReceiverStreamIdentity`. -/
structure ReceiverStreamIdentity where
  subject : SubjectId
  subjectIncarnation : IncarnationId
  observer : ObserverId
  profile : ObservationProfileIdV1
  observationPolicyGeneration : ObservationPolicyGenerationId

namespace ReceiverStreamIdentity

/-- The fields in declaration order. -/
def fields (stream : ReceiverStreamIdentity) :
    SubjectId × IncarnationId × ObserverId × ObservationProfileIdV1 ×
      ObservationPolicyGenerationId :=
  (stream.subject, stream.subjectIncarnation, stream.observer, stream.profile,
    stream.observationPolicyGeneration)

instance : Ord ReceiverStreamIdentity := ordOf fields

instance : Std.TransOrd ReceiverStreamIdentity := transOrd_ordOf _

end ReceiverStreamIdentity

/-- `PendingKey`. -/
structure PendingKey where
  atMonotonicMs : Nat
  priority : Nat
  subject : Text
  discriminator : Text
  ingressOrdinal : Nat
  deriving DecidableEq

namespace PendingKey

/-- The fields in declaration order. -/
def fields (key : PendingKey) : Nat × Nat × Text × Text × Nat :=
  (key.atMonotonicMs, key.priority, key.subject, key.discriminator, key.ingressOrdinal)

theorem fields_injective : Function.Injective fields := by
  intro left right h
  cases left
  cases right
  simp_all [fields]

instance : Ord PendingKey := ordOf fields

instance : Std.TransOrd PendingKey := transOrd_ordOf _

instance : Std.LawfulEqOrd PendingKey := lawfulEqOrd_ordOf fields_injective

end PendingKey

/-- `ScheduleKey`. -/
structure ScheduleKey where
  deadlineMonotonicMs : Nat
  subject : SubjectId
  consumer : ConsumerId
  activationId : ContextActivationId
  deriving DecidableEq

namespace ScheduleKey

/-- The fields in declaration order. -/
def fields (schedule : ScheduleKey) : Nat × SubjectId × ConsumerId × ContextActivationId :=
  (schedule.deadlineMonotonicMs, schedule.subject, schedule.consumer, schedule.activationId)

theorem fields_injective : Function.Injective fields := by
  intro left right h
  cases left
  cases right
  simp_all [fields]

instance : Ord ScheduleKey := ordOf fields

instance : Std.TransOrd ScheduleKey := transOrd_ordOf _

instance : Std.LawfulEqOrd ScheduleKey := lawfulEqOrd_ordOf fields_injective

/-- The consumer a deadline belongs to. -/
def owner (schedule : ScheduleKey) : ConsumerKey := ⟨schedule.subject, schedule.consumer⟩

end ScheduleKey

/-! ## Runtime state -/

/-- `ConsumerState`. -/
structure ConsumerState where
  evaluator : Evaluator
  context : RelianceContextV1
  seenActivations : ExtTreeSet ContextActivationId
  certificate : Option RelianceSupportCertificateV1

/-- Whether the stored certificate is CURRENT. -/
def ConsumerState.holdsCurrent (state : ConsumerState) : Bool :=
  state.certificate.any fun certificate => decide (certificate.judgment = .current)

/-- `QualifiedBindingSlot`. -/
structure QualifiedBindingSlot where
  state : RuntimeBindingStateV1
  receipt : ActivationReceiptV1
  acceptance : LocalActivationAcceptanceV1
  accepted : Option VerifiedActivationV1

/-- `SubjectState`, empty by default. -/
structure SubjectState where
  consumers : ExtTreeSet ConsumerId := ∅
  observers : ExtTreeSet ObserverId := ∅
  subjectIncarnations : ExtTreeSet IncarnationId := ∅

/-- `RuntimeCycleOutputV1`, empty by default. -/
structure RuntimeCycleOutputV1 where
  certificates : List RelianceSupportCertificateV1 := []
  escalationRequests : List DiagnosticEscalationRequestV1 := []
  refusals : List RuntimeRefusalV1 := []
  sparseEvents : List SparseDurableEventV1 := []
  traceLines : List Text := []

/-- `RuntimeCycleOutputV1::append`. -/
def RuntimeCycleOutputV1.append (output other : RuntimeCycleOutputV1) :
    RuntimeCycleOutputV1 where
  certificates := output.certificates ++ other.certificates
  escalationRequests := output.escalationRequests ++ other.escalationRequests
  refusals := output.refusals ++ other.refusals
  sparseEvents := output.sparseEvents ++ other.sparseEvents
  traceLines := output.traceLines ++ other.traceLines

/-- The fields of `ReceiverSchedulerRuntime` that standing, deadlines and routing are
decided from. -/
structure RuntimeCore where
  config : RuntimeConfigV1
  receiver : ReceiverTracker
  subjects : ExtTreeMap SubjectId SubjectState
  consumers : ExtTreeMap ConsumerKey ConsumerState
  qualifiedBindings : ExtTreeMap ConsumerKey QualifiedBindingSlot
  remoteObservationCustody :
    ExtTreeMap (SubjectId × ObserverId) RemoteObservationCustodyReferenceV1
  pending : ExtTreeMap PendingKey RuntimeInputV1
  schedules : ExtTreeSet ScheduleKey
  requestOwners : ExtTreeMap EscalationRequestId (ConsumerKey × Nat)
  historicalContradictions : List ContradictionCustodyV1
  currentMonotonicMs : Nat
  ingressCounter : Nat
  historyExhausted : Bool
  historyBlindnessLatched : Bool

/-- `ReceiverSchedulerRuntime`: the core and the bookkeeping around it. -/
structure ReceiverSchedulerRuntime extends RuntimeCore where
  receiverStreams : ExtTreeSet ReceiverStreamIdentity
  observerIncarnations : ExtTreeMap (SubjectId × ObserverId) (ExtTreeSet IncarnationId)
  sparseHistory : List SparseDurableEventV1
  diagnosticReceipts : List MockDiagnosticReceiptV1
  historicalActivationIds : ExtTreeSet ContextActivationId
  historicalPolicyBodies : ExtTreeMap (SubjectId × ConsumerId × PolicyGenerationId) DigestV1
  metrics : RuntimeMetricsV1
  eventCounter : Nat
  refusalCounter : Nat
  historyExhaustionReported : Bool
  pendingOutput : RuntimeCycleOutputV1

/-- `ReceiverSchedulerRuntime::new`. -/
def ReceiverSchedulerRuntime.new (config : RuntimeConfigV1) :
    Except RuntimeError ReceiverSchedulerRuntime := do
  config.validate
  return {
    config := config
    receiver := .new config.receiver config.receiverIncarnation config.clockId
    subjects := ∅
    consumers := ∅
    qualifiedBindings := ∅
    remoteObservationCustody := ∅
    pending := ∅
    schedules := ∅
    requestOwners := ∅
    historicalContradictions := []
    currentMonotonicMs := 0
    historyExhausted := false
    historyBlindnessLatched := false
    receiverStreams := ∅
    observerIncarnations := ∅
    sparseHistory := []
    diagnosticReceipts := []
    historicalActivationIds := ∅
    historicalPolicyBodies := ∅
    metrics := {}
    ingressCounter := 0
    eventCounter := 0
    refusalCounter := 0
    historyExhaustionReported := false
    pendingOutput := {} }

/-! ## Cycles -/

/-- One evaluator operation the runtime performs for a consumer. -/
structure Visit where
  key : ConsumerKey
  call : EvaluatorCall
  /-- the time the evaluator is given -/
  atMs : Nat
  /-- the time the result is applied at -/
  appliedAtMs : Nat
  /-- the custody reference an ingested pulse arrived with -/
  origin : Option RemoteObservationCustodyReferenceV1

/-- A visit whose result is applied at the time it was evaluated at. -/
def Visit.at (key : ConsumerKey) (call : EvaluatorCall) (atMs : Nat) : Visit :=
  ⟨key, call, atMs, atMs, none⟩

/-- A pulse as it is handed to `process_pulse`: the arrival it is given, and the custody
reference of a remote one. -/
structure Delivery where
  arrivalAt : Nat
  ingress : PulseIngressV1
  custody : Option RemoteObservationCustodyReferenceV1

/-- What a trail records, each with the core it happened in. -/
inductive Moment where
  /-- a consumer was registered -/
  | registered (before : RuntimeCore) (registration : ConsumerRegistrationV1)
  /-- an input was taken off the queue -/
  | taken (before : RuntimeCore) (key : PendingKey) (input : RuntimeInputV1)
  /-- a pulse passed the capacity checks -/
  | pulse (before : RuntimeCore) (delivery : Delivery)
  /-- the receiver tracker was told of a subject replacement -/
  | replaced (before : RuntimeCore) (subject : SubjectId) (replacement : IncarnationId)
  /-- an evaluator operation was begun -/
  | visit (before : RuntimeCore) (visit : Visit)

/-- A runtime in the middle of a call. -/
structure Cycle extends ReceiverSchedulerRuntime where
  /-- the output the call is filling -/
  output : RuntimeCycleOutputV1 := {}
  /-- the moments of the run so far, newest first -/
  trail : List Moment := []
  /-- how many times the operating system has been probed -/
  probes : Nat := 0

/-- Why a call ended without a result. -/
inductive Stop where
  /-- a `RuntimeError` was returned -/
  | error (error : RuntimeError)
  /-- a typed refusal was returned -/
  | refused (refusal : RuntimeRefusalV1)
  /-- an `expect` failed -/
  | panic (message : Text)
  /-- the loop was given too little fuel -/
  | outOfFuel

/-- Whether the caller gets the runtime back. -/
def Stop.returns : Stop → Bool
  | .error _ => true
  | .refused _ => true
  | .panic _ => false
  | .outOfFuel => false

/-- A method of the runtime. -/
abbrev RuntimeM := EStateM Stop Cycle

/-- `return Err(RuntimeError)`. -/
def fail {α : Type} (code detail : Text) : RuntimeM α := throw (.error ⟨code, detail⟩)

/-- `?` on a result whose error is already a runtime error. -/
def orFail {α : Type} : Except RuntimeError α → RuntimeM α
  | .ok value => pure value
  | .error error => throw (.error error)

/-! ## Bookkeeping -/

/-- A trace line at a time. -/
def traceLine (atMs : Nat) (text : Text) : Text :=
  "[" ++ Text.padded 6 (Text.decimal atMs) ++ "ms] " ++ text

/-- The arguments of a refusal. -/
structure RefusalReport where
  refusalClass : RuntimeRefusalClassV1
  atMs : Nat
  subject : Option SubjectId := none
  consumer : Option ConsumerId := none
  configuredBound : Nat
  observedCount : Nat
  detail : Text

namespace Cycle

/-- Append a trace line to the output. -/
def trace (atMs : Nat) (text : Text) (cycle : Cycle) : Cycle :=
  { cycle with
    output := { cycle.output with
      traceLines := cycle.output.traceLines ++ [traceLine atMs text] } }

/-- Change the metrics. -/
def measure (f : RuntimeMetricsV1 → RuntimeMetricsV1) (cycle : Cycle) : Cycle :=
  { cycle with metrics := f cycle.metrics }

/-- `ReceiverSchedulerRuntime::refusal`. -/
def refusal (report : RefusalReport) (cycle : Cycle) : RuntimeRefusalV1 × Cycle :=
  let counter := satAdd cycle.refusalCounter 1
  ({ schemaVersion := schemaVersionV1
     refusalId := ⟨"runtime-refusal:" ++ Text.paddedHex 16 counter⟩
     refusalClass := report.refusalClass
     atMonotonicMs := report.atMs
     subject := report.subject
     consumer := report.consumer
     configuredBound := report.configuredBound
     observedCount := report.observedCount
     detail := report.detail
     currentPreserved := false
     mutationAuthority := .none },
   { cycle with refusalCounter := counter })

/-- Put a refusal into the output, after its trace line. -/
def outputRefusal (refusal : RuntimeRefusalV1) (cycle : Cycle) : Cycle :=
  let traced := cycle.trace refusal.atMonotonicMs
    ("REFUSAL class=" ++ refusal.refusalClass.debug ++ " detail=" ++ refusal.detail)
  { traced with
    output := { traced.output with refusals := traced.output.refusals ++ [refusal] } }

/-- Whether the sparse history has reached its bound. -/
def historyFull (cycle : Cycle) : Bool :=
  decide (cycle.sparseHistory.length ≥ cycle.config.bounds.maximumSparseEvents)

/-- Count an event that was refused, and find the history exhausted. -/
def countSparseRefusal (cycle : Cycle) : Cycle :=
  { cycle.measure fun metrics =>
      { metrics with
        sparseHistoryRefusalCount := satAdd metrics.sparseHistoryRefusalCount 1 } with
    historyExhausted := true }

/-- The part of `record_sparse` for a full history: the event is refused, and the first
such refusal is reported. -/
def refuseSparse (atMs : Nat) (cycle : Cycle) : Cycle :=
  let refused := cycle.countSparseRefusal
  if refused.historyExhaustionReported then refused
  else
    let (refusal, counted) :=
      ({ refused with historyExhaustionReported := true } : Cycle).refusal
        { refusalClass := .sparseHistoryCapacity
          atMs := atMs
          configuredBound := cycle.config.bounds.maximumSparseEvents
          observedCount := cycle.sparseHistory.length + 1
          detail := "sparse historical custody capacity is exhausted; the event was refused and monitor blindness latched" }
    counted.outputRefusal refusal

/-- The part of `record_sparse` for a history with room. -/
def appendSparse (host : Host) (atMs : Nat) (event : SparseDurableEventKindV1)
    (cycle : Cycle) : Cycle :=
  let counter := satAdd cycle.eventCounter 1
  let lineage := digestParts host.sha256 "runtime.event-lineage.v1"
    [cycle.config.receiverIncarnation.text.bytes, cycle.config.clockId.text.bytes]
  let record : SparseDurableEventV1 :=
    { schemaVersion := schemaVersionV1
      eventId := ⟨"runtime-event:" ++ Text.trimStartMatches "sha256:" lineage.text ++ ":" ++
        Text.paddedHex 16 counter⟩
      atMonotonicMs := atMs
      event := event }
  { cycle with
    eventCounter := counter
    sparseHistory := cycle.sparseHistory ++ [record]
    output := { cycle.output with sparseEvents := cycle.output.sparseEvents ++ [record] } }

/-- `ReceiverSchedulerRuntime::record_sparse`. -/
def recordSparse (host : Host) (atMs : Nat) (event : SparseDurableEventKindV1)
    (cycle : Cycle) : Cycle :=
  if cycle.historyFull then cycle.refuseSparse atMs else cycle.appendSparse host atMs event

/-- `ReceiverSchedulerRuntime::push_refusal`. -/
def pushRefusal (host : Host) (report : RefusalReport) (cycle : Cycle) : Cycle :=
  let (refusal, counted) := cycle.refusal report
  (counted.recordSparse host report.atMs (.runtimeRefusal refusal)).outputRefusal refusal

/-- `std::mem::take` of the pending output, appended to the output of the call. -/
def takePendingOutput (cycle : Cycle) : Cycle :=
  { cycle with output := cycle.output.append cycle.pendingOutput, pendingOutput := {} }

/-- Append what a sub-computation put into its own output to the pending output, and go
on with the output of the call. -/
def stageOutput (output : RuntimeCycleOutputV1) (cycle : Cycle) : Cycle :=
  { cycle with pendingOutput := cycle.pendingOutput.append cycle.output, output := output }

/-- `ReceiverSchedulerRuntime::stage_refusal`. -/
def stageRefusal (host : Host) (refusal : RuntimeRefusalV1) (cycle : Cycle) : Cycle :=
  ((({ cycle with output := {} } : Cycle).recordSparse host refusal.atMonotonicMs
    (.runtimeRefusal refusal)).outputRefusal refusal).stageOutput cycle.output

/-- `ReceiverSchedulerRuntime::cancel_schedule`. -/
def cancelSchedule (key : ConsumerKey) (cycle : Cycle) : Cycle :=
  { cycle with schedules := cycle.schedules.filter fun schedule => decide (schedule.owner ≠ key) }

/-- Account a deadline that was met late. -/
def accountLateness (deadline evaluatedAt : Nat) (cycle : Cycle) : Cycle :=
  let overshoot := evaluatedAt - deadline
  cycle.measure fun metrics =>
    { metrics with
      expectedSupportExpiryMonotonicMs := some deadline
      actualReevaluationMonotonicMs := some evaluatedAt
      schedulerLatenessMs := max metrics.schedulerLatenessMs overshoot
      maximumStalePositiveDurationMs := max metrics.maximumStalePositiveDurationMs overshoot }

/-- `ReceiverSchedulerRuntime::account_due_schedule_before_cancellation`. -/
def accountDueScheduleBeforeCancellation (key : ConsumerKey) (evaluatedAt : Nat)
    (cycle : Cycle) : Cycle :=
  let due := (cycle.schedules.toList.filter fun schedule =>
    decide (schedule.owner = key) && decide (schedule.deadlineMonotonicMs ≤ evaluatedAt)).map
      ScheduleKey.deadlineMonotonicMs
  match due.min? with
  | none => cycle
  | some deadline => cycle.accountLateness deadline evaluatedAt

/-- Put a consumer's state in place. -/
def putConsumer (key : ConsumerKey) (state : ConsumerState) (cycle : Cycle) : Cycle :=
  { cycle with consumers := cycle.consumers.insert key state }

/-- Take a consumer's state out. -/
def removeConsumer (key : ConsumerKey) (cycle : Cycle) : Cycle :=
  { cycle with consumers := cycle.consumers.erase key }

/-- Put a moment on the trail. -/
def mark (moment : RuntimeCore → Moment) (cycle : Cycle) : Cycle :=
  { cycle with trail := moment cycle.toRuntimeCore :: cycle.trail }

end Cycle

/-- `ReceiverSchedulerRuntime::consumer_keys`. -/
def RuntimeCore.consumerKeys (core : RuntimeCore) (subject : Option SubjectId) :
    List ConsumerKey :=
  core.consumers.keys.filter fun key => subject.all fun subject => decide (key.subject = subject)

/-- Whether a consumer's stored certificate is CURRENT. -/
def RuntimeCore.holdsCurrent (core : RuntimeCore) (key : ConsumerKey) : Bool :=
  core.consumers[key]?.any ConsumerState.holdsCurrent

end ConstellationMonitor.Runtime

/-
  Pulse admission, monitor capability, dispositions and receipts, and the calls a runtime
  makes on an evaluator (`pulse-evaluator/src/evaluator.rs`).
-/
import ConstellationMonitor.Evaluation.Operations

namespace ConstellationMonitor.Evaluation

open Foundation ConstellationMonitor.Types

/-- `PulseError`'s `Display`. -/
def pulseErrorText (error : PulseError) : Text :=
  error.code ++ " " ++ error.field ++ ": " ++ error.detail

namespace Evaluator

/-! ## Arrival classification -/

/-- `Evaluator::validate_binding`. -/
def validateBinding (evaluator : Evaluator) (received : ReceivedPulseV1) :
    Except EvaluatorError Unit := do
  refuseIf (decide (received.receiver.receiver ≠ evaluator.receiver) ||
      decide (received.receiver.receiverIncarnation ≠ evaluator.receiverIncarnation) ||
      decide (received.receiver.clockId ≠ evaluator.clockId))
    ⟨"receiver_binding_mismatch",
      "receiver identity, incarnation, or clock differs from evaluator"⟩
  refuseIf (decide (received.frame.subject ≠ evaluator.policy.subject))
    ⟨"subject_mismatch", "pulse subject differs from policy subject"⟩
  refuseIf (decide (received.frame.observationPolicyGeneration ≠
      evaluator.policy.observationPolicyGeneration))
    ⟨"observation_policy_generation_mismatch",
      "pulse observation-policy generation is not admitted by the reliance policy"⟩
  refuseIf (decide (received.frame.profile ≠ evaluator.policy.observationProfile))
    ⟨"profile_mismatch", "pulse profile differs from evaluator policy"⟩

/-- `Evaluator::classify_arrival`. -/
def classifyArrival (evaluator : Evaluator) (frame : PulseFrameV1)
    (arrival : ReceiverAnnotationV1) : ArrivalDispositionV1 × Option SequenceGapV1 :=
  if arrival.transportObservedDelayMs.any fun delay => decide (delay ≥ frame.validityMs) then
    (.stale, none)
  else if evaluator.retiredSubjectIncarnations.contains frame.subjectIncarnation then
    (.replay, none)
  else
    match evaluator.observerLineages[frame.observer]? with
    | some lineage =>
      if lineage.incarnation = frame.observerIncarnation then
        lineage.classifySequence frame.sequence
      else if evaluator.retiredObserverIncarnations.contains
          (frame.observer, frame.observerIncarnation) then
        (.replay, none)
      else (.restarted, none)
    | none => (.first, none)

/-- `Evaluator::update_lineage`. -/
def updateLineage (frame : PulseFrameV1) (disposition : ArrivalDispositionV1)
    (evaluator : Evaluator) : Evaluator :=
  let retired :=
    match disposition, evaluator.observerLineages[frame.observer]? with
    | .restarted, some old =>
      evaluator.retiredObserverIncarnations.insert (frame.observer, old.incarnation)
    | _, _ => evaluator.retiredObserverIncarnations
  { evaluator with
    retiredObserverIncarnations := retired
    observerLineages := evaluator.observerLineages.insert frame.observer
      ⟨frame.observerIncarnation, frame.sequence⟩ }

/-- Blind the monitor and log why. -/
def blindWith (detail : Text) (atMs : Nat) (evaluator : Evaluator) : Evaluator :=
  (({ evaluator with monitorCapability := .blind detail } : Evaluator).monitorEvent atMs "blind"
    detail).2

/-- Count a duplicate arrival. -/
def countDuplicate (evaluator : Evaluator) : Evaluator :=
  { evaluator with
    metrics :=
      { evaluator.metrics with
        duplicateCount := satAdd evaluator.metrics.duplicateCount 1 } }

/-- Count an arrival dropped as stale or replayed. -/
def countDropped (evaluator : Evaluator) : Evaluator :=
  { evaluator with
    metrics :=
      { evaluator.metrics with
        droppedStalePulseCount := satAdd evaluator.metrics.droppedStalePulseCount 1 } }

/-- Count a sequence gap. -/
def countGap (disposition : ArrivalDispositionV1) (evaluator : Evaluator) : Evaluator :=
  if disposition = .gap then
    { evaluator with
      metrics :=
        { evaluator.metrics with
          sequenceGapCount := satAdd evaluator.metrics.sequenceGapCount 1 } }
  else evaluator

/-! ## Ingestion -/

/-- The validity a policy grants a frame: the smaller of the two limits. -/
def effectiveValidity (evaluator : Evaluator) (frame : PulseFrameV1) : Nat :=
  min frame.validityMs evaluator.policy.maximumValidityMs

/-- The continuity recorded with evidence of an admitted disposition. -/
def continuityOf : ArrivalDispositionV1 → SequenceContinuityDimensionV1
  | .gap => .gapped
  | .restarted => .restarted
  | .first => .firstSeen
  | _ => .continuous

/-- Follow the subject incarnation a pulse names. -/
def followSubject (platform : Platform) (received : ReceivedPulseV1) (atMs : Nat)
    (evaluator : Evaluator) : Evaluator :=
  if received.frame.subjectIncarnation ≠ evaluator.currentSubjectIncarnation then
    evaluator.recordSubjectIncarnationChange platform received atMs
  else evaluator

/-- The last part of `ingest`: lineage, contradictions, supersession and the evidence
itself. -/
def admitEvidence (platform : Platform) (received : ReceivedPulseV1) (atMs : Nat)
    (evaluator : Evaluator) : Evaluator :=
  let delay := received.receiver.transportObservedDelayMs.getD 0
  let remaining := evaluator.effectiveValidity received.frame - delay
  let next := (((evaluator.followSubject platform received atMs).updateLineage received.frame
    received.receiver.disposition).detectSignalContradictions platform received
      atMs).recordAdverseSupersession received atMs
  { next with
    observers := next.observers.insert received.frame.observer
      { received := received
        expiresAtMs := satAdd received.receiver.arrivalMonotonicMs remaining
        continuity := continuityOf received.receiver.disposition } }

/-- The part of `ingest` for a disposition that can become evidence: a pulse beyond this
policy's validity only advances the lineage, and one of a retired incarnation is
dropped. -/
def ingestFresh (platform : Platform) (received : ReceivedPulseV1) (atMs : Nat)
    (evaluator : Evaluator) : Evaluator :=
  if received.receiver.transportObservedDelayMs.getD 0 ≥
      evaluator.effectiveValidity received.frame then
    (evaluator.updateLineage received.frame received.receiver.disposition).countDropped
  else if received.frame.subjectIncarnation ≠ evaluator.currentSubjectIncarnation ∧
      evaluator.retiredSubjectIncarnations.contains received.frame.subjectIncarnation then
    evaluator.countDropped
  else evaluator.admitEvidence platform received atMs

/-- The part of `ingest` after the arrival order check: an annotation that differs from
the evaluator's own classification blinds the monitor. -/
def ingestClassified (platform : Platform) (received : ReceivedPulseV1) (atMs : Nat)
    (evaluator : Evaluator) : Evaluator :=
  let expected := evaluator.classifyArrival received.frame received.receiver
  if expected.1 ≠ received.receiver.disposition ∨
      expected.2 ≠ received.receiver.sequenceGap then
    evaluator.blindWith
      ("receiver annotation mismatch: expected " ++ dispositionDebug expected.1 ++
        ", received " ++ dispositionDebug received.receiver.disposition) atMs
  else
    match received.receiver.disposition with
    | .duplicate => evaluator.countDuplicate
    | .replay => evaluator.countDropped
    | .stale => evaluator.countDropped
    | disposition => (evaluator.countGap disposition).ingestFresh platform received atMs

/-- Whether an arrival lies before one the evaluator has already seen. -/
def arrivalRegressed (evaluator : Evaluator) (received : ReceivedPulseV1) : Bool :=
  evaluator.lastReceiverArrivalMs.any fun prior =>
    decide (received.receiver.arrivalMonotonicMs < prior)

/-- The latency metric of `ingest`. -/
def recordLatency (received : ReceivedPulseV1) (atMs : Nat) (evaluator : Evaluator) :
    Evaluator :=
  { evaluator with
    metrics :=
      { evaluator.metrics with
        pulseToEvaluationLatencyMs := atMs - received.receiver.arrivalMonotonicMs } }

/-- The state `ingest` evaluates: a regressed arrival blinds the monitor, any other is
noted and classified. -/
def ingestState (platform : Platform) (received : ReceivedPulseV1) (atMs : Nat)
    (evaluator : Evaluator) : Evaluator :=
  let timed := evaluator.recordLatency received atMs
  if evaluator.arrivalRegressed received then
    timed.blindWith "receiver monotonic arrival regressed within one clock generation" atMs
  else
    ({ timed with
      lastReceiverArrivalMs := some (evaluator.lastReceiverArrivalMs.elim
        received.receiver.arrivalMonotonicMs fun prior =>
          max prior received.receiver.arrivalMonotonicMs) } : Evaluator).ingestClassified
      platform received atMs

/-- `Evaluator::ingest`. -/
def ingest (platform : Platform) (received : ReceivedPulseV1) (atMs : Nat)
    (evaluator : Evaluator) : Except EvaluatorError (EvaluationOutput × Evaluator) := do
  (received.validate platform.sha256).mapError fun error =>
    ⟨"invalid_pulse", pulseErrorText error⟩
  evaluator.validateBinding received
  refuseIf (decide (atMs < received.receiver.arrivalMonotonicMs))
    ⟨"evaluation_before_arrival", "evaluation time precedes receiver-observed arrival"⟩
  return (evaluator.ingestState platform received atMs).evaluateSince platform atMs
    evaluator.eventLog.length

/-! ## Monitor capability -/

/-- Evaluate with an event put in front of what the evaluation logged. -/
def evaluateAfter (platform : Platform) (atMs : Nat)
    (logged : SparseDurableEventV1 × Evaluator) : EvaluationOutput × Evaluator :=
  let (output, next) := logged.2.evaluate platform atMs
  ({ output with sparseEvents := logged.1 :: output.sparseEvents }, next)

/-- The label and detail `set_monitor_capability` logs. -/
def capabilityText : MonitorCapabilityV1 → Text × Text
  | .operational => ("operational", "monitor observation capability restored")
  | .degraded detail => ("degraded", detail)
  | .blind detail => ("blind", detail)

/-- `Evaluator::set_monitor_capability`. -/
def setMonitorCapability (platform : Platform) (state : MonitorCapabilityV1) (atMs : Nat)
    (evaluator : Evaluator) : EvaluationOutput × Evaluator :=
  evaluateAfter platform atMs
    (({ evaluator with monitorCapability := state } : Evaluator).monitorEvent atMs
      (capabilityText state).1 (capabilityText state).2)

/-- `Evaluator::record_monitor_input_drop`. -/
def recordMonitorInputDrop (platform : Platform) (count atMs : Nat) (detail : Text)
    (evaluator : Evaluator) : EvaluationOutput × Evaluator :=
  ({ evaluator with
    metrics :=
      { evaluator.metrics with
        monitorInputDropCount := satAdd evaluator.metrics.monitorInputDropCount count } } :
    Evaluator).setMonitorCapability platform (.blind detail) atMs

/-- `Evaluator::restore_monitor_capability`. -/
def restoreMonitorCapability (platform : Platform) (atMs : Nat) (detail : Text)
    (evaluator : Evaluator) : EvaluationOutput × Evaluator :=
  let (event, logged) :=
    ({ evaluator with monitorCapability := .operational } : Evaluator).monitorEvent atMs
      "operational" detail
  evaluateAfter platform atMs
    (event,
      { logged with
        reevaluationBarrier := some (.monitorCapabilityRestored
          ("monitor capability was explicitly restored (" ++ detail ++
            "); a separate evaluation is required")) })

/-! ## Contradiction resolution -/

/-- `ContradictionResolutionV1`. -/
structure ContradictionResolutionV1 where
  resolver : Text
  rule : Text
  explanation : Text

/-- A record closed by a resolution. -/
def resolveRecord (resolution : ContradictionResolutionV1) (atMs : Nat)
    (record : ContradictionRecordV1) : ContradictionRecordV1 :=
  { record with
    status := .resolved resolution.resolver atMs resolution.rule resolution.explanation }

/-- `Evaluator::resolve_contradiction`. -/
def resolveContradiction (platform : Platform) (contradictionId : ContradictionId)
    (resolution : ContradictionResolutionV1) (atMs : Nat) (evaluator : Evaluator) :
    Except EvaluatorError (EvaluationOutput × Evaluator) := do
  refuseIf (resolution.resolver.isEmpty || resolution.rule.isEmpty ||
      resolution.explanation.isEmpty)
    ⟨"invalid_resolution", "resolution identity, rule, and explanation are required"⟩
  match evaluator.contradictions[contradictionId]? with
  | none => .error ⟨"unknown_contradiction", "contradiction does not exist"⟩
  | some record => do
    refuseIf (!record.isActive)
      ⟨"contradiction_not_active", "only an active contradiction can be resolved"⟩
    let changed := resolveRecord resolution atMs record
    return evaluateAfter platform atMs
      (({ evaluator with
        contradictions := evaluator.contradictions.insert contradictionId changed } :
        Evaluator).sparseEvent atMs (.contradictionLifecycleChanged changed))

/-! ## Dispositions and receipts -/

/-- The escalation state a disposition leads to. -/
def dispositionState (disposition : EscalationDispositionV1) : EscalationStateV1 :=
  match disposition.kind with
  | .accept _ => .accepted disposition.requestId.text
  | .refuse _ detail => .refused disposition.requestId.text detail
  | .narrow _ _ _ => .narrowed disposition.requestId.text
  | .defer _ _ => .deferred disposition.requestId.text

/-- `Evaluator::record_escalation_disposition`. -/
def recordEscalationDisposition (platform : Platform) (disposition : EscalationDispositionV1)
    (atMs : Nat) (evaluator : Evaluator) :
    Except EvaluatorError (EvaluationOutput × Evaluator) := do
  refuseIf (decide (disposition.schemaVersion ≠ schemaVersionV1) ||
      disposition.bridgeId.text.isEmpty || decide (disposition.clockId ≠ evaluator.clockId))
    ⟨"invalid_disposition", "disposition schema, bridge, or clock binding is invalid"⟩
  refuseIf (!evaluator.issuedRequests.contains disposition.requestId)
    ⟨"unknown_request", "disposition references an unknown request"⟩
  refuseIf (decide (atMs < disposition.decidedAtMonotonicMs))
    ⟨"evaluation_before_disposition",
      "evaluation time precedes the bridge disposition occurrence"⟩
  return evaluateAfter platform atMs
    (({ evaluator with escalationState := dispositionState disposition } :
      Evaluator).sparseEvent disposition.decidedAtMonotonicMs
        (.escalationDisposition disposition))

/-- The binding test of `record_diagnostic_receipt`. -/
def receiptBindsRequest (evaluator : Evaluator) (receipt : MockDiagnosticReceiptV1)
    (request : DiagnosticEscalationRequestV1) (atMs : Nat) : Bool :=
  decide (receipt.schemaVersion = schemaVersionV1) &&
    decide (receipt.requestId = request.requestId) &&
    decide (receipt.causalTransitionId = request.causalTransitionId) &&
    decide (receipt.deduplicationKey = request.deduplicationKey) &&
    decide (receipt.evidenceWindowDigest = request.evidenceWindowDigest) &&
    decide (receipt.subjectScope = request.subjectScope) &&
    decide (receipt.consumer = request.consumer) &&
    decide (receipt.policyGeneration = request.policyGeneration) &&
    decide (receipt.observationPolicyGeneration = request.observationPolicyGeneration) &&
    decide (receipt.diagnosticProfile = request.diagnosticProfile) &&
    decide (receipt.clockId = evaluator.clockId) &&
    !decide (receipt.completedAtMonotonicMs < receipt.startedAtMonotonicMs) &&
    !decide (atMs < receipt.completedAtMonotonicMs)

/-- `Evaluator::record_diagnostic_receipt`. -/
def recordDiagnosticReceipt (platform : Platform) (receipt : MockDiagnosticReceiptV1)
    (atMs : Nat) (evaluator : Evaluator) :
    Except EvaluatorError (EvaluationOutput × Evaluator) :=
  match evaluator.issuedRequests[receipt.requestId]? with
  | none => .error ⟨"unknown_request", "receipt references an unknown request"⟩
  | some request => do
    refuseIf (!evaluator.receiptBindsRequest receipt request atMs)
      ⟨"receipt_binding_mismatch", "diagnostic receipt does not exactly bind its request"⟩
    let reference : DiagnosticEvidenceReferenceV1 :=
      { receiptId := receipt.receiptId
        resultDigest := receipt.resultDigest
        recordedAtMonotonicMs := atMs
        applicableUntilMonotonicMs := receipt.applicableUntilMonotonicMs
        nonclaims := receipt.nonclaims }
    return evaluateAfter platform atMs
      (({ evaluator with
        diagnosticEvidence := evaluator.diagnosticEvidence ++ [reference]
        escalationState := .completed receipt.requestId.text receipt.receiptId } :
        Evaluator).sparseEvent atMs (.diagnosticReceiptCorrelated receipt reference))

end Evaluator

/-! ## Calls -/

/-- The evaluator operations the runtime invokes, with their arguments but the time. -/
inductive EvaluatorCall where
  /-- `tick` -/
  | tick
  /-- `ingest` -/
  | ingest (received : ReceivedPulseV1)
  /-- `install_reevaluation_barrier` -/
  | barrier (barrier : ReevaluationBarrierV1)
  /-- `replace_policy` -/
  | replacePolicy (policy : ReliancePolicyV1) (barrier : ReevaluationBarrierV1)
  /-- `replace_subject_incarnation` -/
  | replaceSubject (replacement : IncarnationId)
  /-- `record_escalation_disposition` -/
  | disposition (disposition : EscalationDispositionV1)
  /-- `record_diagnostic_receipt` -/
  | receipt (receipt : MockDiagnosticReceiptV1)
  /-- `restore_monitor_capability` -/
  | restore (detail : Text)
  /-- `record_monitor_input_drop` -/
  | inputDrop (count : Nat) (detail : Text)

/-- Perform a call at a time. -/
def Evaluator.perform (platform : Platform) (call : EvaluatorCall) (atMs : Nat)
    (evaluator : Evaluator) : Except EvaluatorError (EvaluationOutput × Evaluator) :=
  match call with
  | .tick => .ok (evaluator.evaluate platform atMs)
  | .ingest received => evaluator.ingest platform received atMs
  | .barrier barrier => .ok (evaluator.installReevaluationBarrier platform barrier atMs)
  | .replacePolicy policy barrier => evaluator.replacePolicy platform policy barrier atMs
  | .replaceSubject replacement => evaluator.replaceSubjectIncarnation platform replacement atMs
  | .disposition disposition => evaluator.recordEscalationDisposition platform disposition atMs
  | .receipt receipt => evaluator.recordDiagnosticReceipt platform receipt atMs
  | .restore detail => .ok (evaluator.restoreMonitorCapability platform atMs detail)
  | .inputDrop count detail => .ok (evaluator.recordMonitorInputDrop platform count atMs detail)

end ConstellationMonitor.Evaluation

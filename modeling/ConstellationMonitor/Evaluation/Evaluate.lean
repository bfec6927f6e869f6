/-
  One evaluation (`Evaluator::evaluate` of `pulse-evaluator/src/evaluator.rs`): clock
  guard, expiry of hot records, derivation, transition, metrics and escalation.

  The source method returns a `Result` but has no failing path, so it is a total
  function here.
-/
import ConstellationMonitor.Evaluation.Explain

namespace ConstellationMonitor.Evaluation

open Foundation ConstellationMonitor.Types

namespace Evaluator

/-! ## Clock guard and expiry -/

/-- The clock guard of `evaluate`: a requested time before the last evaluation blinds
the monitor and evaluates at the last time again. -/
def guardClock (requestedNow : Nat) (evaluator : Evaluator) : Nat × Evaluator :=
  match evaluator.lastEvaluationMs with
  | none => (requestedNow, evaluator)
  | some prior =>
    if requestedNow < prior then
      let detail : Text :=
        "evaluation monotonic time regressed from " ++ Text.decimal prior ++ "ms to " ++
          Text.decimal requestedNow ++ "ms within one clock generation"
      (prior,
        (({ evaluator with monitorCapability := .blind detail } : Evaluator).monitorEvent
          prior "blind" detail).2)
    else (requestedNow, evaluator)

/-- Record the evaluation time and drop what has expired by it. -/
def expireRecords (now : Nat) (evaluator : Evaluator) : Evaluator :=
  { evaluator with
    lastEvaluationMs := some now
    activeEscalations := evaluator.activeEscalations.filter fun _ active =>
      decide (now < active.expiresAtMs)
    diagnosticEvidence := evaluator.diagnosticEvidence.filter fun evidence =>
      decide (now < evidence.applicableUntilMonotonicMs) }

/-! ## Judgment -/

/-- `derive`, with the category withheld while a barrier stands. -/
def deriveBarred (evaluator : Evaluator) (now : Nat) : DerivedState :=
  let derived := evaluator.derive now
  if evaluator.reevaluationBarrier.isSome then
    { derived with category := .unknown, supportDeadlineMs := none }
  else derived

/-- `Evaluator::evidence_window_id`. -/
def evidenceWindowId (platform : Platform) (now : Nat) (evaluator : Evaluator) :
    EvidenceWindowId :=
  let digest := digestParts platform.sha256 "evidence.window.v1" <|
    [ evaluator.policy.subject.text.bytes,
      evaluator.currentSubjectIncarnation.text.bytes,
      evaluator.policy.consumer.text.bytes,
      evaluator.policy.generation.text.bytes,
      evaluator.clockId.text.bytes,
      beBytes 8 now,
      (monitorStateName evaluator.monitorCapability).bytes ] ++
    (evaluator.observers.values.flatMap fun evidence =>
      [ evidence.received.frame.observer.text.bytes,
        evidence.received.frame.observerIncarnation.text.bytes,
        beBytes 8 evidence.received.frame.sequence,
        evidence.received.frame.observationDigest.text.bytes,
        beBytes 8 evidence.expiresAtMs ]) ++
    (evaluator.activeContradictionIds.map fun id => id.text.bytes) ++
    (evaluator.diagnosticEvidence.flatMap fun evidence =>
      [ evidence.receiptId.text.bytes,
        evidence.resultDigest.text.bytes,
        beBytes 8 evidence.applicableUntilMonotonicMs ])
  ⟨digest.text⟩

/-- The judgment `evaluate` forms from what it derived. -/
def judgmentOf (platform : Platform) (now : Nat) (derived : DerivedState)
    (evaluator : Evaluator) : PresentStateJudgmentV1 where
  schemaVersion := schemaVersionV1
  subjectScope := evaluator.subjectScope
  consumer := evaluator.policy.consumer
  policyGeneration := evaluator.policy.generation
  coverage := derived.coverage
  evaluatedAtMonotonicMs := now
  positiveSupportExpiresAtMonotonicMs := derived.supportDeadlineMs
  receiverClockId := evaluator.clockId.text
  evidenceWindowId := evaluator.evidenceWindowId platform now
  category := derived.category
  dimensions := derived.dimensions
  explanation := explanationFor derived evaluator.monitorCapability
    evaluator.diagnosticEvidence.length evaluator.reevaluationBarrier
  escalation := evaluator.escalationState
  mutationAuthority := .none

/-! ## Transitions and metrics -/

/-- An identity made from a digest without its algorithm start. -/
def digestIdentity {kind : IdentityKind} (start : Text) (digest : DigestV1) : Identity kind :=
  ⟨start ++ Text.trimStartMatches "sha256:" digest.text⟩

/-- `Evaluator::build_transition`. -/
def buildTransition (platform : Platform) (judgment : PresentStateJudgmentV1) (now : Nat)
    (evaluator : Evaluator) : JudgmentTransitionV1 × Evaluator :=
  let counter := satAdd evaluator.transitionCounter 1
  let digest := digestParts platform.sha256 "judgment.transition.v1"
    [ evaluator.policy.subject.text.bytes,
      evaluator.policy.consumer.text.bytes,
      evaluator.policy.generation.text.bytes,
      beBytes 8 counter,
      beBytes 8 now,
      judgment.evidenceWindowId.text.bytes ]
  ({ schemaVersion := schemaVersionV1
     transitionId := digestIdentity "transition:" digest
     subjectScope := judgment.subjectScope
     consumer := judgment.consumer
     policyGeneration := judgment.policyGeneration
     atMonotonicMs := now
     fromCategory := evaluator.lastJudgment.map PresentStateJudgmentV1.category
     toCategory := judgment.category
     priorEvidenceWindow := evaluator.lastJudgment.map PresentStateJudgmentV1.evidenceWindowId
     evidenceWindow := judgment.evidenceWindowId
     reasonCodes := judgment.explanation.reasons.map JudgmentReasonV1.code },
   { evaluator with transitionCounter := counter })

/-- The transition part of `evaluate`: a semantic change is built and logged. -/
def recordTransition (platform : Platform) (judgment : PresentStateJudgmentV1) (now : Nat)
    (evaluator : Evaluator) : Option JudgmentTransitionV1 × Evaluator :=
  if evaluator.lastJudgment.all fun prior => judgmentSemanticallyChanged prior judgment then
    let (transition, built) := evaluator.buildTransition platform judgment now
    (some transition, (built.sparseEvent now (.judgmentTransition transition)).2)
  else (none, evaluator)

/-- `Evaluator::update_failure_metrics`. -/
def updateFailureMetrics (category : JudgmentCategoryV1) (now : Nat) (evaluator : Evaluator) :
    Evaluator :=
  match evaluator.faultStartedAtMs with
  | none => evaluator
  | some start =>
    let latency := now - start
    let metrics := evaluator.metrics
    { evaluator with
      metrics :=
        { metrics with
          failureToUnknownLatencyMs :=
            if category = .unknown ∧ metrics.failureToUnknownLatencyMs.isNone then
              some latency
            else metrics.failureToUnknownLatencyMs
          failureToContradictedLatencyMs :=
            if category = .contradicted ∧ metrics.failureToContradictedLatencyMs.isNone then
              some latency
            else metrics.failureToContradictedLatencyMs } }

/-- `Evaluator::update_stale_positive_metric`. -/
def updateStalePositiveMetric (category : JudgmentCategoryV1) (now : Nat)
    (supportDeadlineMs : Option Nat) (evaluator : Evaluator) : Evaluator :=
  let wasCurrent := evaluator.lastJudgment.any fun prior => decide (prior.category = .current)
  if category = .current then
    { evaluator with lastPositiveSupportDeadlineMs := supportDeadlineMs }
  else if wasCurrent then
    let overshoot := evaluator.lastPositiveSupportDeadlineMs.elim 0 fun deadline => now - deadline
    { evaluator with
      metrics :=
        { evaluator.metrics with
          maximumStalePositiveDurationMs :=
            max evaluator.metrics.maximumStalePositiveDurationMs overshoot }
      lastPositiveSupportDeadlineMs := none }
  else evaluator

/-! ## Escalation -/

/-- The request `maybe_escalate` drafts, before it has an identity. -/
def draftRequest (platform : Platform) (transition : JudgmentTransitionV1)
    (judgment : PresentStateJudgmentV1) (now : Nat) (escalation : EscalationPolicyV1)
    (evaluator : Evaluator) : DiagnosticEscalationRequestV1 :=
  let request : DiagnosticEscalationRequestV1 :=
    { schemaVersion := schemaVersionV1
      requestId := "pending"
      subjectScope := judgment.subjectScope
      consumer := evaluator.policy.consumer
      triggerClass := selectTrigger judgment
      evidenceWindowDigest := ⟨judgment.evidenceWindowId.text⟩
      policyGeneration := evaluator.policy.generation
      observationPolicyGeneration := evaluator.policy.observationPolicyGeneration
      diagnosticProfile := escalation.diagnosticProfile
      bounds := escalation.bounds
      clockId := evaluator.clockId
      createdAtMonotonicMs := now
      expiresAtMonotonicMs := satAdd now escalation.requestTtlMs
      deduplicationKey := digestParts platform.sha256 "pending" []
      causalTransitionId := transition.transitionId
      nonclaims := escalationNonclaims }
  { request with deduplicationKey := request.computeDeduplicationKey platform.sha256 }

/-- The identity of the evaluator's next request. -/
def nextRequestId (counter : Nat) : EscalationRequestId :=
  ⟨"escalation:" ++ Text.paddedHex 16 counter⟩

/-- Registering a request that passed its validation: it becomes active and issued. -/
def registerRequest (request : DiagnosticEscalationRequestV1) (now : Nat)
    (evaluator : Evaluator) : Evaluator :=
  let metrics := evaluator.metrics
  let registered : Evaluator :=
    { evaluator with
      activeEscalations := evaluator.activeEscalations.insert request.deduplicationKey
        ⟨request.requestId, request.expiresAtMonotonicMs⟩
      issuedRequests := evaluator.issuedRequests.insert request.requestId request
      escalationState := .requested request.requestId.text
      metrics :=
        { metrics with
          falseEscalationCount :=
            if evaluator.normalTrace then satAdd metrics.falseEscalationCount 1
            else metrics.falseEscalationCount
          failureToEscalationLatencyMs :=
            match evaluator.faultStartedAtMs with
            | some start =>
              if metrics.failureToEscalationLatencyMs.isNone then some (now - start)
              else metrics.failureToEscalationLatencyMs
            | none => metrics.failureToEscalationLatencyMs } }
  (registered.sparseEvent now (.escalationRequested request)).2

/-- A draft whose deduplication key is already active only points at that request. -/
def deduplicateRequest (key : DigestV1) (active : ActiveEscalation) (now : Nat)
    (evaluator : Evaluator) : Evaluator :=
  let metrics := evaluator.metrics
  let noted : Evaluator :=
    { evaluator with
      metrics :=
        { metrics with
          escalationDeduplicationCount := satAdd metrics.escalationDeduplicationCount 1 }
      escalationState := .requested active.requestId.text }
  (noted.sparseEvent now (.escalationDeduplicated key active.requestId)).2

/-- Issue a draft: deduplicate it, or give it the next identity and register it if it is
valid.  The counter advances even when validation then refuses the request. -/
def issueRequest (platform : Platform) (draft : DiagnosticEscalationRequestV1) (now : Nat)
    (evaluator : Evaluator) : Option DiagnosticEscalationRequestV1 × Evaluator :=
  match evaluator.activeEscalations[draft.deduplicationKey]? with
  | some active => (none, evaluator.deduplicateRequest draft.deduplicationKey active now)
  | none =>
    let counter := satAdd evaluator.requestCounter 1
    let counted : Evaluator := { evaluator with requestCounter := counter }
    let request := { draft with requestId := nextRequestId counter }
    match request.validate platform.sha256 with
    | .error _ => (none, counted)
    | .ok _ => (some request, counted.registerRequest request now)

/-- `Evaluator::maybe_escalate`. -/
def maybeEscalate (platform : Platform) (transition : JudgmentTransitionV1)
    (judgment : PresentStateJudgmentV1) (now : Nat) (evaluator : Evaluator) :
    Option DiagnosticEscalationRequestV1 × Evaluator :=
  if transition.fromCategory ≠ some .current ∨ transition.toCategory = .current then
    (none, evaluator)
  else
    match evaluator.policy.escalation with
    | none => (none, evaluator)
    | some escalation =>
      if escalation.triggers.contains (selectTrigger judgment) then
        evaluator.issueRequest platform
          (evaluator.draftRequest platform transition judgment now escalation) now
      else (none, evaluator)

/-! ## Evaluation -/

/-- The metrics part of `evaluate`. -/
def recordCoverage (coverage : CoverageSummaryV1) (evaluator : Evaluator) : Evaluator :=
  { evaluator with
    metrics :=
      { evaluator.metrics with
        activeCoverage := countU32 coverage.active.length
        expiredCoverage := countU32 coverage.expired.length } }

/-- The escalation part of `evaluate`: none while a barrier stands. -/
def escalateUnlessBarred (platform : Platform) (transition : Option JudgmentTransitionV1)
    (judgment : PresentStateJudgmentV1) (now : Nat) (evaluator : Evaluator) :
    Option DiagnosticEscalationRequestV1 × Evaluator :=
  match evaluator.reevaluationBarrier, transition with
  | none, some transition => evaluator.maybeEscalate platform transition judgment now
  | _, _ => (none, evaluator)

/-- `Evaluator::evaluate`. -/
def evaluate (platform : Platform) (requestedNow : Nat) (evaluator : Evaluator) :
    EvaluationOutput × Evaluator :=
  let start := evaluator.eventLog.length
  let (now, guarded) := evaluator.guardClock requestedNow
  let expired := guarded.expireRecords now
  let derived := expired.deriveBarred now
  let judgment := expired.judgmentOf platform now derived
  let (transition, recorded) :=
    (expired.recordCoverage derived.coverage).recordTransition platform judgment now
  let measured := (recorded.updateFailureMetrics judgment.category now).updateStalePositiveMetric
    judgment.category now derived.supportDeadlineMs
  let (request, escalated) := measured.escalateUnlessBarred platform transition judgment now
  let final := { judgment with escalation := escalated.escalationState }
  ({ judgment := final
     transition := transition
     escalationRequest := request
     sparseEvents := escalated.eventLog.drop start },
   { escalated with lastJudgment := some final, reevaluationBarrier := none })

/-- `Evaluator::evaluate_since`. -/
def evaluateSince (platform : Platform) (now start : Nat) (evaluator : Evaluator) :
    EvaluationOutput × Evaluator :=
  let (output, next) := evaluator.evaluate platform now
  ({ output with sparseEvents := next.eventLog.drop start }, next)

end Evaluator

end ConstellationMonitor.Evaluation

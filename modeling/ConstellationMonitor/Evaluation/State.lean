/-
  The in-memory state of one consumer's evaluator and the facts it derives from hot
  evidence (`pulse-evaluator/src/evaluator.rs`).
-/
import ConstellationMonitor.Evaluation.Policy
import ConstellationMonitor.Evaluation.Receiver
import ConstellationMonitor.Types.Records

namespace ConstellationMonitor.Evaluation

open Foundation ConstellationMonitor.Types
open Std (ExtTreeMap ExtTreeSet)

/-- `EvaluatorError`. -/
structure EvaluatorError where
  code : Text
  detail : Text
  deriving DecidableEq

/-- `MonitorCapabilityV1`. -/
inductive MonitorCapabilityV1 where
  | operational
  | degraded (detail : Text)
  | blind (detail : Text)
  deriving DecidableEq

/-- `monitor_state_name`. -/
def monitorStateName : MonitorCapabilityV1 → Text
  | .operational => "operational"
  | .degraded _ => "degraded"
  | .blind _ => "blind"

/-- `ReevaluationBarrierV1`: why the next evaluation may not be CURRENT. -/
inductive ReevaluationBarrierV1 where
  | generationTransition (detail : Text)
  | qualifiedGenerationBinding (detail : Text)
  | subjectIncarnationTransition (detail : Text)
  | receiverRestart (detail : Text)
  | monitorCapabilityRestored (detail : Text)

namespace ReevaluationBarrierV1

/-- `ReevaluationBarrierV1::code`. -/
def code : ReevaluationBarrierV1 → Text
  | .generationTransition _ => "generation_transition_requires_reevaluation"
  | .qualifiedGenerationBinding _ => "qualified_generation_binding_requires_reevaluation"
  | .subjectIncarnationTransition _ => "subject_incarnation_transition_requires_reevaluation"
  | .receiverRestart _ => "receiver_restart_requires_reevaluation"
  | .monitorCapabilityRestored _ => "monitor_capability_restored_requires_reevaluation"

/-- `ReevaluationBarrierV1::detail`. -/
def detail : ReevaluationBarrierV1 → Text
  | .generationTransition detail => detail
  | .qualifiedGenerationBinding detail => detail
  | .subjectIncarnationTransition detail => detail
  | .receiverRestart detail => detail
  | .monitorCapabilityRestored detail => detail

end ReevaluationBarrierV1

/-- `ObserverEvidence`: the pulse an observer is currently represented by. -/
structure ObserverEvidence where
  received : ReceivedPulseV1
  expiresAtMs : Nat
  continuity : SequenceContinuityDimensionV1

/-- `ActiveEscalation`. -/
structure ActiveEscalation where
  requestId : EscalationRequestId
  expiresAtMs : Nat

/-- `EvaluationOutput`. -/
structure EvaluationOutput where
  judgment : PresentStateJudgmentV1
  transition : Option JudgmentTransitionV1
  escalationRequest : Option DiagnosticEscalationRequestV1
  sparseEvents : List SparseDurableEventV1

/-- `Evaluator`: one policy and one consumer. -/
structure Evaluator where
  policy : ReliancePolicyV1
  receiver : ReceiverId
  receiverIncarnation : IncarnationId
  clockId : ClockId
  currentSubjectIncarnation : IncarnationId
  retiredSubjectIncarnations : ExtTreeSet IncarnationId
  observerLineages : ExtTreeMap ObserverId Lineage
  retiredObserverIncarnations : ExtTreeSet (ObserverId × IncarnationId)
  observers : ExtTreeMap ObserverId ObserverEvidence
  contradictions : ExtTreeMap ContradictionId ContradictionRecordV1
  diagnosticEvidence : List DiagnosticEvidenceReferenceV1
  issuedRequests : ExtTreeMap EscalationRequestId DiagnosticEscalationRequestV1
  activeEscalations : ExtTreeMap DigestV1 ActiveEscalation
  monitorCapability : MonitorCapabilityV1
  escalationState : EscalationStateV1
  reevaluationBarrier : Option ReevaluationBarrierV1
  lastJudgment : Option PresentStateJudgmentV1
  lastPositiveSupportDeadlineMs : Option Nat
  lastReceiverArrivalMs : Option Nat
  lastEvaluationMs : Option Nat
  transitionCounter : Nat
  requestCounter : Nat
  eventCounter : Nat
  metrics : ExperimentalMetricsV1
  faultStartedAtMs : Option Nat
  normalTrace : Bool
  eventLog : List SparseDurableEventV1

/-- `evidence_ref`: the name certificates and contradictions give a pulse. -/
def evidenceRef (frame : PulseFrameV1) : Text :=
  frame.observer.text ++ "/" ++ frame.observerIncarnation.text ++ "/seq=" ++
    Text.decimal frame.sequence ++ "/" ++ frame.observationDigest.text

/-- `failure_domain`. -/
def failureDomain (observer : ObserverId) (declared : ExtTreeMap Text Text) : Text :=
  declared[observer.text]?.getD ("observer:" ++ observer.text)

/-- `unique_domains`. -/
def uniqueDomains (evidence : List ObserverEvidence) (declared : ExtTreeMap Text Text) :
    ExtTreeSet Text :=
  .ofList (evidence.map fun item => failureDomain item.received.frame.observer declared)

/-- The evidence whose coverage carries a tag.  Observed tags are sorted, so the binary
search of the source finds a tag exactly when it is listed. -/
def coveringTag (evidence : List ObserverEvidence) (tag : Text) : List ObserverEvidence :=
  evidence.filter fun item => item.received.frame.coverage.observed.contains tag

/-- `domain_count_for_tag`. -/
def domainCountForTag (evidence : List ObserverEvidence) (tag : Text)
    (declared : ExtTreeMap Text Text) : Nat :=
  (uniqueDomains (coveringTag evidence tag) declared).size

/-- Whether an authentication result is a failure. -/
def authenticationFailed : AuthenticationResultV1 → Bool
  | .failed _ => true
  | _ => false

/-- Whether an authentication result is a verification. -/
def authenticationVerified : AuthenticationResultV1 → Bool
  | .verified _ _ => true
  | _ => false

/-- `provenance_dimension`. -/
def provenanceDimension (evidence : List ObserverEvidence) : ProvenanceDimensionV1 :=
  if evidence.isEmpty then .unknown
  else if evidence.any fun item => authenticationFailed item.received.receiver.authentication then
    .failed
  else if evidence.all fun item => authenticationVerified item.received.receiver.authentication then
    .verified
  else .degraded

namespace Evaluator

/-- `Evaluator::subject_scope`. -/
def subjectScope (evaluator : Evaluator) : SubjectScopeV1 where
  subject := evaluator.policy.subject
  subjectIncarnation := evaluator.currentSubjectIncarnation
  scope := evaluator.policy.scope

/-- `Evaluator::received_provenance_is_eligible`. -/
def receivedProvenanceIsEligible (evaluator : Evaluator) (received : ReceivedPulseV1) : Bool :=
  if evaluator.policy.requireVerifiedAuthentication then
    authenticationVerified received.receiver.authentication
  else !authenticationFailed received.receiver.authentication

/-- `Evaluator::provenance_is_eligible`. -/
def provenanceIsEligible (evaluator : Evaluator) (evidence : ObserverEvidence) : Bool :=
  evaluator.receivedProvenanceIsEligible evidence.received

/-- `Evaluator::active_contradiction_ids`. -/
def activeContradictionIds (evaluator : Evaluator) : List ContradictionId :=
  (evaluator.contradictions.values.filter ContradictionRecordV1.isActive).map
    ContradictionRecordV1.contradictionId

/-- Evidence about the incarnation the evaluator takes the subject to be in. -/
def relevantEvidence (evaluator : Evaluator) : List ObserverEvidence :=
  evaluator.observers.values.filter fun evidence =>
    decide (evidence.received.frame.subjectIncarnation = evaluator.currentSubjectIncarnation)

/-- Relevant evidence that has not expired and whose provenance the policy admits. -/
def eligibleFresh (evaluator : Evaluator) (now : Nat) : List ObserverEvidence :=
  evaluator.relevantEvidence.filter fun evidence =>
    decide (now < evidence.expiresAtMs) && evaluator.provenanceIsEligible evidence

/-- `Evaluator::supporting_evidence_refs`. -/
def supportingEvidenceRefs (evaluator : Evaluator) (now : Nat) : List Text :=
  (evaluator.eligibleFresh now).map fun evidence => evidenceRef evidence.received.frame

/-- `Evaluator::sparse_event`. -/
def sparseEvent (atMs : Nat) (event : SparseDurableEventKindV1) (evaluator : Evaluator) :
    SparseDurableEventV1 × Evaluator :=
  let counter := satAdd evaluator.eventCounter 1
  let item : SparseDurableEventV1 :=
    { schemaVersion := schemaVersionV1
      eventId := ⟨"event:" ++ Text.paddedHex 16 counter⟩
      atMonotonicMs := atMs
      event := event }
  (item, { evaluator with eventCounter := counter, eventLog := evaluator.eventLog ++ [item] })

/-- `Evaluator::monitor_event`. -/
def monitorEvent (atMs : Nat) (state detail : Text) (evaluator : Evaluator) :
    SparseDurableEventV1 × Evaluator :=
  evaluator.sparseEvent atMs (.monitorCapabilityChanged state detail)

end Evaluator

end ConstellationMonitor.Evaluation

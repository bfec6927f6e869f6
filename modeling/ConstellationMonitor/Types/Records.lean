/-
  Runtime refusals, context transitions, contradiction custody, metrics, sparse durable
  events and the historical state that survives a restart
  (`pulse-types/src/runtime.rs`, `event.rs`).
-/
import ConstellationMonitor.Types.Certificate

namespace ConstellationMonitor.Types

open Foundation

/-- `GenerationTransitionCauseV1`. -/
inductive GenerationTransitionCauseV1 where
  | initialActivation
  | reliancePolicyChanged
  | consumerProfileChanged
  | evaluatorSemanticsChanged
  | observerSetChanged
  | observationPolicyChanged
  | equivalentBodyNewGeneration
  | policyRollback
  | abaReactivation
  | subjectIncarnationChanged
  | receiverRestarted
  deriving DecidableEq

/-- The variant name, as the derived `Debug` prints it. -/
def GenerationTransitionCauseV1.debug : GenerationTransitionCauseV1 → Text
  | .initialActivation => "InitialActivation"
  | .reliancePolicyChanged => "ReliancePolicyChanged"
  | .consumerProfileChanged => "ConsumerProfileChanged"
  | .evaluatorSemanticsChanged => "EvaluatorSemanticsChanged"
  | .observerSetChanged => "ObserverSetChanged"
  | .observationPolicyChanged => "ObservationPolicyChanged"
  | .equivalentBodyNewGeneration => "EquivalentBodyNewGeneration"
  | .policyRollback => "PolicyRollback"
  | .abaReactivation => "AbaReactivation"
  | .subjectIncarnationChanged => "SubjectIncarnationChanged"
  | .receiverRestarted => "ReceiverRestarted"

/-- `RelianceContextTransitionV1`. -/
structure RelianceContextTransitionV1 where
  schemaVersion : Nat
  subjectScope : SubjectScopeV1
  consumer : ConsumerId
  priorContext : Option RelianceContextV1
  newContext : RelianceContextV1
  cause : GenerationTransitionCauseV1
  atMonotonicMs : Nat
  standingInherited : Bool
  deriving DecidableEq

/-! ## Refusals -/

/-- `RuntimeRefusalClassV1`. -/
inductive RuntimeRefusalClassV1 where
  | subjectCapacity
  | consumerCapacity
  | observerCapacity
  | receiverStreamCapacity
  | incarnationHistoryCapacity
  | pendingQueueCapacity
  | scheduledDeadlineCapacity
  | contextHistoryCapacity
  | escalationCapacity
  | certificateCapacity
  | sparseHistoryCapacity
  | receiptHistoryCapacity
  | clockRegression
  | invalidBinding
  | reusedActivation
  | historicalStateInvalid
  | runtimeBlind
  deriving DecidableEq

/-- The variant name, as the derived `Debug` prints it. -/
def RuntimeRefusalClassV1.debug : RuntimeRefusalClassV1 → Text
  | .subjectCapacity => "SubjectCapacity"
  | .consumerCapacity => "ConsumerCapacity"
  | .observerCapacity => "ObserverCapacity"
  | .receiverStreamCapacity => "ReceiverStreamCapacity"
  | .incarnationHistoryCapacity => "IncarnationHistoryCapacity"
  | .pendingQueueCapacity => "PendingQueueCapacity"
  | .scheduledDeadlineCapacity => "ScheduledDeadlineCapacity"
  | .contextHistoryCapacity => "ContextHistoryCapacity"
  | .escalationCapacity => "EscalationCapacity"
  | .certificateCapacity => "CertificateCapacity"
  | .sparseHistoryCapacity => "SparseHistoryCapacity"
  | .receiptHistoryCapacity => "ReceiptHistoryCapacity"
  | .clockRegression => "ClockRegression"
  | .invalidBinding => "InvalidBinding"
  | .reusedActivation => "ReusedActivation"
  | .historicalStateInvalid => "HistoricalStateInvalid"
  | .runtimeBlind => "RuntimeBlind"

/-- `RuntimeRefusalV1`. -/
structure RuntimeRefusalV1 where
  schemaVersion : Nat
  refusalId : RuntimeRefusalId
  refusalClass : RuntimeRefusalClassV1
  atMonotonicMs : Nat
  subject : Option SubjectId
  consumer : Option ConsumerId
  configuredBound : Nat
  observedCount : Nat
  detail : Text
  currentPreserved : Bool
  mutationAuthority : MutationAuthorityV1
  deriving DecidableEq

/-! ## Contradiction custody and metrics -/

/-- `ContradictionApplicabilityV1`. -/
inductive ContradictionApplicabilityV1 where
  | applicable (subjectIncarnation : IncarnationId) (blocksReliance : Bool)
  | inapplicableBySubjectReplacement (priorSubjectIncarnation : IncarnationId)
      (replacementSubjectIncarnation : IncarnationId) (atMonotonicMs : Nat) (rule : Text)
  deriving DecidableEq

/-- `ContradictionCustodyV1`. -/
structure ContradictionCustodyV1 where
  schemaVersion : Nat
  consumer : ConsumerId
  contradiction : ContradictionRecordV1
  applicability : ContradictionApplicabilityV1
  deriving DecidableEq

/-- `RuntimeMetricsV1`, with the defaults of `empty`. -/
structure RuntimeMetricsV1 where
  schemaVersion : Nat := schemaVersionV1
  expectedSupportExpiryMonotonicMs : Option Nat := none
  actualReevaluationMonotonicMs : Option Nat := none
  maximumStalePositiveDurationMs : Nat := 0
  policyTransitionWithdrawalLatencyMs : Nat := 0
  schedulerLatenessMs : Nat := 0
  queueRefusalCount : Nat := 0
  subjectRefusalCount : Nat := 0
  observerRefusalCount : Nat := 0
  receiverStreamRefusalCount : Nat := 0
  deadlineRefusalCount : Nat := 0
  contextRefusalCount : Nat := 0
  sparseHistoryRefusalCount : Nat := 0
  duplicateEscalationCount : Nat := 0
  recoveredSparseRecordCount : Nat := 0
  recoveredReceiptCount : Nat := 0
  deriving DecidableEq

/-! ## Sparse durable events -/

/-- `SparseDurableEventKindV1`, with the kinds the evaluator and the runtime record. -/
inductive SparseDurableEventKindV1 where
  | judgmentTransition (transition : JudgmentTransitionV1)
  | contradictionCreated (contradiction : ContradictionRecordV1)
  | contradictionLifecycleChanged (contradiction : ContradictionRecordV1)
  | adverseObservationSuperseded (observer : ObserverId) (priorEvidenceRef : Text)
      (supersedingEvidenceRef : Text) (adverseSignals : List Text) (rule : Text)
  | escalationRequested (request : DiagnosticEscalationRequestV1)
  | escalationDeduplicated (deduplicationKey : DigestV1)
      (activeRequestId : EscalationRequestId)
  | escalationDisposition (disposition : EscalationDispositionV1)
  | diagnosticReceiptCorrelated (receipt : MockDiagnosticReceiptV1)
      (evidenceReference : DiagnosticEvidenceReferenceV1)
  | monitorCapabilityChanged (state detail : Text)
  | relianceContextTransition (transition : RelianceContextTransitionV1)
  | supportCertificateIssued (certificate : RelianceSupportCertificateV1)
  | runtimeRefusal (refusal : RuntimeRefusalV1)
  | schedulerReevaluated (consumer : ConsumerId) (activationId : ContextActivationId)
      (expectedDeadlineMonotonicMs actualReevaluationMonotonicMs : Nat)
      (stalePositiveOvershootMs : Nat)
  | runtimeRestarted (receiverIncarnation : IncarnationId) (clockId : ClockId)
      (recoveredSparseRecords recoveredReceipts : Nat) (standingRecovered : Bool)
  | contradictionApplicabilityChanged (custody : ContradictionCustodyV1)
  | qualifiedGenerationBindingChanged (receipt : ActivationReceiptV1)
  | qualifiedGenerationLifecycleApplied (consumer : ConsumerId)
      (fact : GenerationLifecycleFactV1) (state : RuntimeBindingStateV1)
      (standingPreserved : Bool)
  | qualifiedGenerationBindingInvalidated (consumer : ConsumerId)
      (priorActivationReceiptDigest : DigestV1) (state : RuntimeBindingStateV1)
      (detail : Text) (standingPreserved : Bool)
  | receiverBoundaryAcceptanceRecorded (receipt : ReceiverAcceptanceReceiptV1)
  | receiverBoundaryCustodyChanged (state : TransportCustodyFindingV1)
      (sessionBindingDigest : Option DigestV1) (detail : Text)
  | metricsSnapshot (metrics : ExperimentalMetricsV1)

/-- `SparseDurableEventV1`. -/
structure SparseDurableEventV1 where
  schemaVersion : Nat
  eventId : SparseEventId
  atMonotonicMs : Nat
  event : SparseDurableEventKindV1

/-! ## Historical state -/

/-- `history_nonclaims`. -/
def historyNonclaims : List Text :=
  [ "Historical records do not reconstruct current reliance.",
    "Restart does not recover hot pulse evidence or scheduled standing.",
    "Diagnostic receipts do not resolve contradictions or grant mutation authority." ]

/-- `RuntimeHistoricalStateV1`: what a restart is given. -/
structure RuntimeHistoricalStateV1 where
  schemaVersion : Nat
  sparseEvents : List SparseDurableEventV1
  contradictions : List ContradictionCustodyV1
  diagnosticReceipts : List MockDiagnosticReceiptV1
  nonclaims : List Text

/-- `RuntimeHistoricalStateV1::validate`. -/
def RuntimeHistoricalStateV1.validate (history : RuntimeHistoricalStateV1) :
    Except RuntimeTypeError Unit := do
  refuseIf (decide (history.schemaVersion ≠ schemaVersionV1))
    ⟨"unsupported_schema", "historical state schema is unsupported"⟩
  refuseIf (decide (history.nonclaims ≠ historyNonclaims))
    ⟨"nonclaim_mismatch", "historical state nonclaims are not the fixed v1 set"⟩

end ConstellationMonitor.Types

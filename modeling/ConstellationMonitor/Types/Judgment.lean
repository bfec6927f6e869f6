/-
  Judgments of present state, their transitions, and contradiction records
  (`pulse-types/src/judgment.rs`).
-/
import ConstellationMonitor.Types.Identity

namespace ConstellationMonitor.Types

open Foundation

/-- `INCOMPLETE_COVERAGE_EXPLANATION`. -/
def incompleteCoverageExplanation : Text :=
  "No violating observation is currently known, but coverage is incomplete and reliance is therefore UNKNOWN."

/-- `NO_MUTATION_NONCLAIM`. -/
def noMutationNonclaim : Text :=
  "This judgment grants no authority to execute, repair, or mutate anything."

/-- `JudgmentCategoryV1`. -/
inductive JudgmentCategoryV1 where
  | current
  | degraded
  | suspect
  | unknown
  | contradicted
  deriving DecidableEq

/-- `JudgmentCategoryV1::as_str`. -/
def JudgmentCategoryV1.asStr : JudgmentCategoryV1 → Text
  | .current => "CURRENT"
  | .degraded => "DEGRADED"
  | .suspect => "SUSPECT"
  | .unknown => "UNKNOWN"
  | .contradicted => "CONTRADICTED"

/-! ## Confidence dimensions -/

/-- `FreshnessDimensionV1`. -/
inductive FreshnessDimensionV1 where
  | current | mixed | expired | noEvidence
  deriving DecidableEq

/-- `SequenceContinuityDimensionV1`. -/
inductive SequenceContinuityDimensionV1 where
  | firstSeen | continuous | gapped | restarted | unknown
  deriving DecidableEq

/-- `ObserverAvailabilityDimensionV1`. -/
inductive ObserverAvailabilityDimensionV1 where
  | available | partially | unavailable
  deriving DecidableEq

/-- `CrossObserverCoherenceDimensionV1`. -/
inductive CrossObserverCoherenceDimensionV1 where
  | coherent | disagreement | insufficient
  deriving DecidableEq

/-- `CoverageDimensionV1`. -/
inductive CoverageDimensionV1 where
  | complete | partially | absent
  deriving DecidableEq

/-- `ProvenanceDimensionV1`. -/
inductive ProvenanceDimensionV1 where
  | verified | degraded | failed | unknown
  deriving DecidableEq

/-- `TransportDimensionV1`. -/
inductive TransportDimensionV1 where
  | normal | degraded | blind
  deriving DecidableEq

/-- `SubjectSignalConsistencyDimensionV1`. -/
inductive SubjectSignalConsistencyDimensionV1 where
  | consistent | violation | contradictory | unknown
  deriving DecidableEq

/-- `ConfidenceDimensionsV1`. -/
structure ConfidenceDimensionsV1 where
  freshness : FreshnessDimensionV1
  sequenceContinuity : SequenceContinuityDimensionV1
  observerAvailability : ObserverAvailabilityDimensionV1
  crossObserverCoherence : CrossObserverCoherenceDimensionV1
  coverage : CoverageDimensionV1
  provenance : ProvenanceDimensionV1
  transport : TransportDimensionV1
  subjectSignalConsistency : SubjectSignalConsistencyDimensionV1
  deriving DecidableEq

/-! ## Coverage and explanation -/

/-- `CoverageCountV1`. -/
structure CoverageCountV1 where
  tag : Text
  activeObservers : Nat
  expiredObservers : Nat
  requiredObservers : Nat
  deriving DecidableEq

/-- `CoverageSummaryV1`. -/
structure CoverageSummaryV1 where
  required : List Text
  active : List Text
  missing : List Text
  expired : List Text
  activeObservers : Nat
  requiredObservers : Nat
  perTag : List CoverageCountV1
  deriving DecidableEq

/-- `JudgmentReasonV1`. -/
structure JudgmentReasonV1 where
  code : Text
  detail : Text
  evidenceRefs : List Text
  deriving DecidableEq

/-- `JudgmentExplanationV1`. -/
structure JudgmentExplanationV1 where
  summary : Text
  reasons : List JudgmentReasonV1
  claims : List Text
  nonclaims : List Text
  deriving DecidableEq

/-- `MutationAuthorityV1`: no record of the system carries any. -/
inductive MutationAuthorityV1 where
  | none
  deriving DecidableEq

/-- `EscalationStateV1`. -/
inductive EscalationStateV1 where
  | notRequested
  | requested (requestId : Text)
  | accepted (requestId : Text)
  | refused (requestId reason : Text)
  | narrowed (requestId : Text)
  | deferred (requestId : Text)
  | completed (requestId : Text) (receiptId : DiagnosticReceiptId)
  deriving DecidableEq

/-- `PresentStateJudgmentV1`. -/
structure PresentStateJudgmentV1 where
  schemaVersion : Nat
  subjectScope : SubjectScopeV1
  consumer : ConsumerId
  policyGeneration : PolicyGenerationId
  coverage : CoverageSummaryV1
  evaluatedAtMonotonicMs : Nat
  positiveSupportExpiresAtMonotonicMs : Option Nat
  receiverClockId : Text
  evidenceWindowId : EvidenceWindowId
  category : JudgmentCategoryV1
  dimensions : ConfidenceDimensionsV1
  explanation : JudgmentExplanationV1
  escalation : EscalationStateV1
  mutationAuthority : MutationAuthorityV1
  deriving DecidableEq

/-- `JudgmentTransitionV1`. -/
structure JudgmentTransitionV1 where
  schemaVersion : Nat
  transitionId : TransitionId
  subjectScope : SubjectScopeV1
  consumer : ConsumerId
  policyGeneration : PolicyGenerationId
  atMonotonicMs : Nat
  fromCategory : Option JudgmentCategoryV1
  toCategory : JudgmentCategoryV1
  priorEvidenceWindow : Option EvidenceWindowId
  evidenceWindow : EvidenceWindowId
  reasonCodes : List Text
  deriving DecidableEq

/-! ## Contradictions -/

/-- `ContradictionStatusV1`. -/
inductive ContradictionStatusV1 where
  | active
  | resolved (resolver : Text) (resolvedAtMonotonicMs : Nat) (rule explanation : Text)
  | superseded (supersedingRecord : ContradictionId) (atMonotonicMs : Nat) (rule : Text)
  | expiredUnderNamedRule (atMonotonicMs : Nat) (rule : Text)
  | inapplicableBySubjectReplacement (priorSubjectIncarnation : IncarnationId)
      (replacementSubjectIncarnation : IncarnationId) (atMonotonicMs : Nat) (rule : Text)
  deriving DecidableEq

/-- `ContradictionRecordV1`. -/
structure ContradictionRecordV1 where
  schemaVersion : Nat
  contradictionId : ContradictionId
  subjectScope : SubjectScopeV1
  policyGeneration : PolicyGenerationId
  signal : Text
  firstObservedAtMonotonicMs : Nat
  evidenceRefs : List Text
  incompatibleStatements : List Text
  status : ContradictionStatusV1
  deriving DecidableEq

/-- `ContradictionRecordV1::is_active`. -/
def ContradictionRecordV1.isActive (record : ContradictionRecordV1) : Bool :=
  decide (record.status = .active)

/-- `ExperimentalMetricsV1`, with the defaults of `empty`. -/
structure ExperimentalMetricsV1 where
  schemaVersion : Nat := schemaVersionV1
  pulseToEvaluationLatencyMs : Nat := 0
  maximumStalePositiveDurationMs : Nat := 0
  failureToUnknownLatencyMs : Option Nat := none
  failureToContradictedLatencyMs : Option Nat := none
  failureToEscalationLatencyMs : Option Nat := none
  falseEscalationCount : Nat := 0
  activeCoverage : Nat := 0
  expiredCoverage : Nat := 0
  droppedStalePulseCount : Nat := 0
  duplicateCount : Nat := 0
  sequenceGapCount : Nat := 0
  escalationDeduplicationCount : Nat := 0
  monitorInputDropCount : Nat := 0
  deriving DecidableEq

/-- `DiagnosticEvidenceReferenceV1`. -/
structure DiagnosticEvidenceReferenceV1 where
  receiptId : DiagnosticReceiptId
  resultDigest : DigestV1
  recordedAtMonotonicMs : Nat
  applicableUntilMonotonicMs : Nat
  nonclaims : List Text
  deriving DecidableEq

end ConstellationMonitor.Types

/-
  Diagnostic escalation requests, dispositions and receipts
  (`pulse-types/src/escalation.rs`).
-/
import ConstellationMonitor.Types.Judgment

namespace ConstellationMonitor.Types

open Foundation

/-- `ESCALATION_NONCLAIMS`. -/
def escalationNonclaims : List Text :=
  [ "This request is not diagnostic evidence.",
    "This request grants no execution or mutation authority.",
    "Acceptance authorizes only the named bounded observation profile in the local bridge.",
    "Diagnostic completion does not establish subject health or indefinite reliance." ]

/-- `DiagnosticProfileIdV1`. -/
structure DiagnosticProfileIdV1 where
  name : Text
  version : Nat
  semanticDigest : DigestV1
  deriving DecidableEq

/-- `EscalationTriggerClassV1`. -/
inductive EscalationTriggerClassV1 where
  | freshnessLost
  | coverageCollapse
  | observerDisagreement
  | contradictionRetained
  | subjectBoundViolated
  | provenanceFailed
  | transportBlind
  | sequenceDiscontinuity
  deriving DecidableEq

namespace EscalationTriggerClassV1

/-- `EscalationTriggerClassV1::as_str`. -/
def asStr : EscalationTriggerClassV1 → Text
  | .freshnessLost => "freshness_lost"
  | .coverageCollapse => "coverage_collapse"
  | .observerDisagreement => "observer_disagreement"
  | .contradictionRetained => "contradiction_retained"
  | .subjectBoundViolated => "subject_bound_violated"
  | .provenanceFailed => "provenance_failed"
  | .transportBlind => "transport_blind"
  | .sequenceDiscontinuity => "sequence_discontinuity"

/-- The declaration rank, which the derived order compares. -/
def rank : EscalationTriggerClassV1 → Nat
  | .freshnessLost => 0
  | .coverageCollapse => 1
  | .observerDisagreement => 2
  | .contradictionRetained => 3
  | .subjectBoundViolated => 4
  | .provenanceFailed => 5
  | .transportBlind => 6
  | .sequenceDiscontinuity => 7

instance : Ord EscalationTriggerClassV1 := ordOf rank

instance : Std.TransOrd EscalationTriggerClassV1 := transOrd_ordOf _

end EscalationTriggerClassV1

/-- `DiagnosticBoundsV1`. -/
structure DiagnosticBoundsV1 where
  maximumRuntimeMs : Nat
  maximumOutputBytes : Nat
  maximumObservations : Nat
  deriving DecidableEq

/-- `DiagnosticBoundsV1::is_nonzero`. -/
def DiagnosticBoundsV1.isNonzero (bounds : DiagnosticBoundsV1) : Bool :=
  decide (bounds.maximumRuntimeMs > 0) && decide (bounds.maximumOutputBytes > 0) &&
    decide (bounds.maximumObservations > 0)

/-- `DiagnosticEscalationRequestV1`. -/
structure DiagnosticEscalationRequestV1 where
  schemaVersion : Nat
  requestId : EscalationRequestId
  subjectScope : SubjectScopeV1
  consumer : ConsumerId
  triggerClass : EscalationTriggerClassV1
  evidenceWindowDigest : DigestV1
  policyGeneration : PolicyGenerationId
  observationPolicyGeneration : ObservationPolicyGenerationId
  diagnosticProfile : DiagnosticProfileIdV1
  bounds : DiagnosticBoundsV1
  clockId : ClockId
  createdAtMonotonicMs : Nat
  expiresAtMonotonicMs : Nat
  deduplicationKey : DigestV1
  causalTransitionId : TransitionId
  nonclaims : List Text
  deriving DecidableEq

/-- `EscalationError`. -/
structure EscalationError where
  code : Text
  detail : Text
  deriving DecidableEq

namespace DiagnosticEscalationRequestV1

/-- `DiagnosticEscalationRequestV1::compute_deduplication_key`. -/
def computeDeduplicationKey (sha256 : Sha256) (request : DiagnosticEscalationRequestV1) :
    DigestV1 :=
  digestParts sha256 "diagnostic.escalation.dedup.v1"
    [ request.subjectScope.subject.text.bytes,
      request.subjectScope.subjectIncarnation.text.bytes,
      request.subjectScope.scope.bytes,
      request.consumer.text.bytes,
      request.policyGeneration.text.bytes,
      request.observationPolicyGeneration.text.bytes,
      request.triggerClass.asStr.bytes,
      request.diagnosticProfile.name.bytes,
      beBytes 2 request.diagnosticProfile.version,
      request.diagnosticProfile.semanticDigest.text.bytes ]

/-- `DiagnosticEscalationRequestV1::validate`. -/
def validate (sha256 : Sha256) (request : DiagnosticEscalationRequestV1) :
    Except EscalationError Unit := do
  refuseIf (decide (request.schemaVersion ≠ schemaVersionV1))
    ⟨"unsupported_schema", "request schema is unsupported"⟩
  request.requestId.validate.mapError fun _ =>
    ⟨"invalid_identity", "invalid request identity"⟩
  request.subjectScope.validate.mapError fun _ => ⟨"invalid_scope", "invalid subject scope"⟩
  request.consumer.validate.mapError fun _ =>
    ⟨"invalid_identity", "invalid consumer identity"⟩
  request.policyGeneration.validate.mapError fun _ =>
    ⟨"invalid_identity", "invalid policy generation"⟩
  request.observationPolicyGeneration.validate.mapError fun _ =>
    ⟨"invalid_identity", "invalid observation-policy generation"⟩
  request.clockId.validate.mapError fun _ => ⟨"invalid_identity", "invalid clock identity"⟩
  request.causalTransitionId.validate.mapError fun _ =>
    ⟨"invalid_identity", "invalid transition identity"⟩
  request.evidenceWindowDigest.validate.mapError fun _ =>
    ⟨"invalid_digest", "invalid evidence window digest"⟩
  request.diagnosticProfile.semanticDigest.validate.mapError fun _ =>
    ⟨"invalid_digest", "invalid profile digest"⟩
  refuseIf (request.diagnosticProfile.name.isEmpty ||
      decide (request.diagnosticProfile.version = 0))
    ⟨"invalid_profile", "profile identity is incomplete"⟩
  refuseIf (!request.bounds.isNonzero)
    ⟨"invalid_bounds", "every diagnostic bound must be nonzero"⟩
  refuseIf (decide (request.expiresAtMonotonicMs ≤ request.createdAtMonotonicMs))
    ⟨"invalid_expiry", "expiry must be later than creation"⟩
  refuseIf (decide (request.computeDeduplicationKey sha256 ≠ request.deduplicationKey))
    ⟨"deduplication_mismatch", "deduplication key does not match its semantic transcript"⟩
  refuseIf (decide (request.nonclaims ≠ escalationNonclaims))
    ⟨"nonclaim_mismatch", "request nonclaims are not the fixed v1 set"⟩

end DiagnosticEscalationRequestV1

/-- `EscalationDispositionKindV1`. -/
inductive EscalationDispositionKindV1 where
  | accept (admittedBounds : DiagnosticBoundsV1)
  | refuse (code detail : Text)
  | narrow (allowedProfile : DiagnosticProfileIdV1) (allowedBounds : DiagnosticBoundsV1)
      (detail : Text)
  | defer (code detail : Text)
  deriving DecidableEq

/-- `EscalationDispositionV1`. -/
structure EscalationDispositionV1 where
  schemaVersion : Nat
  requestId : EscalationRequestId
  bridgeId : BridgeId
  clockId : ClockId
  decidedAtMonotonicMs : Nat
  kind : EscalationDispositionKindV1
  mutationAuthority : MutationAuthorityV1
  deriving DecidableEq

/-- `DiagnosticReceiptStatusV1`. -/
inductive DiagnosticReceiptStatusV1 where
  | completed
  | failed
  deriving DecidableEq

/-- `DiagnosticResultEntryV1`. -/
structure DiagnosticResultEntryV1 where
  name : Text
  value : Text
  interpretation : Text
  deriving DecidableEq

/-- `MockDiagnosticReceiptV1`. -/
structure MockDiagnosticReceiptV1 where
  schemaVersion : Nat
  receiptId : DiagnosticReceiptId
  runId : DiagnosticRunId
  requestId : EscalationRequestId
  causalTransitionId : TransitionId
  deduplicationKey : DigestV1
  evidenceWindowDigest : DigestV1
  subjectScope : SubjectScopeV1
  consumer : ConsumerId
  policyGeneration : PolicyGenerationId
  observationPolicyGeneration : ObservationPolicyGenerationId
  diagnosticProfile : DiagnosticProfileIdV1
  bridgeId : BridgeId
  clockId : ClockId
  startedAtMonotonicMs : Nat
  completedAtMonotonicMs : Nat
  applicableUntilMonotonicMs : Nat
  status : DiagnosticReceiptStatusV1
  results : List DiagnosticResultEntryV1
  observedCoverage : List Text
  resultDigest : DigestV1
  nonclaims : List Text
  mutationAuthority : MutationAuthorityV1
  deriving DecidableEq

end ConstellationMonitor.Types

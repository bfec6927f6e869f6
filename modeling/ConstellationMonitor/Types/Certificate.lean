/-
  Reliance support certificates (`pulse-types/src/runtime.rs`): the bounded explanation of
  one evaluation, its identity transcript and its validation.
-/
import ConstellationMonitor.Types.Activation
import ConstellationMonitor.Types.Custody
import ConstellationMonitor.Types.Escalation
import ConstellationMonitor.Foundation.Float64

namespace ConstellationMonitor.Types

open Foundation

/-- Outside code the record types rest on: SHA-256, the printer of floating-point numbers
and the JSON serializer at the types whose bytes are hashed. -/
structure Platform where
  /-- `sha2::Sha256` -/
  sha256 : Sha256
  /-- `Display` of `f64` -/
  displayF64 : Float64 → Text
  /-- `serde_json::to_vec` of a custody reference -/
  custodyJson : RemoteObservationCustodyReferenceV1 → List UInt8
  /-- `serde_json::to_vec` of an acceptance receipt -/
  acceptanceReceiptJson : ReceiverAcceptanceReceiptV1 → List UInt8
  /-- `serde_json::to_vec` of a lifecycle fact body -/
  lifecycleFactBodyJson : GenerationLifecycleFactBodyV1 → List UInt8

/-- `RemoteObservationCustodyReferenceV1::identity_digest`. -/
def RemoteObservationCustodyReferenceV1.identityDigest (platform : Platform)
    (custody : RemoteObservationCustodyReferenceV1) : DigestV1 :=
  digestParts platform.sha256 "transport.remote-observation-custody.v1"
    [platform.custodyJson custody]

/-- `MAX_CERTIFICATE_EVIDENCE_REFS`. -/
def maxCertificateEvidenceRefs : Nat := 64

/-- `MAX_CERTIFICATE_MISSING_PREMISES`. -/
def maxCertificateMissingPremises : Nat := 64

/-- `MAX_CERTIFICATE_CONTRADICTIONS`. -/
def maxCertificateContradictions : Nat := 64

/-- `RelianceSupportCertificateV1`. -/
structure RelianceSupportCertificateV1 where
  schemaVersion : Nat
  certificateId : SupportCertificateId
  consumer : ConsumerId
  subjectScope : SubjectScopeV1
  context : RelianceContextV1
  qualifiedGeneration : Option QualifiedGenerationBindingV1
  evaluatedAtMonotonicMs : Nat
  receiverClockId : Text
  judgment : JudgmentCategoryV1
  evidenceWindowId : EvidenceWindowId
  supportingEvidenceIds : List Text
  remoteObservationCustody : List RemoteObservationCustodyReferenceV1
  missingPremises : List Text
  applicableContradictions : List ContradictionId
  coverage : CoverageSummaryV1
  earliestSupportExpiryMonotonicMs : Option Nat
  nextScheduledReevaluationMonotonicMs : Option Nat
  escalation : EscalationStateV1
  mutationAuthority : MutationAuthorityV1
  deriving DecidableEq

/-- `escalation_transcript`. -/
def escalationTranscript : EscalationStateV1 → Text
  | .notRequested => "not_requested"
  | .requested requestId => "requested:" ++ requestId
  | .accepted requestId => "accepted:" ++ requestId
  | .refused requestId reason => "refused:" ++ requestId ++ ":" ++ reason
  | .narrowed requestId => "narrowed:" ++ requestId
  | .deferred requestId => "deferred:" ++ requestId
  | .completed requestId receiptId => "completed:" ++ requestId ++ ":" ++ receiptId.text

/-- A labelled transcript entry for each text of a list. -/
def labelled (label : Text) (texts : List Text) : List (List UInt8) :=
  texts.flatMap fun text => [label.bytes, text.bytes]

namespace RelianceSupportCertificateV1

/-- The transcript `compute_id` hashes. -/
def transcript (platform : Platform) (certificate : RelianceSupportCertificateV1) :
    List (List UInt8) :=
  [ certificate.consumer.text.bytes,
    certificate.subjectScope.subject.text.bytes,
    certificate.subjectScope.subjectIncarnation.text.bytes,
    certificate.subjectScope.scope.bytes,
    (certificate.context.identityDigest platform.sha256).text.bytes,
    match certificate.qualifiedGeneration with
    | none => (Text.ofString "qualified-generation:none").bytes
    | some binding => (binding.identityDigest platform.sha256).text.bytes,
    beBytes 8 certificate.evaluatedAtMonotonicMs,
    certificate.receiverClockId.bytes,
    certificate.judgment.asStr.bytes,
    certificate.evidenceWindowId.text.bytes,
    beBytes 8 (certificate.earliestSupportExpiryMonotonicMs.getD u64Max),
    beBytes 8 (certificate.nextScheduledReevaluationMonotonicMs.getD u64Max),
    (escalationTranscript certificate.escalation).bytes,
    (Text.ofString "mutation-authority:none").bytes ] ++
  labelled "evidence" certificate.supportingEvidenceIds ++
  labelled "remote-custody"
    (certificate.remoteObservationCustody.map fun custody =>
      (custody.identityDigest platform).text) ++
  labelled "missing" certificate.missingPremises ++
  labelled "contradiction" (certificate.applicableContradictions.map Identity.text) ++
  labelled "coverage-required" certificate.coverage.required ++
  labelled "coverage-active" certificate.coverage.active ++
  labelled "coverage-missing" certificate.coverage.missing ++
  labelled "coverage-expired" certificate.coverage.expired ++
  [ beBytes 4 certificate.coverage.activeObservers,
    beBytes 4 certificate.coverage.requiredObservers ] ++
  certificate.coverage.perTag.flatMap fun count =>
    [ count.tag.bytes, beBytes 4 count.activeObservers, beBytes 4 count.expiredObservers,
      beBytes 4 count.requiredObservers ]

/-- `RelianceSupportCertificateV1::compute_id`. -/
def computeId (platform : Platform) (certificate : RelianceSupportCertificateV1) :
    SupportCertificateId :=
  let digest := digestParts platform.sha256 "reliance.support-certificate.v1"
    (certificate.transcript platform)
  ⟨"support:" ++ Text.trimStartMatches "sha256:" digest.text⟩

/-- The binding part of `validate`: a valid binding of this subject, consumer and
context. -/
def validateBinding (certificate : RelianceSupportCertificateV1) :
    Except RuntimeTypeError Unit :=
  match certificate.qualifiedGeneration with
  | none => .ok ()
  | some binding => do
    binding.validate.mapError fun error => ⟨error.code, "invalid qualified binding"⟩
    refuseIf (decide (binding.generationSet.subject ≠ certificate.subjectScope.subject) ||
        decide (binding.generationSet.consumer ≠ certificate.consumer) ||
        !binding.generationSet.matchesContext certificate.context)
      ⟨"qualified_binding_mismatch",
        "qualified generation binding does not match the certificate context"⟩

/-- The custody loop of `validate`. -/
def validateCustody (certificate : RelianceSupportCertificateV1)
    (custody : RemoteObservationCustodyReferenceV1) : Except RuntimeTypeError Unit := do
  custody.validate.mapError fun error =>
    ⟨error.code, "invalid remote observation custody"⟩
  refuseIf (decide (custody.subjectScope ≠ certificate.subjectScope) ||
      !certificate.supportingEvidenceIds.contains custody.supportingEvidenceId)
    ⟨"remote_custody_mismatch",
      "remote custody does not identify supporting evidence for this subject"⟩

/-- The deadline rules of `validate`: only CURRENT carries one, in the future and with
every premise present. -/
def validateSupport (certificate : RelianceSupportCertificateV1) :
    Except RuntimeTypeError Unit :=
  if certificate.judgment = .current then
    refuseIf (certificate.qualifiedGeneration.isNone ||
        certificate.earliestSupportExpiryMonotonicMs.isNone ||
        decide (certificate.nextScheduledReevaluationMonotonicMs ≠
          certificate.earliestSupportExpiryMonotonicMs) ||
        (certificate.earliestSupportExpiryMonotonicMs.any fun deadline =>
          decide (deadline ≤ certificate.evaluatedAtMonotonicMs)) ||
        !certificate.missingPremises.isEmpty ||
        !certificate.applicableContradictions.isEmpty ||
        !certificate.coverage.missing.isEmpty)
      ⟨"invalid_current_support",
        "CURRENT certificate must bind qualified generation, complete premises, and a future exact support expiry"⟩
  else
    refuseIf (certificate.earliestSupportExpiryMonotonicMs.isSome ||
        certificate.nextScheduledReevaluationMonotonicMs.isSome)
      ⟨"invalid_deadline",
        "non-current certificate cannot carry a positive support deadline"⟩

/-- `RelianceSupportCertificateV1::validate`. -/
def validate (platform : Platform) (certificate : RelianceSupportCertificateV1) :
    Except RuntimeTypeError Unit := do
  refuseIf (decide (certificate.schemaVersion ≠ schemaVersionV1))
    ⟨"unsupported_schema", "support certificate schema is unsupported"⟩
  certificate.certificateId.validate.mapError fun _ => .identity "certificate_id"
  certificate.consumer.validate.mapError fun _ => .identity "consumer"
  certificate.subjectScope.validate.mapError fun _ => .identity "subject_scope"
  certificate.context.validate
  certificate.validateBinding
  refuseIf (decide (certificate.supportingEvidenceIds.length > maxCertificateEvidenceRefs) ||
      decide (certificate.remoteObservationCustody.length > maxCertificateEvidenceRefs) ||
      decide (certificate.missingPremises.length > maxCertificateMissingPremises) ||
      decide (certificate.applicableContradictions.length > maxCertificateContradictions))
    ⟨"bound_exceeded", "support certificate collection exceeds its v1 bound"⟩
  refuseIf (!strictlySorted certificate.supportingEvidenceIds ||
      !strictlySorted (certificate.remoteObservationCustody.map fun custody =>
        custody.identityDigest platform) ||
      !strictlySorted certificate.missingPremises ||
      !strictlySorted certificate.applicableContradictions)
    ⟨"noncanonical_collection",
      "support certificate collections must be sorted and unique"⟩
  forM certificate.remoteObservationCustody certificate.validateCustody
  certificate.validateSupport
  refuseIf (decide (certificate.certificateId ≠ certificate.computeId platform))
    ⟨"identity_mismatch", "support certificate identity does not match its transcript"⟩

end RelianceSupportCertificateV1

end ConstellationMonitor.Types

/-
  Receiver-boundary custody records (`pulse-types/src/custody.rs`): the policy binding of
  the runtime configuration, the findings reported at the boundary, the acceptance
  receipt, and the custody reference a remote observation carries.
-/
import ConstellationMonitor.Types.Qualification

namespace ConstellationMonitor.Types

open Foundation

/-- `MAX_CUSTODY_TEXT_BYTES`. -/
def maxCustodyTextBytes : Nat := 256

/-- `CustodyTypeError`. -/
structure CustodyTypeError where
  code : Text
  detail : Text
  deriving DecidableEq

namespace Custody

/-- `validate_schema`. -/
def validateSchema (version : Nat) : Except CustodyTypeError Unit :=
  refuseIf (decide (version ≠ schemaVersionV1))
    ⟨"unsupported_schema", "custody schema version is unsupported"⟩

/-- `validate_digest`. -/
def validateDigest (digest : DigestV1) : Except CustodyTypeError Unit :=
  digest.validate.mapError fun error => ⟨"invalid_digest", error⟩

/-- `validate_text`. -/
def validateText (field value : Text) : Except CustodyTypeError Unit :=
  refuseIf (value.isEmpty || decide (value.length > maxCustodyTextBytes) || value.hasControl)
    ⟨"invalid_text", field ++ " is empty, oversized, or contains control characters"⟩

/-- An identity check with its error turned into a custody error. -/
def validateIdentity {kind : IdentityKind} (identity : Identity kind) :
    Except CustodyTypeError Unit :=
  identity.validate.mapError fun error => ⟨"invalid_identity", error.display⟩

end Custody

/-- `CustodyPeerRoleV1`. -/
inductive CustodyPeerRoleV1 where
  | sender
  | receiver
  deriving DecidableEq

/-- `TransportCustodyPolicyBindingV1`. -/
structure TransportCustodyPolicyBindingV1 where
  schemaVersion : Nat
  role : CustodyPeerRoleV1
  policyGeneration : Text
  policyDigest : DigestV1
  deriving DecidableEq

/-- `TransportCustodyPolicyBindingV1::validate`. -/
def TransportCustodyPolicyBindingV1.validate (binding : TransportCustodyPolicyBindingV1) :
    Except CustodyTypeError Unit := do
  Custody.validateSchema binding.schemaVersion
  Custody.validateText "transport policy generation" binding.policyGeneration
  Custody.validateDigest binding.policyDigest

/-- `TransportCustodyFindingV1`. -/
inductive TransportCustodyFindingV1 where
  | transportUnavailable
  | transportOverloaded
  | transportMalformed
  | authenticationFailed
  | senderKeyMismatch
  | receiverChallengeInvalid
  | sessionExpired
  | sessionUnknown
  | sessionConflict
  | senderOccurrenceConflict
  | signatureInvalid
  | qualifiedIdentityMismatch
  | certificateSuperseded
  | certificateRevoked
  | replayDetected
  | duplicateDetected
  | sequenceGap
  | observationRejected
  | payloadMalformed
  | subjectScopeMismatch
  | observerRoleMismatch
  | receiverBlind
  | evidenceAdmitted
  deriving DecidableEq

/-- The variant name, as the derived `Debug` prints it. -/
def TransportCustodyFindingV1.debug : TransportCustodyFindingV1 → Text
  | .transportUnavailable => "TransportUnavailable"
  | .transportOverloaded => "TransportOverloaded"
  | .transportMalformed => "TransportMalformed"
  | .authenticationFailed => "AuthenticationFailed"
  | .senderKeyMismatch => "SenderKeyMismatch"
  | .receiverChallengeInvalid => "ReceiverChallengeInvalid"
  | .sessionExpired => "SessionExpired"
  | .sessionUnknown => "SessionUnknown"
  | .sessionConflict => "SessionConflict"
  | .senderOccurrenceConflict => "SenderOccurrenceConflict"
  | .signatureInvalid => "SignatureInvalid"
  | .qualifiedIdentityMismatch => "QualifiedIdentityMismatch"
  | .certificateSuperseded => "CertificateSuperseded"
  | .certificateRevoked => "CertificateRevoked"
  | .replayDetected => "ReplayDetected"
  | .duplicateDetected => "DuplicateDetected"
  | .sequenceGap => "SequenceGap"
  | .observationRejected => "ObservationRejected"
  | .payloadMalformed => "PayloadMalformed"
  | .subjectScopeMismatch => "SubjectScopeMismatch"
  | .observerRoleMismatch => "ObserverRoleMismatch"
  | .receiverBlind => "ReceiverBlind"
  | .evidenceAdmitted => "EvidenceAdmitted"

/-- `CustodyCheckResultV1`. -/
inductive CustodyCheckResultV1 where
  | notChecked
  | accepted
  | rejected
  deriving DecidableEq

/-- `ReplayWindowResultV1`. -/
inductive ReplayWindowResultV1 where
  | notChecked | first | continuous | gap | duplicate | replay | reordered | boundExceeded
  deriving DecidableEq

/-- `CustodySequenceGapV1`. -/
structure CustodySequenceGapV1 where
  expectedNext : Nat
  received : Nat
  missingCount : Nat
  deriving DecidableEq

/-- `CustodySequenceGapV1::validate`. -/
def CustodySequenceGapV1.validate (gap : CustodySequenceGapV1) :
    Except CustodyTypeError Unit :=
  refuseIf (decide (gap.received ≤ gap.expectedNext) ||
      decide (gap.missingCount ≠ gap.received - gap.expectedNext))
    ⟨"invalid_sequence_gap", "custody sequence gap arithmetic is inconsistent"⟩

/-- `RemoteFreshnessModeV1`. -/
inductive RemoteFreshnessModeV1 where
  | arrivalAnchored
  deriving DecidableEq

/-- `CustodyAuthorityGrantsV1`: as `AuthorityGrantsV1`, nothing can be granted. -/
structure CustodyAuthorityGrantsV1 where
  continuation : AuthorityGrantV1 := .none
  transportAdministration : AuthorityGrantV1 := .none
  diagnosticExecution : AuthorityGrantV1 := .none
  deployment : AuthorityGrantV1 := .none
  signing : AuthorityGrantV1 := .none
  revocation : AuthorityGrantV1 := .none
  mutation : AuthorityGrantV1 := .none
  deriving DecidableEq

/-- `CustodyAuthorityGrantsV1::grants_nothing`. -/
def CustodyAuthorityGrantsV1.grantsNothing (grants : CustodyAuthorityGrantsV1) : Bool :=
  decide (grants.continuation = .none) && decide (grants.transportAdministration = .none) &&
    decide (grants.diagnosticExecution = .none) && decide (grants.deployment = .none) &&
    decide (grants.signing = .none) && decide (grants.revocation = .none) &&
    decide (grants.mutation = .none)

/-! ## Acceptance receipts -/

/-- `ReceiverAcceptanceReceiptV1`. -/
structure ReceiverAcceptanceReceiptV1 where
  schemaVersion : Nat
  receiptDigest : DigestV1
  receiverProcessOccurrence : IncarnationId
  receiverMonotonicEpoch : IncarnationId
  receiverAcceptancePolicyGeneration : Text
  receiverAcceptancePolicyDigest : DigestV1
  sessionBindingDigest : Option DigestV1
  envelopeDigest : Option DigestV1
  receiverArrivalMonotonicMs : Nat
  remoteNetworkEndpoint : Text
  senderKeyVerification : CustodyCheckResultV1
  receiverChallengeVerification : CustodyCheckResultV1
  sessionBindingVerification : CustodyCheckResultV1
  senderQualificationPackageAcceptance : CustodyCheckResultV1
  exactIdentityMatch : CustodyCheckResultV1
  replayWindowResult : ReplayWindowResultV1
  sequenceGap : Option CustodySequenceGapV1
  queueAndCapacityResult : CustodyCheckResultV1
  subjectScopeResult : CustodyCheckResultV1
  observerRoleResult : CustodyCheckResultV1
  payloadDecodingResult : CustodyCheckResultV1
  finding : TransportCustodyFindingV1
  acceptedEvidenceIdentity : Option DigestV1
  refusalReason : Option Text
  complete : Bool
  receiptSequence : Nat
  journalIdentity : Text
  mutationAuthority : MutationAuthorityV1
  authorityGrants : CustodyAuthorityGrantsV1
  deriving DecidableEq

namespace ReceiverAcceptanceReceiptV1

/-- `ReceiverAcceptanceReceiptV1::compute_digest`; `json` are the serialized bytes of a
receipt. -/
def computeDigest (sha256 : Sha256) (json : ReceiverAcceptanceReceiptV1 → List UInt8)
    (receipt : ReceiverAcceptanceReceiptV1) : DigestV1 :=
  let transcript :=
    { receipt with
      receiptDigest := artifactContentDigest sha256
        (Text.ofString "receiver-acceptance-receipt-digest-field/v1").bytes }
  digestParts sha256 "transport.receiver-acceptance-receipt.v1" [json transcript]

/-- The admission rules at the end of `ReceiverAcceptanceReceiptV1::validate`. -/
def validateFinding (receipt : ReceiverAcceptanceReceiptV1) : Except CustodyTypeError Unit :=
  if receipt.finding = .evidenceAdmitted then
    refuseIf (receipt.acceptedEvidenceIdentity.isNone || receipt.refusalReason.isSome ||
        decide (receipt.senderKeyVerification ≠ .accepted) ||
        decide (receipt.receiverChallengeVerification ≠ .accepted) ||
        decide (receipt.sessionBindingVerification ≠ .accepted) ||
        decide (receipt.senderQualificationPackageAcceptance ≠ .accepted) ||
        decide (receipt.exactIdentityMatch ≠ .accepted) ||
        decide (receipt.queueAndCapacityResult ≠ .accepted) ||
        decide (receipt.subjectScopeResult ≠ .accepted) ||
        decide (receipt.observerRoleResult ≠ .accepted) ||
        decide (receipt.payloadDecodingResult ≠ .accepted))
      ⟨"invalid_admission", "admitted receipt lacks every accepted admission premise"⟩
  else
    refuseIf receipt.acceptedEvidenceIdentity.isSome
      ⟨"authority_laundering", "non-admitted receipt cannot name accepted evidence"⟩

/-- `ReceiverAcceptanceReceiptV1::validate`. -/
def validate (sha256 : Sha256) (json : ReceiverAcceptanceReceiptV1 → List UInt8)
    (receipt : ReceiverAcceptanceReceiptV1) : Except CustodyTypeError Unit := do
  Custody.validateSchema receipt.schemaVersion
  Custody.validateDigest receipt.receiptDigest
  Custody.validateIdentity receipt.receiverProcessOccurrence
  Custody.validateIdentity receipt.receiverMonotonicEpoch
  Custody.validateText "receiver acceptance policy generation"
    receipt.receiverAcceptancePolicyGeneration
  Custody.validateDigest receipt.receiverAcceptancePolicyDigest
  forM (receipt.sessionBindingDigest.toList ++ receipt.envelopeDigest.toList ++
    receipt.acceptedEvidenceIdentity.toList) Custody.validateDigest
  Custody.validateText "remote endpoint metadata" receipt.remoteNetworkEndpoint
  forM receipt.sequenceGap.toList CustodySequenceGapV1.validate
  forM receipt.refusalReason.toList (Custody.validateText "receiver refusal reason")
  Custody.validateText "receipt journal identity" receipt.journalIdentity
  refuseIf (decide (receipt.receiptSequence = 0) || !receipt.complete ||
      decide (receipt.mutationAuthority ≠ .none) || !receipt.authorityGrants.grantsNothing)
    ⟨"invalid_acceptance_receipt",
      "receipt is incomplete, unsequenced, or carries authority"⟩
  refuseIf (decide (receipt.receiptDigest ≠ receipt.computeDigest sha256 json))
    ⟨"receipt_identity_mismatch",
      "acceptance receipt digest does not identify its exact contents"⟩
  receipt.validateFinding

end ReceiverAcceptanceReceiptV1

/-! ## Custody references -/

/-- `RemoteObservationCustodyReferenceV1`. -/
structure RemoteObservationCustodyReferenceV1 where
  schemaVersion : Nat
  receiverProcessOccurrence : IncarnationId
  receiverMonotonicEpoch : IncarnationId
  receiverManifestDigest : DigestV1
  receiverQualificationCertificateDigest : DigestV1
  receiverActivationReceiptDigest : DigestV1
  receiverAcceptancePolicyGeneration : Text
  receiverAcceptancePolicyDigest : DigestV1
  receiverKeyIdentityDigest : DigestV1
  senderKeyIdentityDigest : DigestV1
  senderProcessOccurrence : IncarnationId
  senderMonotonicEpoch : IncarnationId
  senderManifestDigest : DigestV1
  senderQualificationCertificateDigest : DigestV1
  senderActivationReceiptDigest : DigestV1
  senderSessionOfferDigest : DigestV1
  receiverChallengeDigest : DigestV1
  sessionBindingDigest : DigestV1
  receiverSessionAcceptanceDigest : DigestV1
  envelopeDigest : DigestV1
  acceptanceReceiptDigest : DigestV1
  observer : ObserverId
  failureDomainClaim : Text
  subjectScope : SubjectScopeV1
  observationSequence : Nat
  sessionSequence : Nat
  payloadDigest : DigestV1
  observationIdentity : DigestV1
  supportingEvidenceId : Text
  receiverArrivalMonotonicMs : Nat
  acceptedEvidenceIdentity : DigestV1
  freshnessMode : RemoteFreshnessModeV1
  authorityGrants : CustodyAuthorityGrantsV1
  deriving DecidableEq

namespace RemoteObservationCustodyReferenceV1

/-- The digests `validate` checks, in its order. -/
def checkedDigests (custody : RemoteObservationCustodyReferenceV1) : List DigestV1 :=
  [ custody.receiverManifestDigest,
    custody.receiverQualificationCertificateDigest,
    custody.receiverActivationReceiptDigest,
    custody.receiverAcceptancePolicyDigest,
    custody.receiverKeyIdentityDigest,
    custody.senderKeyIdentityDigest,
    custody.senderManifestDigest,
    custody.senderQualificationCertificateDigest,
    custody.senderActivationReceiptDigest,
    custody.senderSessionOfferDigest,
    custody.receiverChallengeDigest,
    custody.sessionBindingDigest,
    custody.receiverSessionAcceptanceDigest,
    custody.envelopeDigest,
    custody.acceptanceReceiptDigest,
    custody.payloadDigest,
    custody.observationIdentity,
    custody.acceptedEvidenceIdentity ]

/-- `RemoteObservationCustodyReferenceV1::validate`. -/
def validate (custody : RemoteObservationCustodyReferenceV1) : Except CustodyTypeError Unit := do
  Custody.validateSchema custody.schemaVersion
  forM [ custody.receiverProcessOccurrence, custody.receiverMonotonicEpoch,
    custody.senderProcessOccurrence, custody.senderMonotonicEpoch ] Custody.validateIdentity
  forM custody.checkedDigests Custody.validateDigest
  Custody.validateText "receiver acceptance policy generation"
    custody.receiverAcceptancePolicyGeneration
  Custody.validateIdentity custody.observer
  Custody.validateText "failure-domain claim" custody.failureDomainClaim
  custody.subjectScope.validate.mapError fun error => ⟨"invalid_identity", error.display⟩
  Custody.validateText "supporting evidence identity" custody.supportingEvidenceId
  refuseIf (decide (custody.observationSequence = 0) || decide (custody.sessionSequence = 0) ||
      !custody.authorityGrants.grantsNothing)
    ⟨"invalid_custody_reference",
      "custody reference sequence or authority posture is invalid"⟩

end RemoteObservationCustodyReferenceV1

end ConstellationMonitor.Types

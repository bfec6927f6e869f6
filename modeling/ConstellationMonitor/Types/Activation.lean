/-
  Lifecycle facts, local acceptance, activation receipts and live activations
  (`pulse-types/src/qualification.rs`).
-/
import ConstellationMonitor.Types.Qualification

namespace ConstellationMonitor.Types

open Foundation

/-! ## Lifecycle facts -/

/-- `GenerationLifecycleKindV1`. -/
inductive GenerationLifecycleKindV1 where
  | superseded
  | revoked
  deriving DecidableEq

/-- `GenerationLifecycleFactBodyV1`. -/
structure GenerationLifecycleFactBodyV1 where
  schemaVersion : Nat
  authorityId : Text
  factSequence : Nat
  certificateDigest : DigestV1
  kind : GenerationLifecycleKindV1
  successorManifestDigest : Option DigestV1
  successorCertificateDigest : Option DigestV1
  reason : Text
  authorityGrants : AuthorityGrantsV1
  deriving DecidableEq

/-- The successor rules of `GenerationLifecycleFactBodyV1::validate`. -/
def GenerationLifecycleFactBodyV1.validateSuccessor (body : GenerationLifecycleFactBodyV1) :
    Except QualificationError Unit :=
  match body.kind with
  | .superseded =>
    match body.successorManifestDigest, body.successorCertificateDigest with
    | some manifest, some certificate => do
      qualificationDigest manifest
      qualificationDigest certificate
    | _, _ =>
      .error ⟨"invalid_lifecycle_fact",
        "supersession requires exact successor manifest and certificate"⟩
  | .revoked =>
    refuseIf (body.successorManifestDigest.isSome || body.successorCertificateDigest.isSome)
      ⟨"invalid_lifecycle_fact", "revocation cannot imply a successor activation"⟩

/-- `GenerationLifecycleFactBodyV1::validate`. -/
def GenerationLifecycleFactBodyV1.validate (body : GenerationLifecycleFactBodyV1) :
    Except QualificationError Unit := do
  validateSchema body.schemaVersion "generation lifecycle fact body"
  validateText "lifecycle.authority_id" body.authorityId
  refuseIf (decide (body.factSequence = 0))
    ⟨"invalid_lifecycle_fact", "lifecycle fact sequence must be nonzero"⟩
  qualificationDigest body.certificateDigest
  body.validateSuccessor
  validateText "lifecycle.reason" body.reason
  refuseIf (!body.authorityGrants.grantsNothing)
    ⟨"authority_laundering", "lifecycle fact cannot grant revocation or any other authority"⟩

/-- `GenerationLifecycleFactV1`. -/
structure GenerationLifecycleFactV1 where
  schemaVersion : Nat
  factDigest : DigestV1
  body : GenerationLifecycleFactBodyV1
  deriving DecidableEq

/-- `GenerationLifecycleFactV1::validate`; `bodyJson` are the serialized bytes of the
body. -/
def GenerationLifecycleFactV1.validate (sha256 : Sha256)
    (bodyJson : GenerationLifecycleFactBodyV1 → List UInt8)
    (fact : GenerationLifecycleFactV1) : Except QualificationError Unit := do
  validateSchema fact.schemaVersion "generation lifecycle fact"
  fact.body.validate
  let bytes ← canonicalEncode (bodyJson fact.body)
  refuseIf (decide (fact.factDigest ≠
      digestParts sha256 "qualified.lifecycle-fact.body.v1" [bytes]))
    ⟨"lifecycle_fact_identity_mismatch", "lifecycle fact digest does not identify its body"⟩

/-- `LocalCertificateStatusV1`. -/
inductive LocalCertificateStatusV1 where
  | accepted (observedThroughSequence : Nat)
  | unknown
  | superseded (fact : GenerationLifecycleFactV1)
  | revoked (fact : GenerationLifecycleFactV1)
  deriving DecidableEq

/-- `LocalActivationAcceptanceV1`. -/
structure LocalActivationAcceptanceV1 where
  schemaVersion : Nat
  acceptedCertificateDigest : DigestV1
  lifecycleAuthorityId : Text
  certificateStatus : LocalCertificateStatusV1
  pinnedSupersededActivationAllowed : Bool
  authorityGrants : AuthorityGrantsV1
  deriving DecidableEq

/-! ## Activation receipts -/

/-- `BindingMismatchV1`. -/
structure BindingMismatchV1 where
  code : Text
  role : Option ArtifactRoleV1
  expected : Option DigestV1
  observed : Option DigestV1
  detail : Text
  deriving DecidableEq

/-- `LocalProcessIdentityV1`. -/
structure LocalProcessIdentityV1 where
  processEpochId : IncarnationId
  processId : Nat
  linuxBootIdDigest : DigestV1
  processStartTicks : Nat
  deriving DecidableEq

/-- `ActivationReceiptBodyV1`. -/
structure ActivationReceiptBodyV1 where
  schemaVersion : Nat
  manifestDigest : Option DigestV1
  qualificationCertificateDigest : Option DigestV1
  qualificationReportDigest : Option DigestV1
  generationSet : Option QualifiedGenerationSetV1
  process : Option LocalProcessIdentityV1
  activationOccurrenceId : IncarnationId
  activationSequence : Nat
  receiverIncarnation : IncarnationId
  receiverClockId : ClockId
  activatedAtMonotonicMs : Nat
  runtimeVersion : Text
  targetPlatform : Text
  measurements : List ArtifactMeasurementV1
  state : RuntimeBindingStateV1
  mismatches : List BindingMismatchV1
  allRequiredArtifactsMeasured : Bool
  anyMeasurementCallerSupplied : Bool
  mutableAfterActivation : Bool
  independentAttestationClaimed : Bool
  authorityGrants : AuthorityGrantsV1
  deriving DecidableEq

/-- `ActivationReceiptV1`. -/
structure ActivationReceiptV1 where
  schemaVersion : Nat
  receiptDigest : DigestV1
  body : ActivationReceiptBodyV1
  deriving DecidableEq

/-- `QualifiedGenerationBindingV1`. -/
structure QualifiedGenerationBindingV1 where
  schemaVersion : Nat
  manifestDigest : DigestV1
  qualificationCertificateDigest : DigestV1
  activationReceiptDigest : DigestV1
  activationOccurrenceId : IncarnationId
  processEpochId : IncarnationId
  generationSet : QualifiedGenerationSetV1
  authorityGrants : AuthorityGrantsV1
  deriving DecidableEq

namespace QualifiedGenerationBindingV1

/-- `QualifiedGenerationBindingV1::validate`. -/
def validate (binding : QualifiedGenerationBindingV1) : Except QualificationError Unit := do
  validateSchema binding.schemaVersion "qualified generation binding"
  qualificationDigest binding.manifestDigest
  qualificationDigest binding.qualificationCertificateDigest
  qualificationDigest binding.activationReceiptDigest
  qualificationIdentity binding.activationOccurrenceId
  qualificationIdentity binding.processEpochId
  binding.generationSet.validate
  refuseIf (!binding.authorityGrants.grantsNothing)
    ⟨"authority_laundering", "qualified binding cannot grant authority"⟩

/-- `QualifiedGenerationBindingV1::identity_digest`. -/
def identityDigest (sha256 : Sha256) (binding : QualifiedGenerationBindingV1) : DigestV1 :=
  digestParts sha256 "qualified.generation-binding.v1"
    [ binding.manifestDigest.text.bytes,
      binding.qualificationCertificateDigest.text.bytes,
      binding.activationReceiptDigest.text.bytes,
      binding.activationOccurrenceId.text.bytes,
      binding.processEpochId.text.bytes,
      (binding.generationSet.identityDigest sha256).text.bytes ]

end QualifiedGenerationBindingV1

/-- `VerifiedActivationV1`: a live accepted activation.  Its fields are private and
`verify_local_activation` validates the binding before it builds one, so the validated
binding is part of the value. -/
structure VerifiedActivationV1 where
  binding : QualifiedGenerationBindingV1
  receipt : ActivationReceiptV1
  measurements : List ArtifactMeasurementV1
  /-- the binding passed its validation -/
  bindingValid : binding.validate = .ok ()

/-- `LocalActivationContextV1`. -/
structure LocalActivationContextV1 where
  expectedGenerationSet : QualifiedGenerationSetV1
  receiverIncarnation : IncarnationId
  receiverClockId : ClockId
  activatedAtMonotonicMs : Nat
  runtimeVersion : Text
  targetPlatform : Text
  semanticMeasurements : List ArtifactMeasurementV1

/-- `LocalActivationAttemptV1`. -/
structure LocalActivationAttemptV1 where
  receipt : ActivationReceiptV1
  accepted : Option VerifiedActivationV1

/-- `SemanticContractIdentityV1`. -/
structure SemanticContractIdentityV1 where
  name : Text
  version : Nat
  digest : DigestV1
  deriving DecidableEq

end ConstellationMonitor.Types

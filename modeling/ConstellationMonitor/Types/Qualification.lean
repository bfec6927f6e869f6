/-
  Qualified-generation records the runtime holds and checks
  (`pulse-types/src/qualification.rs`): artifact measurements, lifecycle facts, local
  acceptance, activation receipts and the live binding.

  Verification of a qualification package against the running process reads the operating
  system; the runtime model takes its outcome as an input.
-/
import ConstellationMonitor.Types.Judgment

namespace ConstellationMonitor.Types

open Foundation

/-- `MAX_QUALIFICATION_PACKAGE_BYTES`. -/
def maxQualificationPackageBytes : Nat := 2 * 1024 * 1024

/-- `MAX_QUALIFICATION_STRING_BYTES`. -/
def maxQualificationStringBytes : Nat := 1024

/-- `QualificationError`. -/
structure QualificationError where
  code : Text
  detail : Text
  deriving DecidableEq

/-- `IdentityError`'s `Display`. -/
def IdentityError.display (error : IdentityError) : Text :=
  "invalid " ++ error.field ++ ": " ++ error.reason

/-- An identity check with its error turned into a qualification error. -/
def qualificationIdentity {kind : IdentityKind} (identity : Identity kind) :
    Except QualificationError Unit :=
  identity.validate.mapError fun error => ⟨"invalid_identity", error.display⟩

/-- A digest check with its error turned into a qualification error. -/
def qualificationDigest (digest : DigestV1) : Except QualificationError Unit :=
  digest.validate.mapError fun error => ⟨"invalid_digest", error⟩

/-- `validate_schema`. -/
def validateSchema (version : Nat) (label : Text) : Except QualificationError Unit :=
  refuseIf (decide (version ≠ schemaVersionV1))
    ⟨"unsupported_version", label ++ " schema version is unsupported"⟩

/-- `validate_text`. -/
def validateText (field value : Text) : Except QualificationError Unit :=
  refuseIf (value.isEmpty || decide (value.length > maxQualificationStringBytes) ||
      value.hasControl)
    ⟨"invalid_text", field ++ " is empty, over its bound, or contains control characters"⟩

/-- The bound `canonical_encode` puts on the bytes of a serialized value. -/
def canonicalEncode (bytes : List UInt8) : Except QualificationError (List UInt8) :=
  if bytes.length > maxQualificationPackageBytes then
    .error ⟨"bound_exceeded", "canonical object exceeds the package byte bound"⟩
  else .ok bytes

/-- `artifact_content_digest`. -/
def artifactContentDigest (sha256 : Sha256) (bytes : List UInt8) : DigestV1 :=
  digestParts sha256 "qualified.artifact-content.v1" [bytes]

/-! ## Authority -/

/-- `AuthorityGrantV1`. -/
inductive AuthorityGrantV1 where
  | none
  deriving DecidableEq

/-- `AuthorityGrantsV1`: every field has one value only, so nothing can be granted. -/
structure AuthorityGrantsV1 where
  continuation : AuthorityGrantV1 := .none
  diagnosticExecution : AuthorityGrantV1 := .none
  deployment : AuthorityGrantV1 := .none
  signing : AuthorityGrantV1 := .none
  revocation : AuthorityGrantV1 := .none
  mutation : MutationAuthorityV1 := .none
  deriving DecidableEq

/-- `AuthorityGrantsV1::grants_nothing`. -/
def AuthorityGrantsV1.grantsNothing (grants : AuthorityGrantsV1) : Bool :=
  decide (grants.continuation = .none) && decide (grants.diagnosticExecution = .none) &&
    decide (grants.deployment = .none) && decide (grants.signing = .none) &&
    decide (grants.revocation = .none) && decide (grants.mutation = .none)

/-! ## Measured artifacts -/

/-- `ArtifactRoleV1`. -/
inductive ArtifactRoleV1 where
  | runningExecutable
  | evaluatorImplementation
  | reliancePolicy
  | consumerProfile
  | observerSet
  | observationPolicy
  | runtimeConfiguration
  | semanticContracts
  | qualificationCorpus
  | qualificationResults
  deriving DecidableEq

/-- `RuntimeBindingStateV1`. -/
inductive RuntimeBindingStateV1 where
  | unbound
  | bindingPending
  | qualifiedAndMatched
  | missingCertificate
  | unsupportedCertificate
  | manifestMismatch
  | executableMismatch
  | evaluatorMismatch
  | policyMismatch
  | profileMismatch
  | observerSetMismatch
  | observationPolicyMismatch
  | configurationMismatch
  | contractMismatch
  | qualificationEvidenceMissing
  | superseded
  | revoked
  | mutableAfterActivation
  | measurementUnavailable
  | ambiguous
  deriving DecidableEq

/-- The variant name, as the derived `Debug` prints it. -/
def RuntimeBindingStateV1.debug : RuntimeBindingStateV1 → Text
  | .unbound => "Unbound"
  | .bindingPending => "BindingPending"
  | .qualifiedAndMatched => "QualifiedAndMatched"
  | .missingCertificate => "MissingCertificate"
  | .unsupportedCertificate => "UnsupportedCertificate"
  | .manifestMismatch => "ManifestMismatch"
  | .executableMismatch => "ExecutableMismatch"
  | .evaluatorMismatch => "EvaluatorMismatch"
  | .policyMismatch => "PolicyMismatch"
  | .profileMismatch => "ProfileMismatch"
  | .observerSetMismatch => "ObserverSetMismatch"
  | .observationPolicyMismatch => "ObservationPolicyMismatch"
  | .configurationMismatch => "ConfigurationMismatch"
  | .contractMismatch => "ContractMismatch"
  | .qualificationEvidenceMissing => "QualificationEvidenceMissing"
  | .superseded => "Superseded"
  | .revoked => "Revoked"
  | .mutableAfterActivation => "MutableAfterActivation"
  | .measurementUnavailable => "MeasurementUnavailable"
  | .ambiguous => "Ambiguous"

/-- `ArtifactRoleV1::mismatch_state`. -/
def ArtifactRoleV1.mismatchState : ArtifactRoleV1 → RuntimeBindingStateV1
  | .runningExecutable => .executableMismatch
  | .evaluatorImplementation => .evaluatorMismatch
  | .reliancePolicy => .policyMismatch
  | .consumerProfile => .profileMismatch
  | .observerSet => .observerSetMismatch
  | .observationPolicy => .observationPolicyMismatch
  | .runtimeConfiguration => .configurationMismatch
  | .semanticContracts => .contractMismatch
  | .qualificationCorpus => .qualificationEvidenceMissing
  | .qualificationResults => .qualificationEvidenceMissing

/-- The variant name, as the derived `Debug` prints it. -/
def ArtifactRoleV1.debug : ArtifactRoleV1 → Text
  | .runningExecutable => "RunningExecutable"
  | .evaluatorImplementation => "EvaluatorImplementation"
  | .reliancePolicy => "ReliancePolicy"
  | .consumerProfile => "ConsumerProfile"
  | .observerSet => "ObserverSet"
  | .observationPolicy => "ObservationPolicy"
  | .runtimeConfiguration => "RuntimeConfiguration"
  | .semanticContracts => "SemanticContracts"
  | .qualificationCorpus => "QualificationCorpus"
  | .qualificationResults => "QualificationResults"

/-- `MeasurementProvenanceV1`. -/
inductive MeasurementProvenanceV1 where
  | procSelfExeOpenedHandle (linkLabel : Text) (device inode : Nat)
  | embeddedArtifact (name : Text)
  | ownedCanonicalValue (typeName : Text)
  deriving DecidableEq

/-- `ArtifactMeasurementV1`. -/
structure ArtifactMeasurementV1 where
  role : ArtifactRoleV1
  contentDigest : DigestV1
  byteLength : Nat
  provenance : MeasurementProvenanceV1
  callerSupplied : Bool
  deriving DecidableEq

/-! ## Reliance contexts and generation sets -/

/-- `RuntimeTypeError` (`runtime.rs`). -/
structure RuntimeTypeError where
  code : Text
  detail : Text
  deriving DecidableEq

/-- `RuntimeTypeError::identity`. -/
def RuntimeTypeError.identity (field : Text) : RuntimeTypeError :=
  ⟨"invalid_identity", field⟩

/-- `RelianceContextV1` (`runtime.rs`): every input whose change withdraws a result. -/
structure RelianceContextV1 where
  schemaVersion : Nat
  activationId : ContextActivationId
  reliancePolicyGeneration : PolicyGenerationId
  reliancePolicySemanticDigest : DigestV1
  consumerProfileGeneration : ConsumerProfileGenerationId
  evaluatorSemanticGeneration : EvaluatorSemanticGenerationId
  observerSetGeneration : ObserverSetGenerationId
  observationPolicyGeneration : ObservationPolicyGenerationId
  deriving DecidableEq

namespace RelianceContextV1

/-- `RelianceContextV1::validate`. -/
def validate (context : RelianceContextV1) : Except RuntimeTypeError Unit := do
  refuseIf (decide (context.schemaVersion ≠ schemaVersionV1))
    ⟨"unsupported_schema", "reliance context schema is unsupported"⟩
  context.activationId.validate.mapError fun _ => .identity "activation_id"
  context.reliancePolicyGeneration.validate.mapError fun _ =>
    .identity "reliance_policy_generation"
  context.reliancePolicySemanticDigest.validate.mapError fun _ =>
    ⟨"invalid_digest", "invalid policy digest"⟩
  context.consumerProfileGeneration.validate.mapError fun _ =>
    .identity "consumer_profile_generation"
  context.evaluatorSemanticGeneration.validate.mapError fun _ =>
    .identity "evaluator_semantic_generation"
  context.observerSetGeneration.validate.mapError fun _ =>
    .identity "observer_set_generation"
  context.observationPolicyGeneration.validate.mapError fun _ =>
    .identity "observation_policy_generation"

/-- `RelianceContextV1::identity_digest`. -/
def identityDigest (sha256 : Sha256) (context : RelianceContextV1) : DigestV1 :=
  digestParts sha256 "reliance.context.v1"
    [ context.activationId.text.bytes,
      context.reliancePolicyGeneration.text.bytes,
      context.reliancePolicySemanticDigest.text.bytes,
      context.consumerProfileGeneration.text.bytes,
      context.evaluatorSemanticGeneration.text.bytes,
      context.observerSetGeneration.text.bytes,
      context.observationPolicyGeneration.text.bytes ]

end RelianceContextV1

/-- `QualifiedGenerationSetV1`. -/
structure QualifiedGenerationSetV1 where
  subject : SubjectId
  consumer : ConsumerId
  reliancePolicyGeneration : PolicyGenerationId
  reliancePolicySemanticDigest : DigestV1
  consumerProfileGeneration : ConsumerProfileGenerationId
  evaluatorSemanticGeneration : EvaluatorSemanticGenerationId
  observerSetGeneration : ObserverSetGenerationId
  observationPolicyGeneration : ObservationPolicyGenerationId
  deriving DecidableEq

namespace QualifiedGenerationSetV1

/-- `QualifiedGenerationSetV1::from_context`. -/
def fromContext (subject : SubjectId) (consumer : ConsumerId) (context : RelianceContextV1) :
    QualifiedGenerationSetV1 where
  subject := subject
  consumer := consumer
  reliancePolicyGeneration := context.reliancePolicyGeneration
  reliancePolicySemanticDigest := context.reliancePolicySemanticDigest
  consumerProfileGeneration := context.consumerProfileGeneration
  evaluatorSemanticGeneration := context.evaluatorSemanticGeneration
  observerSetGeneration := context.observerSetGeneration
  observationPolicyGeneration := context.observationPolicyGeneration

/-- `QualifiedGenerationSetV1::validate`. -/
def validate (set : QualifiedGenerationSetV1) : Except QualificationError Unit := do
  qualificationIdentity set.subject
  qualificationIdentity set.consumer
  qualificationIdentity set.reliancePolicyGeneration
  qualificationDigest set.reliancePolicySemanticDigest
  qualificationIdentity set.consumerProfileGeneration
  qualificationIdentity set.evaluatorSemanticGeneration
  qualificationIdentity set.observerSetGeneration
  qualificationIdentity set.observationPolicyGeneration

/-- `QualifiedGenerationSetV1::matches_context`. -/
def matchesContext (set : QualifiedGenerationSetV1) (context : RelianceContextV1) : Bool :=
  decide (set.reliancePolicyGeneration = context.reliancePolicyGeneration) &&
    decide (set.reliancePolicySemanticDigest = context.reliancePolicySemanticDigest) &&
    decide (set.consumerProfileGeneration = context.consumerProfileGeneration) &&
    decide (set.evaluatorSemanticGeneration = context.evaluatorSemanticGeneration) &&
    decide (set.observerSetGeneration = context.observerSetGeneration) &&
    decide (set.observationPolicyGeneration = context.observationPolicyGeneration)

/-- `QualifiedGenerationSetV1::identity_digest`. -/
def identityDigest (sha256 : Sha256) (set : QualifiedGenerationSetV1) : DigestV1 :=
  digestParts sha256 "qualified.generation-set.v1"
    [ set.subject.text.bytes,
      set.consumer.text.bytes,
      set.reliancePolicyGeneration.text.bytes,
      set.reliancePolicySemanticDigest.text.bytes,
      set.consumerProfileGeneration.text.bytes,
      set.evaluatorSemanticGeneration.text.bytes,
      set.observerSetGeneration.text.bytes,
      set.observationPolicyGeneration.text.bytes ]

end QualifiedGenerationSetV1

end ConstellationMonitor.Types

/-
  The artifacts the runtime measures of itself (`pulse-runtime/src/binding.rs`) and the
  outside code it runs on.

  An artifact is measured through its canonical JSON bytes.  The serializer, the
  verification of an activation package and the probe of the running executable are
  outside code: they are the parameters of a `Host`.
-/
import ConstellationMonitor.Runtime.Config

namespace ConstellationMonitor.Runtime

open Foundation ConstellationMonitor.Types Evaluation

/-! ## Artifact documents -/

/-- `CanonicalToleranceV1`. -/
structure CanonicalToleranceV1 where
  signal : Text
  valueBits : UInt64

/-- `CanonicalFailureDomainV1`. -/
structure CanonicalFailureDomainV1 where
  observer : Text
  failureDomain : Text

/-- `CanonicalEscalationPolicyV1`. -/
structure CanonicalEscalationPolicyV1 where
  triggers : List Text
  diagnosticProfileName : Text
  diagnosticProfileVersion : Nat
  diagnosticProfileDigest : DigestV1
  maximumRuntimeMs : Nat
  maximumOutputBytes : Nat
  maximumObservations : Nat
  requestTtlMs : Nat

/-- `CanonicalReliancePolicyArtifactV1`. -/
structure CanonicalReliancePolicyArtifactV1 where
  schemaVersion : Nat
  subject : SubjectId
  scope : Text
  consumer : ConsumerId
  generation : PolicyGenerationId
  observationPolicyGeneration : ObservationPolicyGenerationId
  observationProfile : ObservationProfileIdV1
  requiredCoverage : List Text
  minimumObservers : Nat
  maximumValidityMs : Nat
  requireVerifiedAuthentication : Bool
  coherenceTolerances : List CanonicalToleranceV1
  observerFailureDomains : List CanonicalFailureDomainV1
  escalation : Option CanonicalEscalationPolicyV1

/-- `EvaluatorImplementationArtifactV1`. -/
structure EvaluatorImplementationArtifactV1 where
  schemaVersion : Nat
  evaluatorGeneration : EvaluatorSemanticGenerationId
  embeddedImplementationMarkerDigest : DigestV1
  executableContainsImplementation : Bool
  sourceToBinaryCorrespondenceClaimed : Bool

/-- `ConsumerProfileArtifactV1`. -/
structure ConsumerProfileArtifactV1 where
  schemaVersion : Nat
  generation : ConsumerProfileGenerationId
  consumer : ConsumerId
  subject : SubjectId
  scope : Text
  relianceContract : Text

/-- `ObserverSetArtifactV1`. -/
structure ObserverSetArtifactV1 where
  schemaVersion : Nat
  generation : ObserverSetGenerationId
  minimumObservers : Nat
  failureDomains : List CanonicalFailureDomainV1

/-- `ObservationPolicyArtifactV1`. -/
structure ObservationPolicyArtifactV1 where
  schemaVersion : Nat
  generation : ObservationPolicyGenerationId
  profile : ObservationProfileIdV1
  admittedCoverage : List Text

/-- `RuntimeConfigurationArtifactV1`. -/
structure RuntimeConfigurationArtifactV1 where
  schemaVersion : Nat
  receiver : ReceiverId
  bounds : RuntimeBoundsV1
  transportCustodyPolicy : Option TransportCustodyPolicyBindingV1
  receiverIncarnationIsProcessOccurrence : Bool
  receiverClockIsProcessOccurrence : Bool
  deadlineCustodyContract : Text
  historyRestartsUnknown : Bool

/-- `SemanticContractsArtifactV1`. -/
structure SemanticContractsArtifactV1 where
  schemaVersion : Nat
  contracts : List SemanticContractIdentityV1

/-- The document behind a measured artifact. -/
inductive ArtifactDocument where
  | evaluatorImplementation (artifact : EvaluatorImplementationArtifactV1)
  | reliancePolicy (artifact : CanonicalReliancePolicyArtifactV1)
  | consumerProfile (artifact : ConsumerProfileArtifactV1)
  | observerSet (artifact : ObserverSetArtifactV1)
  | observationPolicy (artifact : ObservationPolicyArtifactV1)
  | runtimeConfiguration (artifact : RuntimeConfigurationArtifactV1)
  | semanticContracts (artifact : SemanticContractsArtifactV1)

/-! ## The host -/

/-- Outside code the runtime rests on.  The operating system answers its probes in the
order they are made, so a probe is given its number. -/
structure Host extends Platform where
  /-- `serde_json::to_vec` of a measured artifact -/
  artifactJson : ArtifactDocument → List UInt8
  /-- `CARGO_PKG_VERSION` -/
  runtimeVersion : Text
  /-- the architecture and operating system names -/
  targetPlatform : Text
  /-- `verify_local_activation` on the bytes of a package, an acceptance and a context -/
  verifyLocalActivation : Option (List UInt8) → Option (List UInt8) → Option (List UInt8) →
    LocalActivationAcceptanceV1 → LocalActivationContextV1 → Nat →
    Except QualificationError LocalActivationAttemptV1
  /-- `VerifiedActivationV1::revalidate_executable` -/
  revalidateExecutable : VerifiedActivationV1 → Nat → Except QualificationError Unit

/-! ## Measurements -/

/-- `EVALUATOR_IMPLEMENTATION_MARKER`. -/
def evaluatorImplementationMarker : Text :=
  "monitor-skunkworks/pulse-evaluator/consumer-indexed-evaluator/v1\ncategory-precedence=contradicted,suspect,unknown,degraded,current\nreceiver-owned-freshness=true\nscalar-confidence=false\n"

/-- `RUNTIME_BINDING_CONTRACT`. -/
def runtimeBindingContract : Text :=
  "monitor-skunkworks/qualified-generation-binding/v1\ndeclared!=qualified!=activated\ncurrent-requires-qualified-and-matched=true\n"

/-- `SUPPORT_CERTIFICATE_CONTRACT`. -/
def supportCertificateContract : Text :=
  "monitor-skunkworks/reliance-support-certificate/v2\nqualified-generation-binding-required-for-current=true\nmutation-authority=none\n"

/-- `REMOTE_SUPPORT_CERTIFICATE_CONTRACT`. -/
def remoteSupportCertificateContract : Text :=
  "monitor-skunkworks/reliance-support-certificate/v3\nqualified-generation-binding-required-for-current=true\nremote-custody-is-exact-and-receiver-anchored=true\nmutation-authority=none\n"

/-- `RECEIVER_BOUNDARY_CONTRACT`. -/
def receiverBoundaryContract : Text :=
  "monitor-skunkworks/receiver-boundary-custody/v1\nauthenticated-transport!=sender-activation!=receiver-admission!=reliance\nreceiver-owned-arrival-freshness=true\n"

/-- `runtime_semantic_contracts_for_config`; both inventories are listed by name. -/
def runtimeSemanticContractsForConfig (sha256 : Sha256) (config : RuntimeConfigV1) :
    List SemanticContractIdentityV1 :=
  let contract (name : Text) (version : Nat) (body : Text) : SemanticContractIdentityV1 :=
    ⟨name, version, artifactContentDigest sha256 body.bytes⟩
  if config.transportCustodyPolicy.isNone then
    [ contract "monitor.qualified_generation_binding" 1 runtimeBindingContract,
      contract "monitor.reliance_support_certificate" 2 supportCertificateContract,
      contract "monitor.runtime_evaluator" 1 evaluatorImplementationMarker ]
  else
    [ contract "monitor.qualified_generation_binding" 1 runtimeBindingContract,
      contract "monitor.receiver_boundary_custody" 1 receiverBoundaryContract,
      contract "monitor.reliance_support_certificate" 3 remoteSupportCertificateContract,
      contract "monitor.runtime_evaluator" 1 evaluatorImplementationMarker ]

/-- `canonical_escalation`. -/
def canonicalEscalation (policy : EscalationPolicyV1) : CanonicalEscalationPolicyV1 where
  triggers := policy.triggers.toList.map EscalationTriggerClassV1.asStr
  diagnosticProfileName := policy.diagnosticProfile.name
  diagnosticProfileVersion := policy.diagnosticProfile.version
  diagnosticProfileDigest := policy.diagnosticProfile.semanticDigest
  maximumRuntimeMs := policy.bounds.maximumRuntimeMs
  maximumOutputBytes := policy.bounds.maximumOutputBytes
  maximumObservations := policy.bounds.maximumObservations
  requestTtlMs := policy.requestTtlMs

/-- The failure domains of a policy, in canonical form. -/
def canonicalFailureDomains (policy : ReliancePolicyV1) : List CanonicalFailureDomainV1 :=
  policy.observerFailureDomains.toList.map fun entry => ⟨entry.1, entry.2⟩

/-- `CanonicalReliancePolicyArtifactV1::from`. -/
def CanonicalReliancePolicyArtifactV1.ofPolicy (policy : ReliancePolicyV1) :
    CanonicalReliancePolicyArtifactV1 where
  schemaVersion := policy.schemaVersion
  subject := policy.subject
  scope := policy.scope
  consumer := policy.consumer
  generation := policy.generation
  observationPolicyGeneration := policy.observationPolicyGeneration
  observationProfile := policy.observationProfile
  requiredCoverage := policy.requiredCoverage
  minimumObservers := policy.minimumObservers
  maximumValidityMs := policy.maximumValidityMs
  requireVerifiedAuthentication := policy.requireVerifiedAuthentication
  coherenceTolerances := policy.coherenceTolerances.toList.map fun entry =>
    ⟨entry.1, entry.2.bits⟩
  observerFailureDomains := canonicalFailureDomains policy
  escalation := policy.escalation.map canonicalEscalation

/-- The provenance of a value the runtime owns and serializes itself. -/
def ownedValue (typeName : Text) : MeasurementProvenanceV1 := .ownedCanonicalValue typeName

/-- The documents of `active_runtime_artifact_payloads` with their roles and provenance,
in the order of the roles. -/
def activeRuntimeArtifacts (sha256 : Sha256) (config : RuntimeConfigV1)
    (registration : ConsumerRegistrationV1) :
    List (ArtifactRoleV1 × ArtifactDocument × MeasurementProvenanceV1) :=
  [ (.evaluatorImplementation,
      .evaluatorImplementation
        { schemaVersion := schemaVersionV1
          evaluatorGeneration := registration.context.evaluatorSemanticGeneration
          embeddedImplementationMarkerDigest :=
            artifactContentDigest sha256 evaluatorImplementationMarker.bytes
          executableContainsImplementation := true
          sourceToBinaryCorrespondenceClaimed := false },
      ownedValue "EvaluatorImplementationArtifactV1"),
    (.reliancePolicy,
      .reliancePolicy (.ofPolicy registration.policy),
      ownedValue "CanonicalReliancePolicyArtifactV1"),
    (.consumerProfile,
      .consumerProfile
        { schemaVersion := schemaVersionV1
          generation := registration.context.consumerProfileGeneration
          consumer := registration.policy.consumer
          subject := registration.policy.subject
          scope := registration.policy.scope
          relianceContract := "consumer-indexed-present-reliance/v1" },
      ownedValue "ConsumerProfileArtifactV1"),
    (.observerSet,
      .observerSet
        { schemaVersion := schemaVersionV1
          generation := registration.context.observerSetGeneration
          minimumObservers := registration.policy.minimumObservers
          failureDomains := canonicalFailureDomains registration.policy },
      ownedValue "ObserverSetArtifactV1"),
    (.observationPolicy,
      .observationPolicy
        { schemaVersion := schemaVersionV1
          generation := registration.context.observationPolicyGeneration
          profile := registration.policy.observationProfile
          admittedCoverage := registration.policy.requiredCoverage },
      ownedValue "ObservationPolicyArtifactV1"),
    (.runtimeConfiguration,
      .runtimeConfiguration
        { schemaVersion := schemaVersionV1
          receiver := config.receiver
          bounds := config.bounds
          transportCustodyPolicy := config.transportCustodyPolicy
          receiverIncarnationIsProcessOccurrence := true
          receiverClockIsProcessOccurrence := true
          deadlineCustodyContract := "receiver-owned-inclusive-support-expiry/v1"
          historyRestartsUnknown := true },
      ownedValue "RuntimeConfigurationArtifactV1"),
    (.semanticContracts,
      .semanticContracts
        { schemaVersion := schemaVersionV1
          contracts := runtimeSemanticContractsForConfig sha256 config },
      .embeddedArtifact "pulse-runtime semantic contract inventory") ]

/-- `RuntimeArtifactPayloadV1::measurement` of a document's canonical bytes. -/
def measureArtifact (host : Host)
    (artifact : ArtifactRoleV1 × ArtifactDocument × MeasurementProvenanceV1) :
    Except QualificationError ArtifactMeasurementV1 := do
  let bytes ← canonicalEncode (host.artifactJson artifact.2.1)
  return { role := artifact.1
           contentDigest := artifactContentDigest host.sha256 bytes
           byteLength := bytes.length
           provenance := artifact.2.2
           callerSupplied := false }

/-- `active_runtime_measurements`. -/
def activeRuntimeMeasurements (host : Host) (config : RuntimeConfigV1)
    (registration : ConsumerRegistrationV1) :
    Except QualificationError (List ArtifactMeasurementV1) :=
  (activeRuntimeArtifacts host.sha256 config registration).mapM (measureArtifact host)

end ConstellationMonitor.Runtime

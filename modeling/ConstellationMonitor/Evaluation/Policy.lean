/-
  Consumer reliance policies (`pulse-evaluator/src/policy.rs`).
-/
import ConstellationMonitor.Types.Pulse
import ConstellationMonitor.Types.Escalation

namespace ConstellationMonitor.Evaluation

open Foundation ConstellationMonitor.Types
open Std (ExtTreeMap ExtTreeSet)

/-- `EscalationPolicyV1`. -/
structure EscalationPolicyV1 where
  triggers : ExtTreeSet EscalationTriggerClassV1
  diagnosticProfile : DiagnosticProfileIdV1
  bounds : DiagnosticBoundsV1
  requestTtlMs : Nat

/-- `ReliancePolicyV1`. -/
structure ReliancePolicyV1 where
  schemaVersion : Nat
  subject : SubjectId
  scope : Text
  consumer : ConsumerId
  generation : PolicyGenerationId
  observationPolicyGeneration : ObservationPolicyGenerationId
  observationProfile : ObservationProfileIdV1
  requiredCoverage : List Text
  minimumObservers : Nat
  maximumValidityMs : Nat
  requireVerifiedAuthentication : Bool
  coherenceTolerances : ExtTreeMap Text Float64
  observerFailureDomains : ExtTreeMap Text Text
  escalation : Option EscalationPolicyV1

namespace ReliancePolicyV1

/-- `ReliancePolicyV1::validate`, with the text of `PolicyError`. -/
def validate (policy : ReliancePolicyV1) : Except Text Unit := do
  refuseIf (decide (policy.schemaVersion ≠ schemaVersionV1)) "unsupported policy schema"
  policy.subject.validate.mapError fun _ => "invalid subject identity"
  policy.consumer.validate.mapError fun _ => "invalid consumer identity"
  policy.generation.validate.mapError fun _ => "invalid policy generation"
  policy.observationPolicyGeneration.validate.mapError fun _ =>
    "invalid observation policy generation"
  policy.observationProfile.validate.mapError fun _ => "invalid observation profile"
  refuseIf policy.scope.isEmpty "scope is empty"
  refuseIf (decide (policy.minimumObservers = 0)) "minimum observers must be nonzero"
  refuseIf (decide (policy.maximumValidityMs = 0)) "maximum validity must be nonzero"
  refuseIf policy.requiredCoverage.isEmpty "required coverage is empty"
  refuseIf (!strictlySorted policy.requiredCoverage)
    "required coverage must be unique and sorted"
  refuseIf (policy.coherenceTolerances.values.any fun value =>
      !value.isFinite || value.isNegative)
    "coherence tolerances must be finite and non-negative"
  refuseIf (policy.escalation.any fun escalation =>
      escalation.triggers.isEmpty || !escalation.bounds.isNonzero ||
        decide (escalation.requestTtlMs = 0))
    "escalation policy is incomplete"

/-- The transcript entries of the escalation section. -/
def escalationTranscript (escalation : EscalationPolicyV1) : List (List UInt8) :=
  [(Text.ofString "escalation").bytes] ++
    (escalation.triggers.toList.map fun trigger => trigger.asStr.bytes) ++
    [ escalation.diagnosticProfile.name.bytes,
      beBytes 2 escalation.diagnosticProfile.version,
      escalation.diagnosticProfile.semanticDigest.text.bytes,
      beBytes 8 escalation.bounds.maximumRuntimeMs,
      beBytes 8 escalation.bounds.maximumOutputBytes,
      beBytes 4 escalation.bounds.maximumObservations,
      beBytes 8 escalation.requestTtlMs ]

/-- `ReliancePolicyV1::semantic_digest`: the body without its generation. -/
def semanticDigest (sha256 : Sha256) (policy : ReliancePolicyV1) : DigestV1 :=
  digestParts sha256 "reliance.policy.body.v1" <|
    [ beBytes 2 policy.schemaVersion,
      policy.subject.text.bytes,
      policy.scope.bytes,
      policy.consumer.text.bytes,
      policy.observationPolicyGeneration.text.bytes,
      policy.observationProfile.name.bytes,
      beBytes 2 policy.observationProfile.version,
      policy.observationProfile.semanticDigest.text.bytes,
      beBytes 4 policy.minimumObservers,
      beBytes 8 policy.maximumValidityMs,
      [if policy.requireVerifiedAuthentication then 1 else 0] ] ++
    (policy.requiredCoverage.flatMap fun tag =>
      [(Text.ofString "coverage").bytes, tag.bytes]) ++
    (policy.coherenceTolerances.toList.flatMap fun entry =>
      [ (Text.ofString "coherence").bytes, entry.1.bytes,
        beBytes 8 entry.2.bits.toNat ]) ++
    (policy.observerFailureDomains.toList.flatMap fun entry =>
      [(Text.ofString "failure-domain").bytes, entry.1.bytes, entry.2.bytes]) ++
    (policy.escalation.toList.flatMap escalationTranscript)

end ReliancePolicyV1

end ConstellationMonitor.Evaluation

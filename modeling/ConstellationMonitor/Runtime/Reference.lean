/-
  A reference deployment, after the fixtures of `pulse-runtime/tests/runtime_qualification.rs`:
  one subject, one observation profile, consumers that need one observer and escalate.

  Statements about concrete runs take their inputs from here.  A run is a list of
  operations; `runs` gives the state it leads to, and every state it gives is reachable.
-/
import ConstellationMonitor.Runtime.Runs
import ConstellationMonitor.Evaluation.Reference

namespace ConstellationMonitor.Runtime

open Foundation ConstellationMonitor.Types Evaluation
open Std (ExtTreeSet)

/-! ## Runs as lists of operations -/

/-- The state after a list of calls, if each of them returned. -/
def after (host : Host) (operations : List Operation) (cycle : Cycle) : Option Cycle :=
  operations.foldlM (fun cycle operation => match operation.perform host cycle with
    | .ok _ next => some next
    | .error stop next => if stop.returns then some next else none) cycle

/-- The state after a list of calls, if each of them returned `Ok`. -/
def afterOk (host : Host) (operations : List Operation) (cycle : Cycle) : Option Cycle :=
  operations.foldlM (fun cycle operation => match operation.perform host cycle with
    | .ok _ next => some next
    | .error _ _ => none) cycle

variable {operations : List Operation} {cycle : Cycle}

theorem reaches_of_after {host : Host} {first last : Cycle}
    (h : after host operations first = some last) : Reaches host first last := by
  refine foldlM_keeps_some _ (fun cycle operation next hround hfirst => ?_) h .refl
  refine .tail hfirst ⟨operation, ?_⟩
  split at hround <;> simp_all [Returns]

theorem reachesOk_of_afterOk {host : Host} {first last : Cycle}
    (h : afterOk host operations first = some last) : ReachesOk host first last := by
  refine foldlM_keeps_some _ (fun cycle operation next hround hfirst => ?_) h .refl
  refine .tail hfirst ⟨operation, ?_⟩
  split at hround <;> simp_all [Succeeds]

/-- A new runtime, as a cycle. -/
def started (config : RuntimeConfigV1) : Option Cycle :=
  (ReceiverSchedulerRuntime.new config).toOption.map fun runtime =>
    { toReceiverSchedulerRuntime := runtime }

theorem starts_of_started {host : Host} {config : RuntimeConfigV1}
    (h : started config = some cycle) : Starts host cycle := by
  obtain ⟨runtime, hnew, rfl⟩ := Option.map_eq_some_iff.mp h
  exact .new (toOption_eq_some.mp hnew)

/-- The state a new runtime is in after a list of calls. -/
def runs (host : Host) (config : RuntimeConfigV1) (operations : List Operation) : Option Cycle :=
  (started config).bind (after host operations)

/-- The state a new runtime is in after a list of calls that all returned `Ok`. -/
def runsOk (host : Host) (config : RuntimeConfigV1) (operations : List Operation) :
    Option Cycle :=
  (started config).bind (afterOk host operations)

theorem reachable_of_runs {host : Host} {config : RuntimeConfigV1}
    (h : runs host config operations = some cycle) : Reachable host cycle := by
  obtain ⟨start, hstart, hafter⟩ := Option.bind_eq_some_iff.mp h
  exact ⟨start, starts_of_started hstart, reaches_of_after hafter⟩

theorem reachableOk_of_runsOk {host : Host} {config : RuntimeConfigV1}
    (h : runsOk host config operations = some cycle) : ReachableOk host cycle := by
  obtain ⟨start, hstart, hafter⟩ := Option.bind_eq_some_iff.mp h
  exact ⟨start, starts_of_started hstart, reachesOk_of_afterOk hafter⟩

/-- The end of a run that passes a test, if it does. -/
def runsTo (host : Host) (config : RuntimeConfigV1) (operations : List Operation)
    (test : Cycle → Bool) : Option Cycle :=
  (runsOk host config operations).filter test

theorem runsTo_get {host : Host} {config : RuntimeConfigV1} {test : Cycle → Bool}
    (h : (runsTo host config operations test).isSome = true) :
    ReachableOk host ((runsTo host config operations test).get h) ∧
      test ((runsTo host config operations test).get h) = true := by
  have hget := (Option.some_get h).symm
  obtain ⟨hrun, htest⟩ := Option.filter_eq_some_iff.mp hget
  exact ⟨reachableOk_of_runsOk hrun, htest⟩

/-- A test passed at the end of a run passes in a reachable state. -/
theorem exists_reachable (host : Host) (config : RuntimeConfigV1)
    (operations : List Operation) (test : Cycle → Bool)
    (h : (runs host config operations).any test = true) :
    ∃ cycle, Reachable host cycle ∧ test cycle = true := by
  cases hrun : runs host config operations with
  | none => simp [hrun] at h
  | some cycle => exact ⟨cycle, reachable_of_runs hrun, by simpa [hrun] using h⟩

namespace Reference

open Evaluation.Reference (sha256 digest)

/-! ## Host -/

/-- The receipt of a local activation that matched. -/
def activationReceipt (context : LocalActivationContextV1) : ActivationReceiptV1 where
  schemaVersion := 1
  receiptDigest := digest "receipt"
  body :=
    { schemaVersion := 1
      manifestDigest := none
      qualificationCertificateDigest := none
      qualificationReportDigest := none
      generationSet := none
      process := none
      activationOccurrenceId := "occurrence"
      activationSequence := 1
      receiverIncarnation := context.receiverIncarnation
      receiverClockId := context.receiverClockId
      activatedAtMonotonicMs := context.activatedAtMonotonicMs
      runtimeVersion := context.runtimeVersion
      targetPlatform := context.targetPlatform
      measurements := []
      state := .qualifiedAndMatched
      mismatches := []
      allRequiredArtifactsMeasured := true
      anyMeasurementCallerSupplied := false
      mutableAfterActivation := false
      independentAttestationClaimed := false
      authorityGrants := {} }

/-- The binding of a local activation that matched. -/
def activationBinding (acceptance : LocalActivationAcceptanceV1)
    (context : LocalActivationContextV1) : QualifiedGenerationBindingV1 where
  schemaVersion := 1
  manifestDigest := digest "manifest"
  qualificationCertificateDigest := acceptance.acceptedCertificateDigest
  activationReceiptDigest := digest "receipt"
  activationOccurrenceId := "occurrence"
  processEpochId := "process"
  generationSet := context.expectedGenerationSet
  authorityGrants := {}

/-- A local activation of the generation the context expects. -/
def activationAttempt (acceptance : LocalActivationAcceptanceV1)
    (context : LocalActivationContextV1) : LocalActivationAttemptV1 :=
  match h : (activationBinding acceptance context).validate with
  | .ok () => ⟨activationReceipt context, some ⟨activationBinding acceptance context,
      activationReceipt context, context.semanticMeasurements, h⟩⟩
  | .error _ => ⟨activationReceipt context, none⟩

/-- A host whose artifacts never change and whose activations all match. -/
def host : Host where
  sha256 := sha256
  displayF64 _ := "0.2"
  custodyJson custody := custody.supportingEvidenceId.bytes
  acceptanceReceiptJson _ := []
  lifecycleFactBodyJson _ := []
  artifactJson _ := [1]
  runtimeVersion := "0.1.0"
  targetPlatform := "linux"
  verifyLocalActivation _ _ _ acceptance context _ := .ok (activationAttempt acceptance context)
  revalidateExecutable _ _ := .ok ()

/-! ## Consumers -/

/-- The policy of a consumer: one observer of load, valid for at most 100 ms. -/
def policy (consumer : Text) : ReliancePolicyV1 where
  __ := Evaluation.Reference.policy "p1" ∅
  consumer := ⟨consumer⟩
  escalation := some
    { triggers := ExtTreeSet.ofList [EscalationTriggerClassV1.freshnessLost, .coverageCollapse,
        .contradictionRetained, .subjectBoundViolated, .transportBlind]
      diagnosticProfile := ⟨"stub", 1, digest "stub"⟩
      bounds := ⟨25, 1024, 4⟩
      requestTtlMs := 250 }

/-- The context of a policy under an activation. -/
def context (policy : ReliancePolicyV1) (activation : Text) : RelianceContextV1 where
  schemaVersion := 1
  activationId := ⟨activation⟩
  reliancePolicyGeneration := policy.generation
  reliancePolicySemanticDigest := policy.semanticDigest sha256
  consumerProfileGeneration := "c1"
  evaluatorSemanticGeneration := "e1"
  observerSetGeneration := "s1"
  observationPolicyGeneration := policy.observationPolicyGeneration

/-- A registration of a consumer. -/
def registration (consumer activation : Text) : ConsumerRegistrationV1 where
  policy := policy consumer
  context := context (policy consumer) activation
  subjectIncarnation := "i1"

/-- The configuration of the receiver. -/
def config : RuntimeConfigV1 where
  schemaVersion := 1
  receiver := "receiver"
  receiverIncarnation := "r1"
  clockId := "clock"
  transportCustodyPolicy := none
  bounds := .qualification

/-- What local policy accepts. -/
def acceptance : LocalActivationAcceptanceV1 where
  schemaVersion := 1
  acceptedCertificateDigest := digest "certificate"
  lifecycleAuthorityId := "authority"
  certificateStatus := .accepted 0
  pinnedSupersededActivationAllowed := false
  authorityGrants := {}

/-! ## Pulses -/

/-- A frame before it is sealed: all is well, for 100 ms. -/
def unsealed (observer : Text) (sequence : Nat) : PulseFrameV1 where
  __ := Evaluation.Reference.unsealed observer sequence ⟨0x3fc999999999999a⟩
  signals := [⟨"load", ⟨0x3fc999999999999a⟩, "ratio", .withinDeclaredBound⟩]

/-- A frame of an observer. -/
def frame (observer : Text) (sequence : Nat) : PulseFrameV1 :=
  (unsealed observer sequence).sealed sha256

/-- The arrival of a frame. -/
def ingress (frame : PulseFrameV1) : PulseIngressV1 where
  frame := frame
  transportPath := "loopback"
  transportObservedDelayMs := some 0
  authentication := .verified "fixture" "observer"

/-- The receipt of an admitted observation. -/
def receipt (evidence : DigestV1) (arrivalAt : Nat) : ReceiverAcceptanceReceiptV1 where
  schemaVersion := 1
  receiptDigest := digestParts sha256 "transport.receiver-acceptance-receipt.v1" [[]]
  receiverProcessOccurrence := "r1"
  receiverMonotonicEpoch := "r1"
  receiverAcceptancePolicyGeneration := "t1"
  receiverAcceptancePolicyDigest := digest "policy"
  sessionBindingDigest := some (digest "binding")
  envelopeDigest := some (digest "envelope")
  receiverArrivalMonotonicMs := arrivalAt
  remoteNetworkEndpoint := "endpoint"
  senderKeyVerification := .accepted
  receiverChallengeVerification := .accepted
  sessionBindingVerification := .accepted
  senderQualificationPackageAcceptance := .accepted
  exactIdentityMatch := .accepted
  replayWindowResult := .first
  sequenceGap := none
  queueAndCapacityResult := .accepted
  subjectScopeResult := .accepted
  observerRoleResult := .accepted
  payloadDecodingResult := .accepted
  finding := .evidenceAdmitted
  acceptedEvidenceIdentity := some evidence
  refusalReason := none
  complete := true
  receiptSequence := 1
  journalIdentity := "journal"
  mutationAuthority := .none
  authorityGrants := {}

/-- The custody of a frame that arrived at a time. -/
def custody (frame : PulseFrameV1) (arrivalAt : Nat) : RemoteObservationCustodyReferenceV1 where
  schemaVersion := 1
  receiverProcessOccurrence := "r1"
  receiverMonotonicEpoch := "r1"
  receiverManifestDigest := digest "manifest"
  receiverQualificationCertificateDigest := digest "certificate"
  receiverActivationReceiptDigest := digest "receipt"
  receiverAcceptancePolicyGeneration := "t1"
  receiverAcceptancePolicyDigest := digest "policy"
  receiverKeyIdentityDigest := digest "receiver key"
  senderKeyIdentityDigest := digest "sender key"
  senderProcessOccurrence := "b1"
  senderMonotonicEpoch := "b1"
  senderManifestDigest := digest "manifest"
  senderQualificationCertificateDigest := digest "certificate"
  senderActivationReceiptDigest := digest "receipt"
  senderSessionOfferDigest := digest "offer"
  receiverChallengeDigest := digest "challenge"
  sessionBindingDigest := digest "binding"
  receiverSessionAcceptanceDigest := digest "acceptance"
  envelopeDigest := digest "envelope"
  acceptanceReceiptDigest := (receipt (digest "evidence") arrivalAt).receiptDigest
  observer := frame.observer
  failureDomainClaim := "domain"
  subjectScope := ⟨frame.subject, frame.subjectIncarnation, "host"⟩
  observationSequence := frame.sequence
  sessionSequence := 1
  payloadDigest := digest "payload"
  observationIdentity := frame.observationDigest
  supportingEvidenceId := evidenceRef frame
  receiverArrivalMonotonicMs := arrivalAt
  acceptedEvidenceIdentity := digest "evidence"
  freshnessMode := .arrivalAnchored
  authorityGrants := {}

/-- A frame admitted through custody. -/
def remote (frame : PulseFrameV1) (arrivalAt : Nat)
    (valid : (custody frame arrivalAt).validate = .ok ()) : VerifiedRemoteObservationV1 where
  frame := frame
  custody := custody frame arrivalAt
  receipt := receipt (digest "evidence") arrivalAt
  custodyValid := valid
  observerBound := rfl
  evidenceBound := rfl

/-- The consumer most runs are about. -/
def display : ConsumerKey := ⟨"subject", "display"⟩

/-- Bind and register a consumer. -/
def enlist (consumer : Text) : List Operation :=
  [.activateQualifiedBinding (registration consumer ("a:" ++ consumer)) ⟨none, none, none⟩
      acceptance 0,
    .registerConsumer (registration consumer ("a:" ++ consumer)) 0]

/-- The calls that make one consumer CURRENT until 100. -/
def opening : List Operation :=
  enlist "display" ++ [.enqueue 0 (.pulse (ingress (frame "a" 1))), .runUntil 0]

theorem opening_isSome :
    (runsTo host config opening fun cycle => cycle.holdsCurrent display).isSome = true := by
  decide +kernel

/-- The state with one CURRENT consumer. -/
def current : Cycle :=
  (runsTo host config opening fun cycle => cycle.holdsCurrent display).get opening_isSome

theorem reachableOk_current : ReachableOk host current := (runsTo_get opening_isSome).1

theorem holdsCurrent_current : current.holdsCurrent display = true := by
  unfold current
  exact (runsTo_get opening_isSome).2

end Reference

end ConstellationMonitor.Runtime

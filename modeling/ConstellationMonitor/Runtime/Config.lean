/-
  Configuration, registrations and inputs of the receiver scheduler runtime
  (`pulse-runtime/src/lib.rs`), with the texts that order pending inputs.
-/
import ConstellationMonitor.Evaluation.Ingest

namespace ConstellationMonitor.Runtime

open Foundation ConstellationMonitor.Types Evaluation

/-- `RuntimeError`. -/
structure RuntimeError where
  code : Text
  detail : Text
  deriving DecidableEq

/-- `RuntimeError::from_evaluator`. -/
def RuntimeError.fromEvaluator (error : EvaluatorError) : RuntimeError :=
  ⟨error.code, error.detail⟩

/-! ## Bounds and configuration -/

/-- `RuntimeBoundsV1`. -/
structure RuntimeBoundsV1 where
  maximumSubjects : Nat
  maximumConsumersPerSubject : Nat
  maximumObserversPerSubject : Nat
  maximumReceiverStreams : Nat
  maximumIncarnationsPerObserver : Nat
  maximumSubjectIncarnationsPerSubject : Nat
  maximumPendingInputs : Nat
  maximumScheduledDeadlines : Nat
  maximumContextActivationsPerConsumer : Nat
  maximumActiveEscalations : Nat
  maximumSupportingEvidenceRefs : Nat
  maximumSparseEvents : Nat
  maximumDiagnosticReceipts : Nat
  deriving DecidableEq

namespace RuntimeBoundsV1

/-- `RuntimeBoundsV1::qualification`, which is also the default. -/
def qualification : RuntimeBoundsV1 where
  maximumSubjects := 4
  maximumConsumersPerSubject := 4
  maximumObserversPerSubject := 8
  maximumReceiverStreams := 32
  maximumIncarnationsPerObserver := 8
  maximumSubjectIncarnationsPerSubject := 8
  maximumPendingInputs := 32
  maximumScheduledDeadlines := 16
  maximumContextActivationsPerConsumer := 32
  maximumActiveEscalations := 16
  maximumSupportingEvidenceRefs := 16
  maximumSparseEvents := 2048
  maximumDiagnosticReceipts := 64

/-- Every bound, in declaration order. -/
def values (bounds : RuntimeBoundsV1) : List Nat :=
  [ bounds.maximumSubjects,
    bounds.maximumConsumersPerSubject,
    bounds.maximumObserversPerSubject,
    bounds.maximumReceiverStreams,
    bounds.maximumIncarnationsPerObserver,
    bounds.maximumSubjectIncarnationsPerSubject,
    bounds.maximumPendingInputs,
    bounds.maximumScheduledDeadlines,
    bounds.maximumContextActivationsPerConsumer,
    bounds.maximumActiveEscalations,
    bounds.maximumSupportingEvidenceRefs,
    bounds.maximumSparseEvents,
    bounds.maximumDiagnosticReceipts ]

/-- `RuntimeBoundsV1::validate`. -/
def validate (bounds : RuntimeBoundsV1) : Except RuntimeError Unit := do
  refuseIf (bounds.values.contains 0)
    ⟨"invalid_bounds", "every runtime bound must be nonzero"⟩
  refuseIf (decide (bounds.maximumSupportingEvidenceRefs < bounds.maximumObserversPerSubject) ||
      decide (bounds.maximumSupportingEvidenceRefs > maxCertificateEvidenceRefs))
    ⟨"invalid_bounds", "certificate evidence bound must cover observer capacity and fit v1"⟩

end RuntimeBoundsV1

/-- `RuntimeConfigV1`. -/
structure RuntimeConfigV1 where
  schemaVersion : Nat
  receiver : ReceiverId
  receiverIncarnation : IncarnationId
  clockId : ClockId
  transportCustodyPolicy : Option TransportCustodyPolicyBindingV1
  bounds : RuntimeBoundsV1
  deriving DecidableEq

/-- `RuntimeConfigV1::validate`. -/
def RuntimeConfigV1.validate (config : RuntimeConfigV1) : Except RuntimeError Unit := do
  refuseIf (decide (config.schemaVersion ≠ schemaVersionV1))
    ⟨"unsupported_schema", "runtime config schema is unsupported"⟩
  config.receiver.validate.mapError fun _ =>
    ⟨"invalid_identity", "invalid receiver identity"⟩
  config.receiverIncarnation.validate.mapError fun _ =>
    ⟨"invalid_identity", "invalid receiver incarnation"⟩
  config.clockId.validate.mapError fun _ => ⟨"invalid_identity", "invalid clock identity"⟩
  forM config.transportCustodyPolicy.toList fun binding =>
    binding.validate.mapError fun error => ⟨error.code, error.detail⟩
  config.bounds.validate

/-! ## Registrations and inputs -/

/-- `ConsumerRegistrationV1`. -/
structure ConsumerRegistrationV1 where
  policy : ReliancePolicyV1
  context : RelianceContextV1
  subjectIncarnation : IncarnationId

/-- `ConsumerActivationV1`. -/
structure ConsumerActivationV1 where
  policy : ReliancePolicyV1
  context : RelianceContextV1
  cause : GenerationTransitionCauseV1

/-- `PulseIngressV1`. -/
structure PulseIngressV1 where
  frame : PulseFrameV1
  transportPath : Text
  transportObservedDelayMs : Option Nat
  authentication : AuthenticationResultV1

/-- `VerifiedRemoteObservationV1` (`custody.rs`).  Its fields are private; the receiver
builds one only around a custody reference that passed its validation and that names the
evidence of the very frame. -/
structure VerifiedRemoteObservationV1 where
  frame : PulseFrameV1
  custody : RemoteObservationCustodyReferenceV1
  receipt : ReceiverAcceptanceReceiptV1
  /-- the reference passed its validation -/
  custodyValid : custody.validate = .ok ()
  /-- the reference is about the frame's observer -/
  observerBound : custody.observer = frame.observer
  /-- the reference names the frame as evidence -/
  evidenceBound : custody.supportingEvidenceId = evidenceRef frame

/-- `RuntimeInputV1`. -/
inductive RuntimeInputV1 where
  | activateConsumer (activation : ConsumerActivationV1)
  | replaceSubjectIncarnation (subject : SubjectId) (replacement : IncarnationId)
      (activations : List ConsumerActivationV1)
  | pulse (ingress : PulseIngressV1)
  | remotePulse (verified : VerifiedRemoteObservationV1)
  | escalationDisposition (disposition : EscalationDispositionV1)
  | diagnosticReceipt (receipt : MockDiagnosticReceiptV1)
  | reevaluate (subject : SubjectId) (consumer : ConsumerId)
  | revalidateTransportActivation (subject : SubjectId) (consumer : ConsumerId)
      (expectedPolicy : TransportCustodyPolicyBindingV1)
  | receiverBoundaryCondition (subject : Option SubjectId)
      (finding : TransportCustodyFindingV1) (sessionBindingDigest : Option DigestV1)
      (detail : Text) (withdraw : Bool)
  | restoreMonitorCapability (subject : Option SubjectId) (detail : Text)

namespace RuntimeInputV1

/-- `RuntimeInputV1::priority`. -/
def priority : RuntimeInputV1 → Nat
  | .activateConsumer _ => 0
  | .replaceSubjectIncarnation _ _ _ => 0
  | .receiverBoundaryCondition _ _ _ _ _ => 0
  | .pulse _ => 2
  | .remotePulse _ => 2
  | .revalidateTransportActivation _ _ _ => 1
  | .escalationDisposition _ => 3
  | .diagnosticReceipt _ => 3
  | .restoreMonitorCapability _ _ => 4
  | .reevaluate _ _ => 5

/-- The text of an optional subject; none orders first. -/
def optionalSubject (subject : Option SubjectId) : Text :=
  subject.elim ⟨[]⟩ Identity.text

/-- `RuntimeInputV1::ordering_subject`. -/
def orderingSubject : RuntimeInputV1 → Text
  | .activateConsumer activation => activation.policy.subject.text
  | .replaceSubjectIncarnation subject _ _ => subject.text
  | .reevaluate subject _ => subject.text
  | .revalidateTransportActivation subject _ _ => subject.text
  | .pulse ingress => ingress.frame.subject.text
  | .remotePulse verified => verified.frame.subject.text
  | .restoreMonitorCapability subject _ => optionalSubject subject
  | .receiverBoundaryCondition subject _ _ _ _ => optionalSubject subject
  | .escalationDisposition _ => ⟨[]⟩
  | .diagnosticReceipt _ => ⟨[]⟩

/-- The ordering text of a frame, which local and remote pulses share after their
label. -/
def frameDiscriminator (label : Text) (frame : PulseFrameV1) : Text :=
  label ++ frame.subjectIncarnation.text ++ ":" ++ frame.observer.text ++ ":" ++
    frame.observerIncarnation.text ++ ":" ++ frame.profile.name ++ ":" ++
    Text.padded 5 (Text.decimal frame.profile.version) ++ ":" ++
    frame.observationPolicyGeneration.text ++ ":" ++
    Text.padded 20 (Text.decimal frame.sequence) ++ ":" ++ frame.observationDigest.text

/-- `RuntimeInputV1::ordering_discriminator`. -/
def orderingDiscriminator : RuntimeInputV1 → Text
  | .activateConsumer activation =>
    "activation:" ++ activation.policy.consumer.text ++ ":" ++
      activation.context.activationId.text
  | .replaceSubjectIncarnation _ replacement _ => "subject-replacement:" ++ replacement.text
  | .pulse ingress => frameDiscriminator "pulse:" ingress.frame
  | .remotePulse verified => frameDiscriminator "remote-pulse:" verified.frame
  | .escalationDisposition disposition => "disposition:" ++ disposition.requestId.text
  | .diagnosticReceipt receipt =>
    "receipt:" ++ receipt.requestId.text ++ ":" ++ receipt.receiptId.text
  | .reevaluate _ consumer => "reevaluate:" ++ consumer.text
  | .revalidateTransportActivation _ consumer expectedPolicy =>
    "transport-activation-revalidation:" ++ consumer.text ++ ":" ++
      expectedPolicy.policyGeneration ++ ":" ++ expectedPolicy.policyDigest.text
  | .receiverBoundaryCondition _ finding _ detail _ =>
    "receiver-boundary:" ++ finding.debug ++ ":" ++ detail
  | .restoreMonitorCapability _ detail => "restore:" ++ detail

end RuntimeInputV1

end ConstellationMonitor.Runtime

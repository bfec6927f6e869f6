/-
  Pulse processing and the input dispatcher (`process_pulse` and `process_input` of
  `pulse-runtime/src/lib.rs`).
-/
import ConstellationMonitor.Runtime.Inputs

namespace ConstellationMonitor.Runtime

open Foundation ConstellationMonitor.Types Evaluation
open Std (ExtTreeSet)

/-! ## Pulses -/

/-- The stream identity of a frame. -/
def streamIdentity (frame : PulseFrameV1) : ReceiverStreamIdentity where
  subject := frame.subject
  subjectIncarnation := frame.subjectIncarnation
  observer := frame.observer
  profile := frame.profile
  observationPolicyGeneration := frame.observationPolicyGeneration

/-- The observer incarnations seen for the observer of a frame. -/
def Cycle.incarnationsSeen (frame : PulseFrameV1) (cycle : Cycle) : ExtTreeSet IncarnationId :=
  cycle.observerIncarnations[(frame.subject, frame.observer)]?.getD ∅

/-- Refuse a pulse at a capacity bound and latch its subject blind. -/
def Cycle.refusePulse (host : Host) (subject : SubjectId) (evaluatedAt : Nat)
    (refusalClass : RuntimeRefusalClassV1) (configuredBound observedCount : Nat)
    (detail latchDetail : Text) (cycle : Cycle) : Cycle :=
  (cycle.pushRefusal host
    { refusalClass := refusalClass
      atMs := evaluatedAt
      subject := some subject
      configuredBound := configuredBound
      observedCount := observedCount
      detail := detail }).latchBlindSubject host subject evaluatedAt latchDetail

/-- Note the observer, stream and incarnation of an admitted frame. -/
def Cycle.noteFrame (frame : PulseFrameV1) (cycle : Cycle) : Cycle :=
  { cycle.modifySubject frame.subject fun state =>
      { state with observers := state.observers.insert frame.observer } with
    receiverStreams := cycle.receiverStreams.insert (streamIdentity frame)
    observerIncarnations := cycle.observerIncarnations.insert (frame.subject, frame.observer)
      ((cycle.incarnationsSeen frame).insert frame.observerIncarnation) }

/-- Whether a custody reference and its receipt no longer fit an admitted frame. -/
def custodyMismatch (frame : PulseFrameV1) (custody : RemoteObservationCustodyReferenceV1)
    (receipt : ReceiverAcceptanceReceiptV1) : Bool :=
  decide (custody.subjectScope.subject ≠ frame.subject) ||
    decide (custody.subjectScope.subjectIncarnation ≠ frame.subjectIncarnation) ||
    decide (custody.observer ≠ frame.observer) ||
    decide (custody.observationSequence ≠ frame.sequence) ||
    decide (custody.observationIdentity ≠ frame.observationDigest) ||
    decide (receipt.acceptedEvidenceIdentity ≠ some custody.acceptedEvidenceIdentity) ||
    decide (receipt.envelopeDigest ≠ some custody.envelopeDigest)

/-- The checks `process_pulse` makes on custody. -/
def validateRemote (platform : Platform) (frame : PulseFrameV1)
    (custody : RemoteObservationCustodyReferenceV1) (receipt : ReceiverAcceptanceReceiptV1) :
    Except RuntimeError Unit := do
  custody.validate.mapError fun error => ⟨error.code, error.detail⟩
  (receipt.validate platform.sha256 platform.acceptanceReceiptJson).mapError fun error =>
    ⟨error.code, error.detail⟩
  refuseIf (custodyMismatch frame custody receipt)
    ⟨"remote_custody_mismatch", "verified remote custody no longer matches the admitted pulse"⟩

/-- The custody part of `process_pulse`: a remote pulse puts its reference into the table,
a local one clears the observer's entry. -/
def recordCustody (host : Host) (arrivalAt : Nat) (ingress : PulseIngressV1)
    (remote : Option (RemoteObservationCustodyReferenceV1 × ReceiverAcceptanceReceiptV1))
    (evaluatedAt : Nat) : RuntimeM Unit :=
  let observed := (ingress.frame.subject, ingress.frame.observer)
  match remote with
  | some (custody, receipt) => do
    orFail (validateRemote host.toPlatform ingress.frame custody receipt)
    modify fun cycle =>
      let marked := (cycle.recordSparse host evaluatedAt
        (.receiverBoundaryAcceptanceRecorded receipt)).mark
          (.pulse · ⟨arrivalAt, ingress, some custody⟩)
      { marked with
        remoteObservationCustody := marked.remoteObservationCustody.insert observed custody }
  | none =>
    modify fun cycle =>
      let marked := cycle.mark (.pulse · ⟨arrivalAt, ingress, none⟩)
      { marked with
        remoteObservationCustody := marked.remoteObservationCustody.erase observed }

/-- Have the tracker annotate an arrival. -/
def annotatePulse (host : Host) (arrivalAt : Nat) (ingress : PulseIngressV1) :
    RuntimeM ReceivedPulseV1 := do
  match (← get).receiver.annotate host.sha256 ingress.frame arrivalAt ingress.transportPath
      ingress.transportObservedDelayMs ingress.authentication with
  | .error error => fail "receiver_refusal" (pulseErrorText error)
  | .ok (annotated, receiver) => do
    modify fun cycle => { cycle with receiver := receiver }
    return ⟨ingress.frame, annotated⟩

/-- Whether a policy takes frames of this profile and observation generation. -/
def admitsFrame (policy : ReliancePolicyV1) (frame : PulseFrameV1) : Bool :=
  decide (policy.observationProfile = frame.profile) &&
    decide (policy.observationPolicyGeneration = frame.observationPolicyGeneration)

/-- The trace line of a pulse. -/
def pulseText (ordinal : Nat) (received : ReceivedPulseV1) : Text :=
  "PULSE ordinal=" ++ Text.decimal ordinal ++ " observer=" ++ received.frame.observer.text ++
    " sequence=" ++ Text.decimal received.frame.sequence ++ " arrival=" ++
    Text.decimal received.receiver.arrivalMonotonicMs ++ "ms"

/-- The loop body of `process_pulse`. -/
def pulseConsumer (host : Host) (ordinal : Nat) (received : ReceivedPulseV1)
    (origin : Option RemoteObservationCustodyReferenceV1) (evaluatedAt : Nat)
    (key : ConsumerKey) : RuntimeM Unit := do
  match (← get).consumers[key]? with
  | none => pure ()
  | some state =>
    if admitsFrame state.evaluator.policy received.frame then
      visit host ⟨key, .ingest received, evaluatedAt, evaluatedAt, origin⟩ state
        { after := Cycle.trace evaluatedAt (pulseText ordinal received) }
    else pure ()

/-- The part of `process_pulse` after the capacity checks. -/
def deliverPulse (host : Host) (arrivalAt ordinal : Nat) (ingress : PulseIngressV1)
    (remote : Option (RemoteObservationCustodyReferenceV1 × ReceiverAcceptanceReceiptV1))
    (evaluatedAt : Nat) : RuntimeM Unit := do
  modify (Cycle.noteFrame ingress.frame)
  recordCustody host arrivalAt ingress remote evaluatedAt
  let received ← annotatePulse host arrivalAt ingress
  forM ((← get).consumerKeys (some ingress.frame.subject))
    (pulseConsumer host ordinal received (remote.map Prod.fst) evaluatedAt)

/-- `ReceiverSchedulerRuntime::process_pulse`. -/
def processPulse (host : Host) (arrivalAt ordinal : Nat) (ingress : PulseIngressV1)
    (remote : Option (RemoteObservationCustodyReferenceV1 × ReceiverAcceptanceReceiptV1))
    (evaluatedAt : Nat) : RuntimeM Unit := do
  let cycle ← get
  let frame := ingress.frame
  let bounds := cycle.config.bounds
  match cycle.subjects[frame.subject]? with
  | none =>
    modify (Cycle.pushRefusal host
      { refusalClass := .invalidBinding
        atMs := evaluatedAt
        subject := some frame.subject
        configuredBound := bounds.maximumSubjects
        observedCount := cycle.subjects.size + 1
        detail := "pulse subject has no registered consumer" })
  | some state =>
    let seen := cycle.incarnationsSeen frame
    if !state.observers.contains frame.observer &&
        decide (state.observers.size ≥ bounds.maximumObserversPerSubject) then
      modify fun cycle =>
        (cycle.measure fun metrics =>
          { metrics with
            observerRefusalCount := satAdd metrics.observerRefusalCount 1 }).refusePulse host
          frame.subject evaluatedAt .observerCapacity bounds.maximumObserversPerSubject
          (state.observers.size + 1)
          "new observer identity refused at subject cardinality bound"
          "observer identity capacity was exceeded"
    else if !cycle.receiverStreams.contains (streamIdentity frame) &&
        decide (cycle.receiverStreams.size ≥ bounds.maximumReceiverStreams) then
      modify fun cycle =>
        (cycle.measure fun metrics =>
          { metrics with
            receiverStreamRefusalCount :=
              satAdd metrics.receiverStreamRefusalCount 1 }).refusePulse host
          frame.subject evaluatedAt .receiverStreamCapacity bounds.maximumReceiverStreams
          (cycle.receiverStreams.size + 1)
          "new receiver stream identity refused at capacity"
          "receiver stream identity capacity was exceeded"
    else if !seen.contains frame.observerIncarnation &&
        decide (seen.size ≥ bounds.maximumIncarnationsPerObserver) then
      modify (Cycle.refusePulse host frame.subject evaluatedAt .incarnationHistoryCapacity
        bounds.maximumIncarnationsPerObserver (seen.size + 1)
        "observer incarnation churn exceeded the receiver history bound"
        "observer incarnation history capacity was exceeded")
    else deliverPulse host arrivalAt ordinal ingress remote evaluatedAt

/-! ## Dispositions and receipts -/

/-- The refusal of an input that names no active request. -/
def Cycle.refuseUnrouted (host : Host) (evaluatedAt : Nat) (subject : Option SubjectId)
    (consumer : Option ConsumerId) (detail : Text) (cycle : Cycle) : Cycle :=
  cycle.pushRefusal host
    { refusalClass := .invalidBinding
      atMs := evaluatedAt
      subject := subject
      consumer := consumer
      configuredBound := 0
      observedCount := 1
      detail := detail }

/-- Deliver a call to the consumer that owns a request. -/
def deliverToOwner (host : Host) (owner : ConsumerKey) (call : EvaluatorCall)
    (evaluatedAt : Nat) (after : Cycle → Cycle) : RuntimeM Unit := do
  match (← get).consumers[owner]? with
  | none => throw (.panic "request owner consumer exists")
  | some state => visit host (.at owner call evaluatedAt) state { after := after }

/-- `process_input` for an escalation disposition. -/
def processDisposition (host : Host) (disposition : EscalationDispositionV1)
    (evaluatedAt : Nat) : RuntimeM Unit := do
  match (← get).requestOwners[disposition.requestId]? with
  | none => modify (Cycle.refuseUnrouted host evaluatedAt none none
      "escalation disposition references no active runtime request")
  | some (owner, _) => deliverToOwner host owner (.disposition disposition) evaluatedAt id

/-- `process_input` for a diagnostic receipt. -/
def processReceipt (host : Host) (receipt : MockDiagnosticReceiptV1) (evaluatedAt : Nat) :
    RuntimeM Unit := do
  let cycle ← get
  let subject := receipt.subjectScope.subject
  let bound := cycle.config.bounds.maximumDiagnosticReceipts
  if cycle.diagnosticReceipts.length ≥ bound then
    modify fun cycle => (cycle.pushRefusal host
      { refusalClass := .receiptHistoryCapacity
        atMs := evaluatedAt
        subject := some subject
        consumer := some receipt.consumer
        configuredBound := bound
        observedCount := cycle.diagnosticReceipts.length + 1
        detail := "diagnostic receipt custody bound is full" }).latchBlindSubject host subject
          evaluatedAt "diagnostic receipt custody was refused at capacity"
  else
    match cycle.requestOwners[receipt.requestId]? with
    | none => modify (Cycle.refuseUnrouted host evaluatedAt (some subject)
        (some receipt.consumer) "diagnostic receipt references no active runtime request")
    | some (owner, _) => deliverToOwner host owner (.receipt receipt) evaluatedAt fun cycle =>
      { cycle with diagnosticReceipts := cycle.diagnosticReceipts ++ [receipt] }

/-! ## Reevaluation and monitor state -/

/-- `process_input` for an explicit reevaluation. -/
def processReevaluation (host : Host) (key : ConsumerKey) (evaluatedAt : Nat) :
    RuntimeM Unit := do
  match (← get).consumers[key]? with
  | none => fail "unknown_consumer" "reevaluation consumer is unknown"
  | some state => visit host (.at key .tick evaluatedAt) state

/-- `process_input` for a transport revalidation. -/
def processRevalidation (host : Host) (key : ConsumerKey)
    (expectedPolicy : TransportCustodyPolicyBindingV1) (evaluatedAt : Nat) :
    RuntimeM Unit := do
  let cycle ← get
  if cycle.config.transportCustodyPolicy ≠ some expectedPolicy then
    fail "transport_policy_mismatch"
      "transport revalidation policy differs from the activated runtime configuration"
  else
    match cycle.consumers[key]? with
    | none => fail "unknown_consumer" "transport activation consumer is unknown"
    | some state =>
      visit host (.at key .tick evaluatedAt) state
        { before := discard (revalidatedQualifiedBinding host key state evaluatedAt) }

/-- The longest detail of a boundary condition. -/
def maxBoundaryDetailBytes : Nat := 256

/-- `process_input` for a receiver-boundary condition. -/
def processBoundaryCondition (host : Host) (subject : Option SubjectId)
    (finding : TransportCustodyFindingV1) (sessionBindingDigest : Option DigestV1)
    (detail : Text) (withdraw : Bool) (evaluatedAt : Nat) : RuntimeM Unit := do
  if detail.isEmpty || decide (detail.length > maxBoundaryDetailBytes) || detail.hasControl then
    fail "invalid_receiver_boundary_condition"
      "receiver-boundary condition detail is empty, over-bound, or contains control characters"
  else do
    modify fun cycle => (cycle.recordSparse host evaluatedAt
      (.receiverBoundaryCustodyChanged finding sessionBindingDigest detail)).trace evaluatedAt
        ("RECEIVER_BOUNDARY state=" ++ finding.debug ++ " detail=" ++ detail)
    if withdraw then
      modify fun cycle => (cycle.latchBlind host subject evaluatedAt detail).takePendingOutput
    else pure ()

/-- The loop body of a capability restoration. -/
def restoreConsumer (host : Host) (detail : Text) (evaluatedAt : Nat) (key : ConsumerKey) :
    RuntimeM Unit := do
  match (← get).consumers[key]? with
  | none => throw (.panic "consumer exists")
  | some state => visit host (.at key (.restore detail) evaluatedAt) state

/-- `process_input` for a capability restoration. -/
def processRestoration (host : Host) (subject : Option SubjectId) (detail : Text)
    (evaluatedAt : Nat) : RuntimeM Unit := do
  forM ((← get).consumerKeys subject) (restoreConsumer host detail evaluatedAt)
  modify (Cycle.trace evaluatedAt ("MONITOR operational detail=" ++ detail ++
    "; explicit reevaluation still governs standing"))

/-! ## The dispatcher -/

/-- The local form of a remote pulse. -/
def remoteIngress (verified : VerifiedRemoteObservationV1) : PulseIngressV1 where
  frame := verified.frame
  transportPath := "udp-authenticated-custody/v1"
  transportObservedDelayMs := none
  authentication := .verified "ed25519-pinned-custody/v1"
    verified.custody.senderKeyIdentityDigest.text

/-- What `process_input` hands to `process_pulse` for an input taken at a time. -/
def RuntimeInputV1.delivery (logicalAt : Nat) : RuntimeInputV1 → Option Delivery
  | .pulse ingress => some ⟨logicalAt, ingress, none⟩
  | .remotePulse verified => some ⟨verified.custody.receiverArrivalMonotonicMs,
      remoteIngress verified, some verified.custody⟩
  | _ => none

/-- `ReceiverSchedulerRuntime::process_input`. -/
def processInput (host : Host) (logicalAt ordinal : Nat) (input : RuntimeInputV1)
    (evaluatedAt : Nat) : RuntimeM Unit :=
  match input with
  | .activateConsumer activation => activateConsumer host logicalAt activation evaluatedAt
  | .replaceSubjectIncarnation subject replacement activations =>
    replaceSubjectIncarnation host logicalAt subject replacement activations evaluatedAt
  | .pulse ingress => processPulse host logicalAt ordinal ingress none evaluatedAt
  | .remotePulse verified =>
    processPulse host verified.custody.receiverArrivalMonotonicMs ordinal
      (remoteIngress verified) (some (verified.custody, verified.receipt)) evaluatedAt
  | .escalationDisposition disposition => processDisposition host disposition evaluatedAt
  | .diagnosticReceipt receipt => processReceipt host receipt evaluatedAt
  | .reevaluate subject consumer => processReevaluation host ⟨subject, consumer⟩ evaluatedAt
  | .revalidateTransportActivation subject consumer expectedPolicy =>
    processRevalidation host ⟨subject, consumer⟩ expectedPolicy evaluatedAt
  | .receiverBoundaryCondition subject finding sessionBindingDigest detail withdraw =>
    processBoundaryCondition host subject finding sessionBindingDigest detail withdraw
      evaluatedAt
  | .restoreMonitorCapability subject detail =>
    processRestoration host subject detail evaluatedAt

end ConstellationMonitor.Runtime

/-
  Applying an evaluation (`apply_evaluation` of `pulse-runtime/src/lib.rs`): dispatch of
  the escalation request, the support certificate, its deadline, and the qualified
  binding behind it.

  Every handler of the runtime takes a consumer's state out, calls its evaluator, puts
  the state back and applies the evaluation.  That shape is `visit`; an early error
  leaves the consumer out, as the `?` exits of the source do.
-/
import ConstellationMonitor.Runtime.State

namespace ConstellationMonitor.Runtime

open Foundation ConstellationMonitor.Types Evaluation

/-! ## Qualified bindings -/

/-- Whether a binding is for exactly this consumer in this context. -/
def bindingMatches (binding : QualifiedGenerationBindingV1) (key : ConsumerKey)
    (context : RelianceContextV1) : Bool :=
  decide (binding.generationSet.subject = key.subject) &&
    decide (binding.generationSet.consumer = key.consumer) &&
    binding.generationSet.matchesContext context

/-- `ReceiverSchedulerRuntime::descriptive_qualified_binding`. -/
def RuntimeCore.descriptiveQualifiedBinding (core : RuntimeCore) (key : ConsumerKey)
    (context : RelianceContextV1) : Option QualifiedGenerationBindingV1 :=
  core.qualifiedBindings[key]?.bind fun slot =>
    if slot.state ≠ .qualifiedAndMatched then none
    else (slot.accepted.map VerifiedActivationV1.binding).filter fun binding =>
      bindingMatches binding key context

/-- A binding that must be withdrawn: the state the slot goes to, why, and the receipt of
the activation withdrawn. -/
structure Invalidation where
  state : RuntimeBindingStateV1
  detail : Text
  priorReceipt : DigestV1

/-- Withdraw the binding in a slot and record it. -/
def Cycle.invalidateBinding (host : Host) (key : ConsumerKey) (evaluatedAt : Nat)
    (invalidation : Invalidation) (cycle : Cycle) : Cycle :=
  let cleared : Cycle :=
    { cycle with
      qualifiedBindings := cycle.qualifiedBindings.modify key fun slot =>
        { slot with state := invalidation.state, accepted := none } }
  (cleared.recordSparse host evaluatedAt (.qualifiedGenerationBindingInvalidated key.consumer
    invalidation.priorReceipt invalidation.state invalidation.detail false)).trace evaluatedAt
      ("BINDING_INVALIDATED consumer=" ++ key.consumer.text ++ " state=" ++
        invalidation.state.debug ++ " detail=" ++ invalidation.detail)

/-- `ReceiverSchedulerRuntime::invalidate_binding_for_context_change`. -/
def Cycle.invalidateBindingForContextChange (host : Host) (key : ConsumerKey)
    (context : RelianceContextV1) (evaluatedAt : Nat) (cycle : Cycle) : Cycle :=
  match cycle.qualifiedBindings[key]?.bind QualifiedBindingSlot.accepted with
  | none => cycle
  | some accepted =>
    if accepted.binding.generationSet.matchesContext context then cycle
    else cycle.invalidateBinding host key evaluatedAt
      { state := .unbound
        detail := "reliance context changed without a matching fresh qualified activation"
        priorReceipt := accepted.receipt.receiptDigest }

/-- Whether a measurement differs from the one the activation was qualified with. -/
def measurementDiffers (qualified : List ArtifactMeasurementV1)
    (observed : ArtifactMeasurementV1) : Bool :=
  (qualified.find? fun measurement => decide (measurement.role = observed.role)).all
    fun measurement =>
      decide (measurement.contentDigest ≠ observed.contentDigest) ||
        decide (measurement.byteLength ≠ observed.byteLength) || measurement.callerSupplied

/-- The checks of `revalidated_qualified_binding` on an accepted activation, in order:
the generation, the running executable, every measured artifact. -/
def checkAccepted (host : Host) (key : ConsumerKey) (context : RelianceContextV1)
    (observed : List ArtifactMeasurementV1) (probe : Nat) (accepted : VerifiedActivationV1) :
    Except Invalidation QualifiedGenerationBindingV1 :=
  let withdraw (state : RuntimeBindingStateV1) (detail : Text) : Invalidation :=
    ⟨state, detail, accepted.receipt.receiptDigest⟩
  if !bindingMatches accepted.binding key context then
    .error (withdraw .ambiguous
      "active qualified generation does not match the evaluator context")
  else
    match host.revalidateExecutable accepted probe with
    | .error error =>
      .error (withdraw .mutableAfterActivation (error.code ++ ": " ++ error.detail))
    | .ok _ =>
      match observed.find? (measurementDiffers accepted.measurements) with
      | some mismatch =>
        .error (withdraw mismatch.role.mismatchState ("owned active artifact " ++
          mismatch.role.debug ++ " changed after qualification activation"))
      | none => .ok accepted.binding

/-- The registration a consumer's state amounts to. -/
def ConsumerState.registration (state : ConsumerState) : ConsumerRegistrationV1 where
  policy := state.evaluator.policy
  context := state.context
  subjectIncarnation := state.evaluator.currentSubjectIncarnation

/-- `ReceiverSchedulerRuntime::revalidated_qualified_binding`. -/
def revalidatedQualifiedBinding (host : Host) (key : ConsumerKey) (state : ConsumerState)
    (evaluatedAt : Nat) : RuntimeM (Option QualifiedGenerationBindingV1) := do
  let cycle ← get
  match activeRuntimeMeasurements host cycle.config state.registration with
  | .error error => fail error.code error.detail
  | .ok observed =>
    match cycle.qualifiedBindings[key]? with
    | none => pure none
    | some slot =>
      if slot.state ≠ .qualifiedAndMatched then pure none
      else
        match slot.accepted with
        | none => pure none
        | some accepted => do
          modify fun cycle => { cycle with probes := cycle.probes + 1 }
          match checkAccepted host key state.context observed cycle.probes accepted with
          | .ok binding => pure (some binding)
          | .error invalidation => do
            modify fun cycle => (cycle.cancelSchedule key).invalidateBinding host key
              evaluatedAt invalidation
            pure none

/-! ## Dispatch -/

/-- What becomes of the request an evaluation issued. -/
inductive Dispatch where
  /-- no request was issued -/
  | idle
  /-- the consumer had no CURRENT certificate -/
  | suppressed
  /-- the escalation bound is full -/
  | refused
  /-- the request goes out -/
  | pushed (request : DiagnosticEscalationRequestV1)

/-- The decision of `apply_evaluation` about an issued request. -/
def RuntimeCore.dispatch (core : RuntimeCore) (key : ConsumerKey)
    (evaluation : EvaluationOutput) : Dispatch :=
  match evaluation.escalationRequest with
  | none => .idle
  | some request =>
    if !core.holdsCurrent key then .suppressed
    else if core.requestOwners.size ≥ core.config.bounds.maximumActiveEscalations then .refused
    else .pushed request

/-- Carry out a dispatch decision. -/
def Cycle.carryOut (host : Host) (key : ConsumerKey) (evaluatedAt : Nat) (dispatch : Dispatch)
    (cycle : Cycle) : Cycle :=
  match dispatch with
  | .idle => cycle
  | .suppressed => cycle.trace evaluatedAt ("ESCALATION_SUPPRESSED consumer=" ++
      key.consumer.text ++ " reason=no_prior_runtime_supported_current")
  | .refused => cycle.pushRefusal host
      { refusalClass := .escalationCapacity
        atMs := evaluatedAt
        subject := some key.subject
        consumer := some key.consumer
        configuredBound := cycle.config.bounds.maximumActiveEscalations
        observedCount := cycle.requestOwners.size + 1
        detail := "active escalation request bound is full; request was not dispatched" }
  | .pushed request =>
    { cycle with
      requestOwners := cycle.requestOwners.insert request.requestId
        (key, request.expiresAtMonotonicMs)
      output := { cycle.output with
        escalationRequests := cycle.output.escalationRequests ++ [request] } }

/-! ## Certificates -/

/-- The custody references of a certificate: those of the same subject scope whose pulse
is among its evidence. -/
def RuntimeCore.namedCustody (platform : Platform) (core : RuntimeCore)
    (scope : SubjectScopeV1) (evidence : List Text) :
    List RemoteObservationCustodyReferenceV1 :=
  sortDedupBy (fun custody => custody.identityDigest platform)
    (core.remoteObservationCustody.values.filter fun custody =>
      decide (custody.subjectScope = scope) && evidence.contains custody.supportingEvidenceId)

/-- The evidence names a certificate carries. -/
def ConsumerState.evidenceIds (state : ConsumerState) (evaluatedAt : Nat) : List Text :=
  sortDedup (state.evaluator.supportingEvidenceRefs evaluatedAt)

/-- The contradictions a certificate carries. -/
def ConsumerState.contradictionIds (state : ConsumerState) : List ContradictionId :=
  sortDedup state.evaluator.activeContradictionIds

/-- The category of a certificate: CURRENT needs a qualified binding. -/
def certifiedJudgment (evaluation : EvaluationOutput)
    (binding : Option QualifiedGenerationBindingV1) : JudgmentCategoryV1 :=
  if evaluation.judgment.category = .current ∧ binding.isNone then .unknown
  else evaluation.judgment.category

/-- The missing premises of a certificate.  A CURRENT one names none of the cautions its
explanation still carries. -/
def RuntimeCore.missingPremises (core : RuntimeCore) (key : ConsumerKey)
    (evaluation : EvaluationOutput) (binding : Option QualifiedGenerationBindingV1) :
    List Text :=
  let named : List Text :=
    if certifiedJudgment evaluation binding = .current then []
    else (evaluation.judgment.explanation.reasons.map JudgmentReasonV1.code).filter
      fun code : Text => decide (code ≠ "named_reliance_conditions_satisfied")
  let unbound : List Text :=
    if evaluation.judgment.category = .current ∧ binding.isNone then
      ["qualified_generation_binding:" ++
        (core.qualifiedBindings[key]?.elim RuntimeBindingStateV1.unbound
          QualifiedBindingSlot.state).debug]
    else []
  sortDedup (named ++ unbound ++
    evaluation.judgment.coverage.missing.map fun tag : Text => "coverage:" ++ tag)

/-- The certificate of an evaluation, before it has its identity. -/
def RuntimeCore.draftCertificate (platform : Platform) (core : RuntimeCore)
    (key : ConsumerKey) (state : ConsumerState) (evaluation : EvaluationOutput)
    (evaluatedAt : Nat) (binding : Option QualifiedGenerationBindingV1) :
    RelianceSupportCertificateV1 :=
  let judgment := certifiedJudgment evaluation binding
  let deadline :=
    if judgment = .current then evaluation.judgment.positiveSupportExpiresAtMonotonicMs
    else none
  { schemaVersion := schemaVersionV1
    certificateId := "pending"
    consumer := key.consumer
    subjectScope := evaluation.judgment.subjectScope
    context := state.context
    qualifiedGeneration := binding
    evaluatedAtMonotonicMs := evaluatedAt
    receiverClockId := core.config.clockId.text
    judgment := judgment
    evidenceWindowId := evaluation.judgment.evidenceWindowId
    supportingEvidenceIds := state.evidenceIds evaluatedAt
    remoteObservationCustody := core.namedCustody platform evaluation.judgment.subjectScope
      (state.evidenceIds evaluatedAt)
    missingPremises := core.missingPremises key evaluation binding
    applicableContradictions := state.contradictionIds
    coverage := evaluation.judgment.coverage
    earliestSupportExpiryMonotonicMs := deadline
    nextScheduledReevaluationMonotonicMs := deadline
    escalation := evaluation.judgment.escalation
    mutationAuthority := .none }

/-- The certificate of an evaluation, named by its transcript. -/
def RuntimeCore.supportCertificate (platform : Platform) (core : RuntimeCore)
    (key : ConsumerKey) (state : ConsumerState) (evaluation : EvaluationOutput)
    (evaluatedAt : Nat) (binding : Option QualifiedGenerationBindingV1) :
    RelianceSupportCertificateV1 :=
  let draft := core.draftCertificate platform key state evaluation evaluatedAt binding
  { draft with certificateId := draft.computeId platform }

/-- Whether a certificate would name more than its bounds allow. -/
def RuntimeCore.overCertificateBound (core : RuntimeCore) (state : ConsumerState)
    (evaluatedAt : Nat) : Bool :=
  decide ((state.evidenceIds evaluatedAt).length >
      core.config.bounds.maximumSupportingEvidenceRefs) ||
    decide (state.contradictionIds.length > maxCertificateContradictions)

/-- Put a deadline on the schedule. -/
def Cycle.schedule (key : ConsumerKey) (activationId : ContextActivationId)
    (deadline : Option Nat) (cycle : Cycle) : Cycle :=
  match deadline with
  | none => cycle
  | some deadline =>
    ({ cycle with
      schedules := cycle.schedules.insert
        ⟨deadline, key.subject, key.consumer, activationId⟩ } : Cycle).measure
      fun metrics => { metrics with expectedSupportExpiryMonotonicMs := some deadline }

/-- The sum the runtime reports as duplicate escalations, in 64 bits. -/
def RuntimeCore.duplicateEscalations (core : RuntimeCore) : Nat :=
  (core.consumers.values.map fun state =>
    state.evaluator.metrics.escalationDeduplicationCount).sum % (u64Max + 1)

/-- Store a validated certificate, schedule its deadline and report it. -/
def Cycle.storeCertificate (host : Host) (key : ConsumerKey) (state : ConsumerState)
    (certificate : RelianceSupportCertificateV1) (evaluatedAt : Nat) (cycle : Cycle) : Cycle :=
  let stored := (cycle.schedule key state.context.activationId
    certificate.earliestSupportExpiryMonotonicMs).putConsumer key
      { state with certificate := some certificate }
  let reported : Cycle :=
    { stored with
      output := { stored.output with
        certificates := stored.output.certificates ++ [certificate] } }
  let recorded :=
    if state.certificate = some certificate then reported
    else reported.recordSparse host evaluatedAt (.supportCertificateIssued certificate)
  let traced := recorded.trace evaluatedAt ("CERTIFICATE consumer=" ++ key.consumer.text ++
    " activation=" ++ certificate.context.activationId.text ++ " judgment=" ++
    certificate.judgment.asStr ++ " support_expires=" ++
    certificate.earliestSupportExpiryMonotonicMs.elim (Text.ofString "none")
      (fun deadline => Text.decimal deadline ++ "ms") ++ " standing_inherited=false")
  traced.measure fun metrics =>
    { metrics with duplicateEscalationCount := traced.duplicateEscalations }

/-- Withhold the certificate of an evaluation that is over its bounds. -/
def Cycle.withholdCertificate (host : Host) (key : ConsumerKey) (state : ConsumerState)
    (evaluatedAt : Nat) (cycle : Cycle) : Cycle :=
  (cycle.putConsumer key { state with certificate := none }).pushRefusal host
    { refusalClass := .certificateCapacity
      atMs := evaluatedAt
      subject := some key.subject
      consumer := some key.consumer
      configuredBound := cycle.config.bounds.maximumSupportingEvidenceRefs
      observedCount := max (state.evidenceIds evaluatedAt).length state.contradictionIds.length
      detail := "support certificate references exceed their exact bound; no positive certificate was issued" }

/-- The binding named by the certificate of an evaluation: revalidated for a CURRENT one,
only described otherwise. -/
def qualifiedGeneration (host : Host) (key : ConsumerKey) (state : ConsumerState)
    (evaluation : EvaluationOutput) (evaluatedAt : Nat) :
    RuntimeM (Option QualifiedGenerationBindingV1) := do
  if evaluation.judgment.category = .current then
    revalidatedQualifiedBinding host key state evaluatedAt
  else
    return (← get).descriptiveQualifiedBinding key state.context

/-- The last part of `apply_evaluation`: issue the certificate. -/
def issueCertificate (host : Host) (key : ConsumerKey) (state : ConsumerState)
    (evaluation : EvaluationOutput) (evaluatedAt : Nat) : RuntimeM Unit := do
  let binding ← qualifiedGeneration host key state evaluation evaluatedAt
  let certificate := (← get).supportCertificate host.toPlatform key state evaluation evaluatedAt
    binding
  match certificate.validate host.toPlatform with
  | .error error => fail error.code error.detail
  | .ok _ => modify (Cycle.storeCertificate host key state certificate evaluatedAt)

/-- Record the events of an evaluation. -/
def Cycle.recordEvents (host : Host) (events : List SparseDurableEventV1) (cycle : Cycle) :
    Cycle :=
  events.foldl (fun cycle event => cycle.recordSparse host event.atMonotonicMs event.event) cycle

/-- The first part of `apply_evaluation`: events, dispatch, and the deadline cancelled. -/
def Cycle.settleEvaluation (host : Host) (key : ConsumerKey) (evaluation : EvaluationOutput)
    (evaluatedAt : Nat) (cycle : Cycle) : Cycle :=
  let dispatch := cycle.dispatch key evaluation
  (((cycle.recordEvents host evaluation.sparseEvents).carryOut host key evaluatedAt
    dispatch).accountDueScheduleBeforeCancellation key evaluatedAt).cancelSchedule key

/-- `ReceiverSchedulerRuntime::apply_evaluation`. -/
def applyEvaluation (host : Host) (key : ConsumerKey) (evaluation : EvaluationOutput)
    (evaluatedAt : Nat) : RuntimeM Unit := do
  modify (Cycle.settleEvaluation host key evaluation evaluatedAt)
  match (← get).consumers[key]? with
  | none => fail "unknown_consumer" "evaluation consumer disappeared"
  | some state => do
    modify (Cycle.removeConsumer key)
    if (← get).overCertificateBound state evaluatedAt then
      modify (Cycle.withholdCertificate host key state evaluatedAt)
    else issueCertificate host key state evaluation evaluatedAt

/-! ## Visits -/

/-- What a handler does around an evaluator operation. -/
structure Around where
  /-- while the consumer's state is taken out -/
  before : RuntimeM Unit := pure ()
  /-- to the state, once the operation succeeded -/
  update : ConsumerState → ConsumerState := id
  /-- between putting the state back and applying the evaluation -/
  after : Cycle → Cycle := id

/-- Take a consumer's state out, perform an evaluator operation on it, put it back and
apply the evaluation. -/
def visit (host : Host) (visit : Visit) (state : ConsumerState) (around : Around := {}) :
    RuntimeM Unit := do
  modify fun cycle => (cycle.mark (.visit · visit)).removeConsumer visit.key
  around.before
  match state.evaluator.perform host.toPlatform visit.call visit.atMs with
  | .error error => throw (.error (.fromEvaluator error))
  | .ok (evaluation, evaluator) => do
    modify fun cycle => around.after
      (cycle.putConsumer visit.key { around.update state with evaluator := evaluator })
    applyEvaluation host visit.key evaluation visit.appliedAtMs

/-- `ReceiverSchedulerRuntime::latch_blind_consumer`.  An error of `apply_evaluation` is
dropped together with the output it had filled, and the consumer stays out. -/
def Cycle.latchBlindConsumer (host : Host) (atMs : Nat) (detail : Text) (key : ConsumerKey)
    (cycle : Cycle) : Cycle :=
  match cycle.consumers[key]? with
  | none => cycle
  | some state =>
    match visit host ⟨key, .inputDrop 1 detail, atMs, max atMs cycle.currentMonotonicMs, none⟩
        state {} { cycle with output := {} } with
    | .ok _ next => next.stageOutput cycle.output
    | .error _ next => { next with output := cycle.output }

/-- Latch the consumers of a subject, or all of them. -/
def Cycle.latchBlind (host : Host) (subject : Option SubjectId) (atMs : Nat) (detail : Text)
    (cycle : Cycle) : Cycle :=
  (cycle.consumerKeys subject).foldl
    (fun cycle key => cycle.latchBlindConsumer host atMs detail key) cycle

/-- `ReceiverSchedulerRuntime::latch_blind_all`. -/
def Cycle.latchBlindAll (host : Host) (atMs : Nat) (detail : Text) : Cycle → Cycle :=
  Cycle.latchBlind host none atMs detail

/-- `ReceiverSchedulerRuntime::latch_blind_subject`. -/
def Cycle.latchBlindSubject (host : Host) (subject : SubjectId) (atMs : Nat) (detail : Text) :
    Cycle → Cycle :=
  Cycle.latchBlind host (some subject) atMs detail

/-- `ReceiverSchedulerRuntime::latch_history_blindness`. -/
def Cycle.latchHistoryBlindness (host : Host) (atMs : Nat) (cycle : Cycle) : Cycle :=
  if cycle.historyBlindnessLatched then cycle
  else ({ cycle with historyBlindnessLatched := true } : Cycle).latchBlindAll host atMs
    "sparse historical custody capacity is exhausted"

end ConstellationMonitor.Runtime

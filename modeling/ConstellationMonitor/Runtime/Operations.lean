/-
  The public operations of the runtime (`pulse-runtime/src/lib.rs`) and the runs they
  make up.
-/
import ConstellationMonitor.Runtime.Process

namespace ConstellationMonitor.Runtime

open Foundation ConstellationMonitor.Types Evaluation

/-- A call starts with an empty output. -/
def Cycle.beginCall (cycle : Cycle) : Cycle := { cycle with output := {} }

/-! ## The scheduler loop -/

/-- The next thing the loop has to do. -/
inductive Due where
  | pending (key : PendingKey) (input : RuntimeInputV1)
  | deadline (schedule : ScheduleKey)

/-- The first pending input, if it is due. -/
def RuntimeCore.nextPending (core : RuntimeCore) (now : Nat) :
    Option (PendingKey × RuntimeInputV1) :=
  core.pending.toList.head?.filter fun entry => decide (entry.1.atMonotonicMs ≤ now)

/-- The first deadline, if it is due. -/
def RuntimeCore.nextSchedule (core : RuntimeCore) (now : Nat) : Option ScheduleKey :=
  core.schedules.toList.head?.filter fun schedule =>
    decide (schedule.deadlineMonotonicMs ≤ now)

/-- Whether a pending input goes before a deadline: both are ordered by time, priority,
subject and discriminator, with priority one for deadlines. -/
def pendingFirst (key : PendingKey) (schedule : ScheduleKey) : Bool :=
  (compare (key.atMonotonicMs, key.priority, key.subject, key.discriminator)
    (schedule.deadlineMonotonicMs, 1, schedule.subject.text, schedule.consumer.text)).isLE

/-- The choice at the head of the loop. -/
def RuntimeCore.nextDue (core : RuntimeCore) (now : Nat) : Option Due :=
  match core.nextPending now, core.nextSchedule now with
  | none, none => none
  | some (key, input), none => some (.pending key input)
  | none, some schedule => some (.deadline schedule)
  | some (key, input), some schedule =>
    if pendingFirst key schedule then some (.pending key input) else some (.deadline schedule)

/-- Take an input off the queue. -/
def Cycle.take (key : PendingKey) (input : RuntimeInputV1) (cycle : Cycle) : Cycle :=
  { cycle.mark (.taken · key input) with pending := cycle.pending.erase key }

/-- The loop of `run_until`. -/
def runLoop (host : Host) (now : Nat) : Nat → RuntimeM Unit
  | 0 => throw .outOfFuel
  | fuel + 1 => do
    match (← get).nextDue now with
    | none => pure ()
    | some (.pending key input) => do
      modify (Cycle.take key input)
      processInput host key.atMonotonicMs key.ingressOrdinal input now
      runLoop host now fuel
    | some (.deadline schedule) => do
      modify fun cycle => { cycle with schedules := cycle.schedules.erase schedule }
      processDeadline host schedule now
      runLoop host now fuel

/-- How often the loop can go around. -/
def RuntimeCore.loopBound (core : RuntimeCore) : Nat := core.pending.size + core.schedules.size

/-- Stage a refusal and latch every consumer blind. -/
def Cycle.refuseBlind (host : Host) (report : RefusalReport) (atMs : Nat) (detail : Text)
    (cycle : Cycle) : RuntimeRefusalV1 × Cycle :=
  let (refusal, counted) := cycle.refusal report
  (refusal, (counted.stageRefusal host refusal).latchBlindAll host atMs detail)

/-- The clock of a call moves forward and the requests that expired are forgotten. -/
def Cycle.advance (now : Nat) (cycle : Cycle) : Cycle :=
  { cycle with
    currentMonotonicMs := now
    requestOwners := cycle.requestOwners.filter fun _ owner => decide (now < owner.2) }

/-- The end of `run_until`: latch an exhausted history. -/
def Cycle.latchIfExhausted (host : Host) (now : Nat) (cycle : Cycle) : Cycle :=
  if cycle.historyExhausted then (cycle.latchHistoryBlindness host now).takePendingOutput
  else cycle

/-- `ReceiverSchedulerRuntime::run_until`. -/
def runUntil (host : Host) (now : Nat) : RuntimeM RuntimeCycleOutputV1 := do
  modify Cycle.beginCall
  let cycle ← get
  let current := cycle.currentMonotonicMs
  if now < current then
    modify fun cycle => (cycle.refuseBlind host
      { refusalClass := .clockRegression
        atMs := current
        configuredBound := current
        observedCount := now
        detail := "scheduler time regressed within one receiver clock generation" }
      current "scheduler monotonic clock regressed").2.takePendingOutput
  else do
    modify fun cycle => (cycle.advance now).takePendingOutput
    runLoop host now (cycle.loopBound + 1)
    modify (Cycle.latchIfExhausted host now)
  return (← get).output

/-! ## Ingress -/

/-- Stage a refusal, latch, and return the refusal to the caller. -/
def refuseInput (host : Host) (report : RefusalReport) (atMs : Nat) (detail : Text) :
    RuntimeM Nat := do
  let (refusal, next) := (← get).refuseBlind host report atMs detail
  set next
  throw (.refused refusal)

/-- `ReceiverSchedulerRuntime::enqueue`. -/
def enqueue (host : Host) (atMs : Nat) (input : RuntimeInputV1) : RuntimeM Nat := do
  modify Cycle.beginCall
  let cycle ← get
  let current := cycle.currentMonotonicMs
  if cycle.historyExhausted then do
    let (refusal, counted) := cycle.refusal
      { refusalClass := .runtimeBlind
        atMs := current
        configuredBound := cycle.config.bounds.maximumSparseEvents
        observedCount := cycle.sparseHistory.length + 1
        detail := "sparse historical custody is exhausted; new runtime input is fail-stopped" }
    set ((counted.stageRefusal host refusal).latchHistoryBlindness host current)
    throw (.refused refusal)
  else if atMs < current then
    refuseInput host
      { refusalClass := .clockRegression
        atMs := current
        configuredBound := current
        observedCount := atMs
        detail := "input time regressed within one receiver clock generation" }
      current "input time regressed within one receiver clock generation"
  else if cycle.pending.size ≥ cycle.config.bounds.maximumPendingInputs then do
    modify fun cycle => cycle.measure fun metrics =>
      { metrics with queueRefusalCount := satAdd metrics.queueRefusalCount 1 }
    refuseInput host
      { refusalClass := .pendingQueueCapacity
        atMs := atMs
        configuredBound := cycle.config.bounds.maximumPendingInputs
        observedCount := cycle.pending.size + 1
        detail := "pending input queue is full; the new input was refused and monitor blindness latched" }
      atMs "pending input queue saturated; at least one receiver input was not admitted"
  else if cycle.ingressCounter = u64Max then
    refuseInput host
      { refusalClass := .runtimeBlind
        atMs := atMs
        configuredBound := u64Max
        observedCount := u64Max
        detail := "receiver ingress ordinal space is exhausted; input was refused" }
      atMs "receiver ingress ordinal space is exhausted"
  else do
    let ordinal := cycle.ingressCounter + 1
    let key : PendingKey :=
      ⟨atMs, input.priority, input.orderingSubject, input.orderingDiscriminator, ordinal⟩
    modify fun cycle =>
      { cycle with ingressCounter := ordinal, pending := cycle.pending.insert key input }
    return ordinal

/-! ## Management -/

/-- `ReceiverSchedulerRuntime::ensure_time_not_regressed`. -/
def ensureTimeNotRegressed (host : Host) (atMs : Nat) : RuntimeM Unit := do
  let current := (← get).currentMonotonicMs
  if atMs < current then do
    modify (Cycle.latchBlindAll host current
      "runtime management time regressed within one clock generation")
    fail "clock_regression" "runtime operation time regressed"
  else
    modify fun cycle => { cycle with currentMonotonicMs := atMs }

/-- The fail-stop of a management operation once history is exhausted. -/
def failIfExhausted (detail : Text) : RuntimeM Unit := do
  if (← get).historyExhausted then fail "sparse_history_capacity" detail else pure ()

/-- The capacity and history checks of `register_consumer`. -/
def checkRegistration (host : Host) (registration : ConsumerRegistrationV1) : RuntimeM Unit := do
  let cycle ← get
  let key := policyKey registration.policy
  if cycle.consumers.contains key then
    fail "consumer_exists" "consumer is already registered for the subject"
  else if !cycle.subjects.contains key.subject &&
      decide (cycle.subjects.size ≥ cycle.config.bounds.maximumSubjects) then do
    modify fun cycle => cycle.measure fun metrics =>
      { metrics with subjectRefusalCount := satAdd metrics.subjectRefusalCount 1 }
    fail "subject_capacity" "subject cardinality bound is full"
  else if (cycle.subjects[key.subject]?.elim 0 fun state => state.consumers.size) ≥
      cycle.config.bounds.maximumConsumersPerSubject then
    fail "consumer_capacity" "consumer cardinality bound is full for the subject"
  else if cycle.consumers.size ≥ cycle.config.bounds.maximumScheduledDeadlines then do
    modify fun cycle => cycle.measure fun metrics =>
      { metrics with deadlineRefusalCount := satAdd metrics.deadlineRefusalCount 1 }
    fail "scheduled_deadline_capacity" "no deadline slot can be reserved for another consumer"
  else if cycle.historicalActivationIds.contains registration.context.activationId then
    fail "reused_activation" "historical context activation identity cannot be reactivated"
  else if cycle.policyRebound host registration.policy then
    fail "policy_generation_rebound"
      "historical reliance-policy generation identity names different semantic content"
  else pure ()

/-- The evaluator of a registration. -/
def RuntimeCore.newEvaluator (core : RuntimeCore) (registration : ConsumerRegistrationV1) :
    Except EvaluatorError Evaluator :=
  Evaluator.new registration.policy core.config.receiver core.config.receiverIncarnation
    core.config.clockId registration.subjectIncarnation

/-- The state a consumer is registered with. -/
def initialState (registration : ConsumerRegistrationV1) (evaluator : Evaluator) :
    ConsumerState where
  evaluator := evaluator
  context := registration.context
  seenActivations := .ofList [registration.context.activationId]
  certificate := none

/-- Enter a consumer and its subject. -/
def Cycle.enrol (host : Host) (registration : ConsumerRegistrationV1) (evaluator : Evaluator)
    (cycle : Cycle) : Cycle :=
  let key := policyKey registration.policy
  let marked := cycle.mark (.registered · registration)
  let subject := marked.subjects[key.subject]?.getD {}
  ({ marked with
    consumers := marked.consumers.insert key (initialState registration evaluator)
    subjects := marked.subjects.insert key.subject
      { subject with
        consumers := subject.consumers.insert key.consumer
        subjectIncarnations :=
          subject.subjectIncarnations.insert registration.subjectIncarnation } } :
    Cycle).rememberActivation host registration.policy registration.context

/-- A registration in its time: the checks, the tables and the first evaluation. -/
def registerInTime (host : Host) (registration : ConsumerRegistrationV1) (atMs : Nat) :
    RuntimeM RuntimeCycleOutputV1 := do
  orFail (registration.validate host.sha256)
  checkRegistration host registration
  match (← get).newEvaluator registration with
  | .error error => throw (.error (.fromEvaluator error))
  | .ok evaluator => do
    let key := policyKey registration.policy
    modify (Cycle.enrol host registration evaluator)
    visit host (.at key (.barrier (.generationTransition
        "initial exact reliance context activated; no prior standing exists")) atMs)
      (initialState registration evaluator)
      { after := Cycle.recordContextTransition host key none registration.context
          .initialActivation registration.subjectIncarnation atMs }
    return (← get).output

/-- `ReceiverSchedulerRuntime::register_consumer`.  The source evaluates the barrier
before it enters the consumer; the evaluator does not see the runtime, so the order does
not matter. -/
def registerConsumer (host : Host) (registration : ConsumerRegistrationV1) (atMs : Nat) :
    RuntimeM RuntimeCycleOutputV1 := do
  modify Cycle.beginCall
  failIfExhausted "sparse historical custody is exhausted; registration is fail-stopped"
  ensureTimeNotRegressed host atMs
  registerInTime host registration atMs

/-- Raise a binding barrier for a consumer, if it is registered. -/
def barBinding (host : Host) (key : ConsumerKey) (detail : Text) (atMs : Nat) :
    RuntimeM Unit := do
  match (← get).consumers[key]? with
  | none => pure ()
  | some state =>
    visit host (.at key (.barrier (.qualifiedGenerationBinding detail)) atMs) state

/-- The context an activation is verified in. -/
def RuntimeCore.activationContext (host : Host) (core : RuntimeCore)
    (registration : ConsumerRegistrationV1) (atMs : Nat)
    (measurements : List ArtifactMeasurementV1) : LocalActivationContextV1 where
  expectedGenerationSet := .fromContext registration.policy.subject
    registration.policy.consumer registration.context
  receiverIncarnation := core.config.receiverIncarnation
  receiverClockId := core.config.clockId
  activatedAtMonotonicMs := atMs
  runtimeVersion := host.runtimeVersion
  targetPlatform := host.targetPlatform
  semanticMeasurements := measurements

/-- The bytes of a qualification package. -/
structure PackageBytes where
  manifest : Option (List UInt8)
  certificate : Option (List UInt8)
  report : Option (List UInt8)

/-- The checks of `activate_qualified_binding`, up to the verified attempt. -/
def attemptActivation (host : Host) (registration : ConsumerRegistrationV1)
    (package : PackageBytes) (acceptance : LocalActivationAcceptanceV1) (atMs : Nat) :
    RuntimeM LocalActivationAttemptV1 := do
  let cycle ← get
  let bounds := cycle.config.bounds
  let slots := bounds.maximumSubjects * bounds.maximumConsumersPerSubject
  if slots > u64Max then
    fail "invalid_bounds" "binding slot bound overflow"
  else if !cycle.qualifiedBindings.contains (policyKey registration.policy) &&
      decide (cycle.qualifiedBindings.size ≥ slots) then
    fail "qualified_binding_capacity" "qualified binding slot bound is full; no entry was evicted"
  else
    match activeRuntimeMeasurements host cycle.config registration with
    | .error error => fail error.code error.detail
    | .ok measurements => do
      modify fun cycle => { cycle with probes := cycle.probes + 1 }
      match host.verifyLocalActivation package.manifest package.certificate package.report
          acceptance (cycle.activationContext host registration atMs measurements)
          cycle.probes with
      | .error error => fail error.code error.detail
      | .ok attempt => pure attempt

/-- `ReceiverSchedulerRuntime::activate_qualified_binding`. -/
def activateQualifiedBinding (host : Host) (registration : ConsumerRegistrationV1)
    (package : PackageBytes) (acceptance : LocalActivationAcceptanceV1) (atMs : Nat) :
    RuntimeM (ActivationReceiptV1 × RuntimeCycleOutputV1) := do
  modify Cycle.beginCall
  failIfExhausted "sparse historical custody is exhausted; binding is fail-stopped"
  ensureTimeNotRegressed host atMs
  orFail (registration.validate host.sha256)
  let attempt ← attemptActivation host registration package acceptance atMs
  let key := policyKey registration.policy
  let receipt := attempt.receipt
  modify fun cycle =>
    ((({ cycle with
      qualifiedBindings := cycle.qualifiedBindings.insert key
        ⟨receipt.body.state, receipt, acceptance, attempt.accepted⟩ } :
      Cycle).takePendingOutput).recordSparse host atMs
        (.qualifiedGenerationBindingChanged receipt)).cancelSchedule key
  barBinding host key ("qualified-generation activation result is " ++
    receipt.body.state.debug ++ "; prior standing is not inherited") atMs
  modify fun cycle => (cycle.trace atMs ("BINDING consumer=" ++ key.consumer.text ++
    " state=" ++ receipt.body.state.debug ++ " receipt=" ++ receipt.receiptDigest.text ++
    " standing_inherited=false")).takePendingOutput
  return (receipt, (← get).output)

/-- The binding state a lifecycle fact leads to. -/
def lifecycleState : GenerationLifecycleKindV1 → RuntimeBindingStateV1
  | .superseded => .superseded
  | .revoked => .revoked

/-- The slot after an accepted lifecycle fact. -/
def QualifiedBindingSlot.retire (fact : GenerationLifecycleFactV1)
    (slot : QualifiedBindingSlot) : QualifiedBindingSlot :=
  { slot with
    state := lifecycleState fact.body.kind
    accepted := none
    acceptance := { slot.acceptance with
      certificateStatus :=
        match fact.body.kind with
        | .superseded => .superseded fact
        | .revoked => .revoked fact } }

/-- The checks of `apply_generation_lifecycle_fact` against a slot. -/
def QualifiedBindingSlot.acceptsFact (fact : GenerationLifecycleFactV1)
    (slot : QualifiedBindingSlot) : Except RuntimeError Unit :=
  match slot.acceptance.certificateStatus with
  | .accepted observedThrough =>
    refuseIf (decide (fact.body.authorityId ≠ slot.acceptance.lifecycleAuthorityId) ||
        decide (fact.body.certificateDigest ≠ slot.acceptance.acceptedCertificateDigest) ||
        decide (fact.body.factSequence ≤ observedThrough))
      ⟨"lifecycle_authority_mismatch",
        "fact authority, certificate, or sequence is not accepted by local policy"⟩
  | _ => .error ⟨"lifecycle_already_terminal",
      "binding lifecycle is already superseded, revoked, or unknown"⟩

/-- `ReceiverSchedulerRuntime::apply_generation_lifecycle_fact`. -/
def applyGenerationLifecycleFact (host : Host) (key : ConsumerKey)
    (fact : GenerationLifecycleFactV1) (atMs : Nat) : RuntimeM RuntimeCycleOutputV1 := do
  modify Cycle.beginCall
  failIfExhausted "sparse historical custody is exhausted; lifecycle change is fail-stopped"
  ensureTimeNotRegressed host atMs
  orFail ((fact.validate host.sha256 host.lifecycleFactBodyJson).mapError fun error =>
    ⟨error.code, error.detail⟩)
  match (← get).qualifiedBindings[key]? with
  | none => fail "unbound_generation" "no active local binding exists for this lifecycle fact"
  | some slot => do
    orFail (slot.acceptsFact fact)
    let state := lifecycleState fact.body.kind
    modify fun cycle =>
      ((({ cycle with
        qualifiedBindings := cycle.qualifiedBindings.insert key (slot.retire fact) } :
        Cycle).cancelSchedule key).takePendingOutput).recordSparse host atMs
          (.qualifiedGenerationLifecycleApplied key.consumer fact state false)
    barBinding host key
      ("accepted local lifecycle fact changed binding to " ++ state.debug) atMs
    modify fun cycle => (cycle.trace atMs ("LIFECYCLE consumer=" ++ key.consumer.text ++
      " state=" ++ state.debug ++ " standing_preserved=false")).takePendingOutput
    return (← get).output

/-- `ReceiverSchedulerRuntime::declare_external_monitor_blindness`. -/
def declareExternalMonitorBlindness (host : Host) (atMs : Nat) (state detail : Text) :
    RuntimeM RuntimeCycleOutputV1 := do
  modify Cycle.beginCall
  ensureTimeNotRegressed host atMs
  modify fun cycle => ((cycle.takePendingOutput.recordSparse host atMs
    (.monitorCapabilityChanged state detail)).latchBlindAll host atMs detail).takePendingOutput
  return (← get).output

end ConstellationMonitor.Runtime

/-
  The input handlers of the runtime (`process_input` and its helpers in
  `pulse-runtime/src/lib.rs`).
-/
import ConstellationMonitor.Runtime.Apply

namespace ConstellationMonitor.Runtime

open Foundation ConstellationMonitor.Types Evaluation

/-! ## Validation -/

/-- `validate_policy_context`. -/
def validatePolicyContext (sha256 : Sha256) (policy : ReliancePolicyV1)
    (context : RelianceContextV1) : Except RuntimeError Unit := do
  context.validate.mapError fun error => ⟨error.code, error.detail⟩
  refuseIf (decide (context.reliancePolicyGeneration ≠ policy.generation) ||
      decide (context.reliancePolicySemanticDigest ≠ policy.semanticDigest sha256) ||
      decide (context.observationPolicyGeneration ≠ policy.observationPolicyGeneration))
    ⟨"context_binding_mismatch",
      "reliance context does not exactly bind the policy generation, body, and admitted observation generation"⟩

/-- `ReceiverSchedulerRuntime::validate_registration`. -/
def ConsumerRegistrationV1.validate (sha256 : Sha256) (registration : ConsumerRegistrationV1) :
    Except RuntimeError Unit := do
  registration.policy.validate.mapError fun error => ⟨"invalid_policy", error⟩
  registration.subjectIncarnation.validate.mapError fun _ =>
    ⟨"invalid_identity", "invalid subject incarnation"⟩
  validatePolicyContext sha256 registration.policy registration.context

/-- `ReceiverSchedulerRuntime::validate_activation`. -/
def ConsumerActivationV1.validate (sha256 : Sha256) (activation : ConsumerActivationV1) :
    Except RuntimeError Unit := do
  activation.policy.validate.mapError fun error => ⟨"invalid_policy", error⟩
  validatePolicyContext sha256 activation.policy activation.context

/-- The consumer a policy is for. -/
def policyKey (policy : ReliancePolicyV1) : ConsumerKey := ⟨policy.subject, policy.consumer⟩

/-- The key under which the body of a policy generation is remembered. -/
def policyBodyKey (policy : ReliancePolicyV1) : SubjectId × ConsumerId × PolicyGenerationId :=
  (policy.subject, policy.consumer, policy.generation)

/-! ## Deadlines -/

/-- What `process_deadline` does between the evaluator call and applying its result. -/
def Cycle.noteDeadline (host : Host) (schedule : ScheduleKey) (evaluatedAt : Nat)
    (cycle : Cycle) : Cycle :=
  let deadline := schedule.deadlineMonotonicMs
  let overshoot := evaluatedAt - deadline
  ((cycle.accountLateness deadline evaluatedAt).recordSparse host evaluatedAt
    (.schedulerReevaluated schedule.consumer schedule.activationId deadline evaluatedAt
      overshoot)).trace evaluatedAt
    ("DEADLINE consumer=" ++ schedule.consumer.text ++ " expected=" ++ Text.decimal deadline ++
      "ms actual=" ++ Text.decimal evaluatedAt ++ "ms overshoot=" ++ Text.decimal overshoot ++
      "ms")

/-- `ReceiverSchedulerRuntime::process_deadline`. -/
def processDeadline (host : Host) (schedule : ScheduleKey) (evaluatedAt : Nat) :
    RuntimeM Unit := do
  match (← get).consumers[schedule.owner]? with
  | none => pure ()
  | some state =>
    if state.context.activationId ≠ schedule.activationId then pure ()
    else
      visit host (.at schedule.owner .tick evaluatedAt) state
        { after := Cycle.noteDeadline host schedule evaluatedAt }

/-! ## Activations -/

/-- `ReceiverSchedulerRuntime::record_context_transition`. -/
def Cycle.recordContextTransition (host : Host) (key : ConsumerKey)
    (priorContext : Option RelianceContextV1) (newContext : RelianceContextV1)
    (cause : GenerationTransitionCauseV1) (subjectIncarnation : IncarnationId) (atMs : Nat)
    (cycle : Cycle) : Cycle :=
  cycle.recordSparse host atMs (.relianceContextTransition
    { schemaVersion := schemaVersionV1
      subjectScope :=
        { subject := key.subject
          subjectIncarnation := subjectIncarnation
          scope := cycle.consumers[key]?.elim (Text.ofString "unknown") fun state =>
            state.evaluator.policy.scope }
      consumer := key.consumer
      priorContext := priorContext
      newContext := newContext
      cause := cause
      atMonotonicMs := atMs
      standingInherited := false })

/-- Remember that a context was activated and which body its policy generation names. -/
def Cycle.rememberActivation (host : Host) (policy : ReliancePolicyV1)
    (context : RelianceContextV1) (cycle : Cycle) : Cycle :=
  { cycle with
    historicalActivationIds := cycle.historicalActivationIds.insert context.activationId
    historicalPolicyBodies := cycle.historicalPolicyBodies.insert (policyBodyKey policy)
      (policy.semanticDigest host.sha256) }

/-- Whether a policy generation is already bound to another body. -/
def Cycle.policyRebound (host : Host) (policy : ReliancePolicyV1) (cycle : Cycle) : Bool :=
  cycle.historicalPolicyBodies[policyBodyKey policy]?.any fun digest =>
    decide (digest ≠ policy.semanticDigest host.sha256)

/-- Refuse an activation and latch the consumer blind. -/
def Cycle.refuseActivation (host : Host) (key : ConsumerKey) (evaluatedAt : Nat)
    (refusalClass : RuntimeRefusalClassV1) (configuredBound observedCount : Nat)
    (detail latchDetail : Text) (cycle : Cycle) : Cycle :=
  (cycle.pushRefusal host
    { refusalClass := refusalClass
      atMs := evaluatedAt
      subject := some key.subject
      consumer := some key.consumer
      configuredBound := configuredBound
      observedCount := observedCount
      detail := detail }).latchBlindConsumer host evaluatedAt latchDetail key

/-- Count a refused context. -/
def Cycle.countContextRefusal (cycle : Cycle) : Cycle :=
  cycle.measure fun metrics =>
    { metrics with contextRefusalCount := satAdd metrics.contextRefusalCount 1 }

/-- What `activate_consumer` does between the evaluator call and applying its result. -/
def Cycle.noteActivation (host : Host) (key : ConsumerKey) (prior : ConsumerState)
    (activation : ConsumerActivationV1) (logicalAt evaluatedAt : Nat) (cycle : Cycle) : Cycle :=
  let cancelled := (cycle.rememberActivation host activation.policy
    activation.context).cancelSchedule key
  let latency := evaluatedAt - logicalAt
  let measured :=
    if prior.holdsCurrent then
      cancelled.measure fun metrics =>
        { metrics with
          policyTransitionWithdrawalLatencyMs :=
            max metrics.policyTransitionWithdrawalLatencyMs latency
          maximumStalePositiveDurationMs := max metrics.maximumStalePositiveDurationMs latency }
    else cancelled
  let subjectIncarnation := measured.consumers[key]?.elim
    prior.evaluator.currentSubjectIncarnation fun state =>
      state.evaluator.currentSubjectIncarnation
  (measured.recordContextTransition host key (some prior.context) activation.context
    activation.cause subjectIncarnation evaluatedAt).trace evaluatedAt
      ("CONTEXT consumer=" ++ key.consumer.text ++ " cause=" ++ activation.cause.debug ++
        " standing_inherited=false")

/-- The barrier an activation raises. -/
def activationBarrier (prior next : ContextActivationId) : ReevaluationBarrierV1 :=
  .generationTransition ("exact reliance context changed from " ++ prior.text ++ " to " ++
    next.text ++ "; prior CURRENT was not inherited")

/-- The part of `activate_consumer` for an activation that is not refused. -/
def admitActivation (host : Host) (logicalAt : Nat) (activation : ConsumerActivationV1)
    (evaluatedAt : Nat) (state : ConsumerState) : RuntimeM Unit :=
  let key := policyKey activation.policy
  visit host
    (.at key (.replacePolicy activation.policy (activationBarrier state.context.activationId
      activation.context.activationId)) evaluatedAt) state
    { before := modify (Cycle.invalidateBindingForContextChange host key activation.context
        evaluatedAt)
      update := fun state =>
        { state with
          seenActivations := state.seenActivations.insert activation.context.activationId
          context := activation.context }
      after := Cycle.noteActivation host key state activation logicalAt evaluatedAt }

/-- `ReceiverSchedulerRuntime::activate_consumer`.  The source takes the state out before
its checks and puts it back on each refusal; here the checks look at it in place. -/
def activateConsumer (host : Host) (logicalAt : Nat) (activation : ConsumerActivationV1)
    (evaluatedAt : Nat) : RuntimeM Unit := do
  orFail (activation.validate host.sha256)
  let key := policyKey activation.policy
  let cycle ← get
  match cycle.consumers[key]? with
  | none => fail "unknown_consumer" "activation consumer is not registered"
  | some state =>
    let bound := cycle.config.bounds.maximumContextActivationsPerConsumer
    if state.seenActivations.contains activation.context.activationId ||
        cycle.historicalActivationIds.contains activation.context.activationId then
      modify fun cycle => cycle.countContextRefusal.refuseActivation host key evaluatedAt
        .reusedActivation bound state.seenActivations.size
        "context activation identity was already used; standing was withdrawn"
        "reused context activation identity was refused"
    else if state.seenActivations.size ≥ bound then
      modify fun cycle => cycle.countContextRefusal.refuseActivation host key evaluatedAt
        .contextHistoryCapacity bound (bound + 1)
        "consumer context activation history is full"
        "consumer context history capacity was exceeded"
    else if cycle.policyRebound host activation.policy then
      modify fun cycle => cycle.refuseActivation host key evaluatedAt .invalidBinding 1 2
        "one reliance-policy generation identity was rebound to different semantic content"
        "reliance-policy generation identity was rebound"
    else admitActivation host logicalAt activation evaluatedAt state

/-! ## Subject replacement -/

/-- Whether two neighbours are equal. -/
def adjacentEqual : List ConsumerId → Bool
  | first :: second :: rest => decide (first = second) || adjacentEqual (second :: rest)
  | _ => false

/-- The validation loop of `replace_subject_incarnation`. -/
def validateReplacements (sha256 : Sha256) (subject : SubjectId)
    (activations : List ConsumerActivationV1) : Except RuntimeError Unit :=
  forM activations fun activation => do
    activation.validate sha256
    refuseIf (decide (activation.policy.subject ≠ subject))
      ⟨"subject_mismatch", "subject replacement activation names another subject"⟩

/-- The loop body of `replace_subject_incarnation`. -/
def replaceConsumer (host : Host) (logicalAt : Nat) (subject : SubjectId)
    (replacement : IncarnationId) (evaluatedAt : Nat) (activation : ConsumerActivationV1) :
    RuntimeM Unit := do
  let key : ConsumerKey := ⟨subject, activation.policy.consumer⟩
  match (← get).consumers[key]? with
  | none => throw (.panic "consumer exists")
  | some state => do
    visit host (.at key (.replaceSubject replacement) evaluatedAt) state
      { after := Cycle.cancelSchedule key }
    activateConsumer host logicalAt activation evaluatedAt
    modify (Cycle.trace evaluatedAt ("SUBJECT consumer=" ++ key.consumer.text ++
      " prior_activation=" ++ state.context.activationId.text ++ " replacement=" ++
      replacement.text ++ " standing_inherited=false"))

/-- Change the state of a known subject. -/
def Cycle.modifySubject (subject : SubjectId) (f : SubjectState → SubjectState) (cycle : Cycle) :
    Cycle :=
  { cycle with subjects := cycle.subjects.modify subject f }

/-- Note the replacement incarnation of a subject. -/
def SubjectState.addIncarnation (incarnation : IncarnationId) (state : SubjectState) :
    SubjectState :=
  { state with subjectIncarnations := state.subjectIncarnations.insert incarnation }

/-- Tell the tracker of a subject replacement. -/
def trackReplacement (subject : SubjectId) (replacement : IncarnationId) : RuntimeM Unit := do
  match (← get).receiver.activateSubjectIncarnation subject replacement with
  | .error error => fail "receiver_refusal" (pulseErrorText error)
  | .ok receiver =>
    modify fun cycle =>
      { cycle.mark (.replaced · subject replacement) with receiver := receiver }

/-- The part of `replace_subject_incarnation` after the capacity check. -/
def replaceConsumers (host : Host) (logicalAt : Nat) (subject : SubjectId)
    (replacement : IncarnationId) (activations : List ConsumerActivationV1)
    (registered : List ConsumerId) (evaluatedAt : Nat) : RuntimeM Unit := do
  let sorted := activations.insertionSort fun left right =>
    (compare left.policy.consumer right.policy.consumer).isLE
  let supplied := sorted.map fun activation => activation.policy.consumer
  if registered ≠ supplied ∨ adjacentEqual supplied then
    fail "incomplete_subject_transition"
      "subject replacement must activate every registered consumer exactly once"
  else do
    orFail (validateReplacements host.sha256 subject sorted)
    trackReplacement subject replacement
    forM sorted (replaceConsumer host logicalAt subject replacement evaluatedAt)
    modify (Cycle.modifySubject subject (SubjectState.addIncarnation replacement))

/-- `ReceiverSchedulerRuntime::replace_subject_incarnation`. -/
def replaceSubjectIncarnation (host : Host) (logicalAt : Nat) (subject : SubjectId)
    (replacement : IncarnationId) (activations : List ConsumerActivationV1)
    (evaluatedAt : Nat) : RuntimeM Unit := do
  orFail (replacement.validate.mapError fun _ =>
    ⟨"invalid_identity", "invalid subject incarnation"⟩)
  let cycle ← get
  match cycle.subjects[subject]? with
  | none => fail "unknown_subject" "subject replacement target is unknown"
  | some state =>
    let bound := cycle.config.bounds.maximumSubjectIncarnationsPerSubject
    if !state.subjectIncarnations.contains replacement &&
        decide (state.subjectIncarnations.size ≥ bound) then
      modify fun cycle => (cycle.pushRefusal host
        { refusalClass := .incarnationHistoryCapacity
          atMs := evaluatedAt
          subject := some subject
          configuredBound := bound
          observedCount := state.subjectIncarnations.size + 1
          detail := "subject incarnation history bound is full" }).latchBlindSubject host
            subject evaluatedAt "subject incarnation history capacity was exceeded"
    else
      replaceConsumers host logicalAt subject replacement activations state.consumers.toList
        evaluatedAt

end ConstellationMonitor.Runtime

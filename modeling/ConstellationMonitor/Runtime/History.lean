/-
  Recovery of history (`recover` of `pulse-runtime/src/lib.rs`), and the runs of a runtime.
-/
import ConstellationMonitor.Runtime.Operations

namespace ConstellationMonitor.Runtime

open Foundation ConstellationMonitor.Types Evaluation
open Std (ExtTreeMap ExtTreeSet)

/-! ## Custody -/

/-- The key under which contradiction custody is merged. -/
def custodyKey (custody : ContradictionCustodyV1) : SubjectId × ConsumerId × ContradictionId :=
  (custody.contradiction.subjectScope.subject, custody.consumer,
    custody.contradiction.contradictionId)

/-- Custody records merged by key; a later record takes the place of an earlier one. -/
def mergeCustody (records : List ContradictionCustodyV1) :
    ExtTreeMap (SubjectId × ConsumerId × ContradictionId) ContradictionCustodyV1 :=
  records.foldl (fun merged custody => merged.insert (custodyKey custody) custody) ∅

/-! ## Recovery -/

/-- Whether recovery reinstates a custody record. -/
def blocksReliance (custody : ContradictionCustodyV1) : Bool :=
  (match custody.applicability with
    | .applicable _ blocks => blocks
    | .inapplicableBySubjectReplacement _ _ _ _ => false) && custody.contradiction.isActive

/-- The consumer a custody record is for. -/
def custodyOwner (custody : ContradictionCustodyV1) : ConsumerKey :=
  ⟨custody.contradiction.subjectScope.subject, custody.consumer⟩

/-- The records to reinstate, grouped by consumer. -/
def groupBlocking (custodies : List ContradictionCustodyV1) :
    ExtTreeMap ConsumerKey (List ContradictionRecordV1) :=
  (custodies.filter blocksReliance).foldl
    (fun grouped custody => grouped.insert (custodyOwner custody)
      (grouped[custodyOwner custody]?.getD [] ++ [custody.contradiction])) ∅

/-- Remember the context transition of a recovered event. -/
def rememberTransition (runtime : ReceiverSchedulerRuntime) (event : SparseDurableEventV1) :
    Except RuntimeError ReceiverSchedulerRuntime :=
  match event.event with
  | .relianceContextTransition transition => do
    let context := transition.newContext
    let bodyKey := (transition.subjectScope.subject, transition.consumer,
      context.reliancePolicyGeneration)
    refuseIf (runtime.historicalPolicyBodies[bodyKey]?.any fun digest =>
        decide (digest ≠ context.reliancePolicySemanticDigest))
      ⟨"historical_generation_rebound",
        "historical context transitions bind one policy generation to different bodies"⟩
    return { runtime with
      historicalActivationIds := runtime.historicalActivationIds.insert context.activationId
      historicalPolicyBodies := runtime.historicalPolicyBodies.insert bodyKey
        context.reliancePolicySemanticDigest }
  | _ => .ok runtime

/-- The first part of `recover`: a new runtime that holds the history. -/
def restoredRuntime (config : RuntimeConfigV1) (history : RuntimeHistoricalStateV1) :
    Except RuntimeError ReceiverSchedulerRuntime := do
  history.validate.mapError fun error => ⟨error.code, error.detail⟩
  config.validate
  refuseIf (decide (history.sparseEvents.length > config.bounds.maximumSparseEvents) ||
      decide (history.contradictions.length > config.bounds.maximumSparseEvents) ||
      decide (history.diagnosticReceipts.length > config.bounds.maximumDiagnosticReceipts))
    ⟨"historical_capacity", "historical state exceeds configured runtime bounds"⟩
  let runtime ← ReceiverSchedulerRuntime.new config
  history.sparseEvents.foldlM rememberTransition
    { runtime with
      sparseHistory := history.sparseEvents
      historicalContradictions := history.contradictions
      diagnosticReceipts := history.diagnosticReceipts
      eventCounter := history.sparseEvents.length
      metrics :=
        { runtime.metrics with
          recoveredSparseRecordCount := history.sparseEvents.length
          recoveredReceiptCount := history.diagnosticReceipts.length } }

/-- The registration loop of `recover`. -/
def recoverConsumer (host : Host) (prior : ExtTreeSet ContextActivationId) (atMs : Nat)
    (registration : ConsumerRegistrationV1) : RuntimeM Unit := do
  if prior.contains registration.context.activationId then
    fail "reused_activation" "restart requires a new context activation identity"
  else do
    let output := (← get).output
    let registered ← registerConsumer host registration atMs
    modify fun cycle => { cycle with output := output.append registered }

/-- Reinstate the records of a consumer. -/
def reinstateRecords (entry : ConsumerKey × List ContradictionRecordV1) : RuntimeM Unit := do
  match (← get).consumers[entry.1]? with
  | none => fail "historical_binding" "contradiction history has no registered consumer"
  | some state =>
    match state.evaluator.importContradictions entry.2 with
    | .error error => throw (.error (.fromEvaluator error))
    | .ok evaluator =>
      modify (Cycle.putConsumer entry.1 { state with evaluator := evaluator })

/-- The barrier loop of `recover`. -/
def barRestart (host : Host) (atMs : Nat) (key : ConsumerKey) : RuntimeM Unit := do
  match (← get).consumers[key]? with
  | none => throw (.panic "registered recovery consumer exists")
  | some state =>
    visit host (.at key (.barrier (.receiverRestart
      "historical custody was recovered without hot evidence or current standing")) atMs) state

/-- The part of `recover` that runs in the new runtime. -/
def recoverInto (host : Host) (registrations : List ConsumerRegistrationV1)
    (custodies : List ContradictionCustodyV1) (atMs : Nat) : RuntimeM Unit := do
  let prior := (← get).historicalActivationIds
  forM registrations (recoverConsumer host prior atMs)
  forM (groupBlocking custodies).toList reinstateRecords
  forM ((← get).consumerKeys none) (barRestart host atMs)
  let cycle ← get
  modify fun cycle => cycle.recordSparse host atMs (.runtimeRestarted
    cycle.config.receiverIncarnation cycle.config.clockId
    cycle.metrics.recoveredSparseRecordCount cycle.metrics.recoveredReceiptCount false)
  modify (Cycle.trace atMs ("RESTART historical_records=" ++
    Text.decimal cycle.metrics.recoveredSparseRecordCount ++ " receipts=" ++
    Text.decimal cycle.metrics.recoveredReceiptCount ++ " current_standing=UNKNOWN"))

/-- `ReceiverSchedulerRuntime::recover`. -/
def recover (host : Host) (config : RuntimeConfigV1)
    (registrations : List ConsumerRegistrationV1) (history : RuntimeHistoricalStateV1)
    (atMs : Nat) : Except Stop Cycle := do
  let runtime ← (restoredRuntime config history).mapError .error
  match recoverInto host registrations history.contradictions atMs
      { toReceiverSchedulerRuntime := runtime } with
  | .ok _ cycle => return cycle
  | .error stop _ => throw stop

/-! ## Runs -/

/-- The public operations that change a runtime. -/
inductive Operation where
  | registerConsumer (registration : ConsumerRegistrationV1) (atMs : Nat)
  | activateQualifiedBinding (registration : ConsumerRegistrationV1) (package : PackageBytes)
      (acceptance : LocalActivationAcceptanceV1) (atMs : Nat)
  | applyGenerationLifecycleFact (subject : SubjectId) (consumer : ConsumerId)
      (fact : GenerationLifecycleFactV1) (atMs : Nat)
  | enqueue (atMs : Nat) (input : RuntimeInputV1)
  | declareExternalMonitorBlindness (atMs : Nat) (state detail : Text)
  | runUntil (now : Nat)

/-- Call an operation. -/
def Operation.perform (host : Host) : Operation → RuntimeM Unit
  | .registerConsumer registration atMs =>
    discard (Runtime.registerConsumer host registration atMs)
  | .activateQualifiedBinding registration package acceptance atMs =>
    discard (Runtime.activateQualifiedBinding host registration package acceptance atMs)
  | .applyGenerationLifecycleFact subject consumer fact atMs =>
    discard (Runtime.applyGenerationLifecycleFact host ⟨subject, consumer⟩ fact atMs)
  | .enqueue atMs input => discard (Runtime.enqueue host atMs input)
  | .declareExternalMonitorBlindness atMs state detail =>
    discard (Runtime.declareExternalMonitorBlindness host atMs state detail)
  | .runUntil now => discard (Runtime.runUntil host now)

/-- The time an operation is called with. -/
def Operation.time : Operation → Nat
  | .registerConsumer _ atMs => atMs
  | .activateQualifiedBinding _ _ _ atMs => atMs
  | .applyGenerationLifecycleFact _ _ _ atMs => atMs
  | .enqueue atMs _ => atMs
  | .declareExternalMonitorBlindness atMs _ _ => atMs
  | .runUntil now => now

/-- A call returned `Ok` and left a state. -/
def Succeeds (host : Host) (operation : Operation) (before after : Cycle) : Prop :=
  operation.perform host before = .ok () after

/-- A call returned, with `Ok` or `Err`, and left a state. -/
def Returns (host : Host) (operation : Operation) (before after : Cycle) : Prop :=
  match operation.perform host before with
  | .ok _ next => after = next
  | .error stop next => stop.returns = true ∧ after = next

/-- A runtime as `new` or `recover` makes it. -/
inductive Starts (host : Host) : Cycle → Prop where
  | new {config : RuntimeConfigV1} {runtime : ReceiverSchedulerRuntime}
      (made : ReceiverSchedulerRuntime.new config = .ok runtime) :
      Starts host { toReceiverSchedulerRuntime := runtime }
  | recover {config : RuntimeConfigV1} {registrations : List ConsumerRegistrationV1}
      {history : RuntimeHistoricalStateV1} {atMs : Nat} {cycle : Cycle}
      (made : Runtime.recover host config registrations history atMs = .ok cycle) :
      Starts host cycle

/-- A later state of the same runtime, whatever its calls returned. -/
def Reaches (host : Host) : Cycle → Cycle → Prop :=
  Relation.ReflTransGen fun before after => ∃ operation, Returns host operation before after

/-- A later state of the same runtime after calls that all returned `Ok`. -/
def ReachesOk (host : Host) : Cycle → Cycle → Prop :=
  Relation.ReflTransGen fun before after => ∃ operation, Succeeds host operation before after

/-- A state of a runtime after any sequence of calls. -/
def Reachable (host : Host) (cycle : Cycle) : Prop :=
  ∃ start, Starts host start ∧ Reaches host start cycle

/-- A state of a runtime after calls that all returned `Ok`. -/
def ReachableOk (host : Host) (cycle : Cycle) : Prop :=
  ∃ start, Starts host start ∧ ReachesOk host start cycle

end ConstellationMonitor.Runtime

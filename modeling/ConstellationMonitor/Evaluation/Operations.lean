/-
  The operations of an evaluator (`pulse-evaluator/src/evaluator.rs`).

  A caller owns the evaluator while it runs an operation and drops it when the operation
  fails, so a failed operation returns its error alone.
-/
import ConstellationMonitor.Evaluation.Evaluate

namespace ConstellationMonitor.Evaluation

open Foundation ConstellationMonitor.Types
open Std (ExtTreeMap)

/-- The variant name, as the derived `Debug` prints it. -/
def dispositionDebug : ArrivalDispositionV1 → Text
  | .first => "First"
  | .continuous => "Continuous"
  | .gap => "Gap"
  | .duplicate => "Duplicate"
  | .replay => "Replay"
  | .restarted => "Restarted"
  | .stale => "Stale"

/-- `signals_are_incompatible`. -/
def signalsAreIncompatible (left right : BoundedSignalValueV1) (tolerance : Option Float64) :
    Bool :=
  (decide (left.assessment = .withinDeclaredBound) &&
      decide (right.assessment = .outsideDeclaredBound)) ||
    (decide (left.assessment = .outsideDeclaredBound) &&
      decide (right.assessment = .withinDeclaredBound)) ||
    tolerance.any fun maximum =>
      decide (left.assessment ≠ .unavailable) && decide (right.assessment ≠ .unavailable) &&
        Float64.absDifferenceExceeds left.value right.value maximum

/-- `signal_statement`. -/
def signalStatement (platform : Platform) (observer : ObserverId)
    (signal : BoundedSignalValueV1) : Text :=
  "observer=" ++ observer.text ++ " signal=" ++ signal.name ++ " value=" ++
    platform.displayF64 signal.value ++ " unit=" ++ signal.unit ++ " assessment=" ++
    signal.assessment.debug

namespace Evaluator

/-- A new evaluator: no evidence, nothing escalated, and a monitor that works. -/
def initial (policy : ReliancePolicyV1) (receiver : ReceiverId)
    (receiverIncarnation : IncarnationId) (clockId : ClockId)
    (initialSubjectIncarnation : IncarnationId) : Evaluator where
  policy := policy
  receiver := receiver
  receiverIncarnation := receiverIncarnation
  clockId := clockId
  currentSubjectIncarnation := initialSubjectIncarnation
  retiredSubjectIncarnations := ∅
  observerLineages := ∅
  retiredObserverIncarnations := ∅
  observers := ∅
  contradictions := ∅
  diagnosticEvidence := []
  issuedRequests := ∅
  activeEscalations := ∅
  monitorCapability := .operational
  escalationState := .notRequested
  reevaluationBarrier := none
  lastJudgment := none
  lastPositiveSupportDeadlineMs := none
  lastReceiverArrivalMs := none
  lastEvaluationMs := none
  transitionCounter := 0
  requestCounter := 0
  eventCounter := 0
  metrics := {}
  faultStartedAtMs := none
  normalTrace := false
  eventLog := []

/-- `Evaluator::new`. -/
def new (policy : ReliancePolicyV1) (receiver : ReceiverId)
    (receiverIncarnation : IncarnationId) (clockId : ClockId)
    (initialSubjectIncarnation : IncarnationId) : Except EvaluatorError Evaluator := do
  policy.validate.mapError fun error => ⟨"invalid_policy", error⟩
  receiver.validate.mapError fun _ => ⟨"invalid_receiver", "invalid receiver identity"⟩
  receiverIncarnation.validate.mapError fun _ =>
    ⟨"invalid_receiver", "invalid receiver incarnation"⟩
  clockId.validate.mapError fun _ => ⟨"invalid_clock", "invalid receiver clock identity"⟩
  initialSubjectIncarnation.validate.mapError fun _ =>
    ⟨"invalid_subject", "invalid subject incarnation"⟩
  return initial policy receiver receiverIncarnation clockId initialSubjectIncarnation

/-! ## Barriers -/

/-- A barrier takes the place of whatever escalation was under way. -/
def raiseBarrier (barrier : ReevaluationBarrierV1) (evaluator : Evaluator) : Evaluator :=
  { evaluator with escalationState := .notRequested, reevaluationBarrier := some barrier }

/-- `Evaluator::install_reevaluation_barrier`. -/
def installReevaluationBarrier (platform : Platform) (barrier : ReevaluationBarrierV1)
    (atMs : Nat) (evaluator : Evaluator) : EvaluationOutput × Evaluator :=
  (evaluator.raiseBarrier barrier).evaluate platform atMs

/-- Hot observer state is kept only for the same profile and observation generation. -/
def adoptPolicy (policy : ReliancePolicyV1) (evaluator : Evaluator) : Evaluator :=
  if policy.observationProfile ≠ evaluator.policy.observationProfile ∨
      policy.observationPolicyGeneration ≠ evaluator.policy.observationPolicyGeneration then
    { evaluator with
      observers := ∅
      observerLineages := ∅
      retiredObserverIncarnations := ∅
      policy := policy }
  else { evaluator with policy := policy }

/-- `Evaluator::replace_policy`. -/
def replacePolicy (platform : Platform) (policy : ReliancePolicyV1)
    (barrier : ReevaluationBarrierV1) (atMs : Nat) (evaluator : Evaluator) :
    Except EvaluatorError (EvaluationOutput × Evaluator) := do
  policy.validate.mapError fun error => ⟨"invalid_policy", error⟩
  refuseIf (decide (policy.subject ≠ evaluator.policy.subject) ||
      decide (policy.scope ≠ evaluator.policy.scope) ||
      decide (policy.consumer ≠ evaluator.policy.consumer))
    ⟨"policy_binding_mismatch",
      "replacement policy changes evaluator subject, scope, or consumer"⟩
  return ((evaluator.adoptPolicy policy).raiseBarrier barrier).evaluate platform atMs

/-- A record made inapplicable by a configured subject replacement. -/
def retireRecord (prior replacement : IncarnationId) (atMs : Nat)
    (record : ContradictionRecordV1) : ContradictionRecordV1 :=
  { record with
    status := .inapplicableBySubjectReplacement prior replacement atMs
      "subject_incarnation_replacement/v1" }

/-- Whether a subject replacement retires a record. -/
def retiredByReplacement (prior : IncarnationId) (record : ContradictionRecordV1) : Bool :=
  record.isActive && decide (record.subjectScope.subjectIncarnation = prior)

/-- Retire the active records of the prior incarnation and log each of them. -/
def retireRecords (replacement : IncarnationId) (atMs : Nat) (evaluator : Evaluator) :
    Evaluator :=
  let prior := evaluator.currentSubjectIncarnation
  let changed := (evaluator.contradictions.values.filter (retiredByReplacement prior)).map
    (retireRecord prior replacement atMs)
  let retired : Evaluator :=
    { evaluator with
      contradictions := evaluator.contradictions.map fun _ record =>
        if retiredByReplacement prior record then retireRecord prior replacement atMs record
        else record }
  changed.foldl
    (fun state record => (state.sparseEvent atMs (.contradictionLifecycleChanged record)).2)
    retired

/-- Forget hot evidence and take up the replacement incarnation behind a barrier. -/
def adoptSubject (replacement : IncarnationId) (evaluator : Evaluator) : Evaluator :=
  let prior := evaluator.currentSubjectIncarnation
  { evaluator with
    retiredSubjectIncarnations := evaluator.retiredSubjectIncarnations.insert prior
    currentSubjectIncarnation := replacement
    observers := ∅
    observerLineages := ∅
    retiredObserverIncarnations := ∅
    diagnosticEvidence := []
    escalationState := .notRequested
    reevaluationBarrier := some (.subjectIncarnationTransition
      ("configured subject incarnation changed from " ++ prior.text ++ " to " ++
        replacement.text ++ "; old standing and hot evidence were not inherited")) }

/-- `Evaluator::replace_subject_incarnation`. -/
def replaceSubjectIncarnation (platform : Platform) (replacement : IncarnationId) (atMs : Nat)
    (evaluator : Evaluator) : Except EvaluatorError (EvaluationOutput × Evaluator) := do
  replacement.validate.mapError fun _ =>
    ⟨"invalid_subject", "invalid replacement incarnation"⟩
  refuseIf (decide (replacement = evaluator.currentSubjectIncarnation))
    ⟨"duplicate_subject_incarnation", "replacement incarnation is already active"⟩
  return ((evaluator.retireRecords replacement atMs).adoptSubject replacement).evaluate
    platform atMs

/-! ## Contradictions -/

/-- One record of `Evaluator::import_contradictions`. -/
def importContradiction (evaluator : Evaluator) (record : ContradictionRecordV1) :
    Except EvaluatorError Evaluator := do
  refuseIf (decide (record.schemaVersion ≠ schemaVersionV1) ||
      decide (record.subjectScope.subject ≠ evaluator.policy.subject))
    ⟨"invalid_contradiction_history",
      "historical contradiction does not bind this evaluator subject"⟩
  refuseIf (evaluator.contradictions[record.contradictionId]?.any fun existing =>
      decide (existing ≠ record))
    ⟨"contradiction_identity_rebound",
      "one contradiction identity names different historical content"⟩
  return { evaluator with
    contradictions := evaluator.contradictions.insert record.contradictionId record }

/-- `Evaluator::import_contradictions`. -/
def importContradictions (records : List ContradictionRecordV1) (evaluator : Evaluator) :
    Except EvaluatorError Evaluator :=
  records.foldlM importContradiction evaluator

/-- `Evaluator::create_contradiction`. -/
def createContradiction (platform : Platform) (signal : Text) (evidenceRefs statements : List Text)
    (atMs : Nat) (evaluator : Evaluator) : Evaluator :=
  let refs := sortDedup evidenceRefs
  let digest := digestParts platform.sha256 "contradiction.record.v1" <|
    [ evaluator.policy.subject.text.bytes,
      evaluator.currentSubjectIncarnation.text.bytes,
      evaluator.policy.generation.text.bytes,
      signal.bytes ] ++ refs.map Text.bytes
  let id : ContradictionId := digestIdentity "contradiction:" digest
  if evaluator.contradictions.contains id then evaluator
  else
    let record : ContradictionRecordV1 :=
      { schemaVersion := schemaVersionV1
        contradictionId := id
        subjectScope := evaluator.subjectScope
        policyGeneration := evaluator.policy.generation
        signal := signal
        firstObservedAtMonotonicMs := atMs
        evidenceRefs := refs
        incompatibleStatements := sortDedup statements
        status := .active }
    (({ evaluator with contradictions := evaluator.contradictions.insert id record } :
      Evaluator).sparseEvent atMs (.contradictionCreated record)).2

/-- `Evaluator::record_subject_incarnation_change`: a pulse that disagrees about the
incarnation is a contradiction, and the evaluator follows the pulse. -/
def recordSubjectIncarnationChange (platform : Platform) (received : ReceivedPulseV1)
    (atMs : Nat) (evaluator : Evaluator) : Evaluator :=
  let old := evaluator.currentSubjectIncarnation
  let new := received.frame.subjectIncarnation
  let references := (evaluator.relevantEvidence.map fun evidence =>
    evidenceRef evidence.received.frame) ++ [evidenceRef received.frame]
  createContradiction platform "subject_incarnation" references
    [ "subject incarnation observed as " ++ old.text,
      "subject incarnation observed as " ++ new.text ] atMs
    { evaluator with
      retiredSubjectIncarnations := evaluator.retiredSubjectIncarnations.insert old
      currentSubjectIncarnation := new }

/-- A contradiction found between an arriving pulse and standing evidence. -/
structure SignalConflict where
  signal : Text
  references : List Text
  statements : List Text

/-- The conflicts of an arriving pulse with one observer's evidence. -/
def signalConflicts (platform : Platform) (received : ReceivedPulseV1)
    (tolerances : ExtTreeMap Text Float64) (evidence : ObserverEvidence) : List SignalConflict :=
  received.frame.signals.filterMap fun incoming =>
    match evidence.received.frame.signals.find? fun signal => decide (signal.name = incoming.name)
    with
    | none => none
    | some existing =>
      if signalsAreIncompatible incoming existing tolerances[incoming.name]? then
        some
          { signal := incoming.name
            references := [evidenceRef received.frame, evidenceRef evidence.received.frame]
            statements :=
              [ signalStatement platform received.frame.observer incoming,
                signalStatement platform evidence.received.frame.observer existing ] }
      else none

/-- Whether evidence is compared with an arriving pulse. -/
def comparable (evaluator : Evaluator) (received : ReceivedPulseV1) (atMs : Nat)
    (evidence : ObserverEvidence) : Bool :=
  decide (evidence.received.frame.observer ≠ received.frame.observer) &&
    decide (evidence.received.frame.subjectIncarnation = received.frame.subjectIncarnation) &&
    decide (atMs < evidence.expiresAtMs) && evaluator.provenanceIsEligible evidence

/-- The conflicts `detect_signal_contradictions` finds. -/
def conflictsOf (platform : Platform) (received : ReceivedPulseV1) (atMs : Nat)
    (evaluator : Evaluator) : List SignalConflict :=
  (evaluator.observers.values.filter (evaluator.comparable received atMs)).flatMap
    (signalConflicts platform received evaluator.policy.coherenceTolerances)

/-- A conflict goes on record. -/
def recordConflict (platform : Platform) (atMs : Nat) (evaluator : Evaluator)
    (conflict : SignalConflict) : Evaluator :=
  evaluator.createContradiction platform conflict.signal conflict.references conflict.statements
    atMs

/-- `Evaluator::detect_signal_contradictions`. -/
def detectSignalContradictions (platform : Platform) (received : ReceivedPulseV1) (atMs : Nat)
    (evaluator : Evaluator) : Evaluator :=
  if evaluator.receivedProvenanceIsEligible received then
    (evaluator.conflictsOf platform received atMs).foldl (recordConflict platform atMs) evaluator
  else evaluator

/-- `Evaluator::record_adverse_supersession`. -/
def recordAdverseSupersession (received : ReceivedPulseV1) (atMs : Nat)
    (evaluator : Evaluator) : Evaluator :=
  match evaluator.observers[received.frame.observer]? with
  | none => evaluator
  | some prior =>
    let adverse := (prior.received.frame.signals.filter fun signal =>
      decide (signal.assessment = .outsideDeclaredBound)).map BoundedSignalValueV1.name
    if adverse.isEmpty then evaluator
    else
      let rule : Text :=
        if prior.received.frame.observerIncarnation = received.frame.observerIncarnation then
          "same_observer_newer_sequence/v1"
        else "observer_incarnation_replacement/v1"
      (evaluator.sparseEvent atMs (.adverseObservationSuperseded received.frame.observer
        (evidenceRef prior.received.frame) (evidenceRef received.frame)
        (adverse.insertionSort fun left right => (compare left right).isLE) rule)).2

end Evaluator

end ConstellationMonitor.Evaluation

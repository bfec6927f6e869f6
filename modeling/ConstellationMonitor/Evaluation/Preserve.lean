/-
  What an evaluation leaves alone, and when its category cannot be CURRENT.

  `evaluate` is cut into its stages under names; the lemmas about it are then read off
  stage by stage, and no later proof unfolds it.
-/
import ConstellationMonitor.Evaluation.Ingest

namespace ConstellationMonitor.Evaluation

open Foundation ConstellationMonitor.Types
open Relation (ReflTransGen)

namespace Evaluator

/-! ## The stages of an evaluation -/

section Stages

variable (platform : Platform) (requestedNow : Nat) (evaluator : Evaluator)

/-- The time an evaluation takes place at. -/
def evaluationTime : Nat := (evaluator.guardClock requestedNow).1

/-- The state an evaluation derives its judgment from. -/
def hotState : Evaluator :=
  (evaluator.guardClock requestedNow).2.expireRecords (evaluator.evaluationTime requestedNow)

/-- What an evaluation derives. -/
def derivation : DerivedState :=
  (evaluator.hotState requestedNow).deriveBarred (evaluator.evaluationTime requestedNow)

/-- The judgment of an evaluation, before its escalation state is known. -/
def formedJudgment : PresentStateJudgmentV1 :=
  (evaluator.hotState requestedNow).judgmentOf platform (evaluator.evaluationTime requestedNow)
    (evaluator.derivation requestedNow)

/-- The transition of an evaluation and the state that has logged it. -/
def transitioned : Option JudgmentTransitionV1 × Evaluator :=
  ((evaluator.hotState requestedNow).recordCoverage
    (evaluator.derivation requestedNow).coverage).recordTransition platform
      (evaluator.formedJudgment platform requestedNow) (evaluator.evaluationTime requestedNow)

/-- The state in which an evaluation decides about escalation. -/
def measuredState : Evaluator :=
  ((evaluator.transitioned platform requestedNow).2.updateFailureMetrics
    (evaluator.formedJudgment platform requestedNow).category
    (evaluator.evaluationTime requestedNow)).updateStalePositiveMetric
      (evaluator.formedJudgment platform requestedNow).category
      (evaluator.evaluationTime requestedNow)
      (evaluator.derivation requestedNow).supportDeadlineMs

/-- The request of an evaluation and the state that has issued it. -/
def escalatedState : Option DiagnosticEscalationRequestV1 × Evaluator :=
  (evaluator.measuredState platform requestedNow).escalateUnlessBarred platform
    (evaluator.transitioned platform requestedNow).1
    (evaluator.formedJudgment platform requestedNow) (evaluator.evaluationTime requestedNow)

theorem evaluate_judgment :
    (evaluator.evaluate platform requestedNow).1.judgment =
      { evaluator.formedJudgment platform requestedNow with
        escalation := (evaluator.escalatedState platform requestedNow).2.escalationState } := rfl

theorem evaluate_transition :
    (evaluator.evaluate platform requestedNow).1.transition =
      (evaluator.transitioned platform requestedNow).1 := rfl

end Stages

/-! ## What is left alone -/

/-- Evidence, lineage and subject are unchanged; contradictions may have been added. -/
structure SameEvidence (before after : Evaluator) : Prop where
  policy : after.policy = before.policy := by rfl
  currentSubjectIncarnation :
    after.currentSubjectIncarnation = before.currentSubjectIncarnation := by rfl
  retiredSubjectIncarnations :
    after.retiredSubjectIncarnations = before.retiredSubjectIncarnations := by rfl
  observerLineages : after.observerLineages = before.observerLineages := by rfl
  retiredObserverIncarnations :
    after.retiredObserverIncarnations = before.retiredObserverIncarnations := by rfl
  observers : after.observers = before.observers := by rfl

namespace SameEvidence

variable {first second third : Evaluator}

theorem refl (evaluator : Evaluator) : SameEvidence evaluator evaluator := by
  constructor <;> rfl

theorem trans (left : SameEvidence first second) (right : SameEvidence second third) :
    SameEvidence first third := by
  cases left
  cases right
  constructor <;> simp only [*]

theorem symm (h : SameEvidence first second) : SameEvidence second first := by
  cases h
  constructor <;> simp only [*]

end SameEvidence

/-- Policy, identity, lineage, evidence and contradictions are unchanged. -/
structure Retains (before after : Evaluator) : Prop extends SameEvidence before after where
  clockId : after.clockId = before.clockId := by rfl
  contradictions : after.contradictions = before.contradictions := by rfl
  lastReceiverArrivalMs : after.lastReceiverArrivalMs = before.lastReceiverArrivalMs := by rfl

namespace Retains

variable {first second third : Evaluator}

theorem refl (evaluator : Evaluator) : Retains evaluator evaluator := by
  constructor <;> exact .refl _

theorem trans (left : Retains first second) (right : Retains second third) :
    Retains first third where
  toSameEvidence := left.toSameEvidence.trans right.toSameEvidence
  clockId := right.clockId.trans left.clockId
  contradictions := right.contradictions.trans left.contradictions
  lastReceiverArrivalMs := right.lastReceiverArrivalMs.trans left.lastReceiverArrivalMs

end Retains

/-- The requests, the judgment and the evaluation they stand on are unchanged. -/
structure SameRequests (before after : Evaluator) : Prop where
  issuedRequests : after.issuedRequests = before.issuedRequests := by rfl
  activeEscalations : after.activeEscalations = before.activeEscalations := by rfl
  requestCounter : after.requestCounter = before.requestCounter := by rfl
  reevaluationBarrier : after.reevaluationBarrier = before.reevaluationBarrier := by rfl
  lastJudgment : after.lastJudgment = before.lastJudgment := by rfl
  lastEvaluationMs : after.lastEvaluationMs = before.lastEvaluationMs := by rfl

namespace SameRequests

variable {first second third : Evaluator}

theorem refl (evaluator : Evaluator) : SameRequests evaluator evaluator := by
  constructor <;> rfl

theorem trans (left : SameRequests first second) (right : SameRequests second third) :
    SameRequests first third := by
  cases left
  cases right
  constructor <;> simp only [*]

end SameRequests

/-- Only the log, the counters and the metrics changed. -/
structure Records (before after : Evaluator) : Prop extends
    Retains before after, SameRequests before after where
  monitorCapability : after.monitorCapability = before.monitorCapability

namespace Records

variable {first second third : Evaluator}

theorem refl (evaluator : Evaluator) : Records evaluator evaluator := by
  constructor <;> exact .refl _

theorem trans (left : Records first second) (right : Records second third) :
    Records first third where
  toRetains := left.toRetains.trans right.toRetains
  toSameRequests := left.toSameRequests.trans right.toSameRequests
  monitorCapability := right.monitorCapability.trans left.monitorCapability

/-- A change of log, counters and metrics, read off the record update. -/
theorem of_update (evaluator : Evaluator) (transitionCounter eventCounter : Nat)
    (metrics : ExperimentalMetricsV1) (deadline : Option Nat)
    (eventLog : List SparseDurableEventV1) :
    Records evaluator
      { evaluator with
        transitionCounter := transitionCounter
        eventCounter := eventCounter
        metrics := metrics
        lastPositiveSupportDeadlineMs := deadline
        eventLog := eventLog } := by
  repeat' constructor

end Records

section Stages

variable (platform : Platform) (requestedNow : Nat) (evaluator : Evaluator)

theorem records_sparseEvent (atMs : Nat) (event : SparseDurableEventKindV1) :
    Records evaluator (evaluator.sparseEvent atMs event).2 :=
  .of_update evaluator _ _ _ _ _

theorem records_recordTransition (judgment : PresentStateJudgmentV1) (now : Nat) :
    Records evaluator (evaluator.recordTransition platform judgment now).2 := by
  unfold recordTransition
  split
  · exact .of_update evaluator _ _ _ _ _
  · exact .refl _

theorem records_updateFailureMetrics (category : JudgmentCategoryV1) (now : Nat) :
    Records evaluator (evaluator.updateFailureMetrics category now) := by
  unfold updateFailureMetrics
  split
  · exact .refl _
  · exact .of_update evaluator _ _ _ _ _

theorem records_updateStalePositiveMetric (category : JudgmentCategoryV1) (now : Nat)
    (deadline : Option Nat) :
    Records evaluator (evaluator.updateStalePositiveMetric category now deadline) := by
  unfold updateStalePositiveMetric
  dsimp only
  split
  · exact .of_update evaluator _ _ _ _ _
  · split
    · exact .of_update evaluator _ _ _ _ _
    · exact .refl _

/-- Between derivation and escalation only log, counters and metrics change. -/
theorem records_measuredState :
    Records (evaluator.hotState requestedNow) (evaluator.measuredState platform requestedNow) :=
  (Records.of_update (evaluator.hotState requestedNow) _ _ _ _ _).trans <|
    (records_recordTransition platform _ _ _).trans <|
      (records_updateFailureMetrics _ _ _).trans (records_updateStalePositiveMetric _ _ _ _)

theorem retains_guardClock : Retains evaluator (evaluator.guardClock requestedNow).2 := by
  unfold guardClock
  split
  · exact .refl _
  · split
    · exact {}
    · exact .refl _

theorem retains_hotState : Retains evaluator (evaluator.hotState requestedNow) :=
  (evaluator.retains_guardClock requestedNow).trans {}

/-- Issuing a request leaves evidence, monitor and clock alone. -/
structure Issues (before after : Evaluator) : Prop extends Retains before after where
  monitorCapability : after.monitorCapability = before.monitorCapability
  lastEvaluationMs : after.lastEvaluationMs = before.lastEvaluationMs

theorem issues_issueRequest (draft : DiagnosticEscalationRequestV1) (now : Nat) :
    Issues evaluator (evaluator.issueRequest platform draft now).2 := by
  unfold issueRequest
  split
  · repeat' constructor
  · dsimp only
    split <;> repeat' constructor

/-- Escalation does nothing, or issues a draft of the policy's escalation section. -/
theorem escalateUnlessBarred_cases (transition : Option JudgmentTransitionV1)
    (judgment : PresentStateJudgmentV1) (now : Nat) :
    evaluator.escalateUnlessBarred platform transition judgment now = (none, evaluator) ∨
    ∃ causal escalation, transition = some causal ∧ evaluator.policy.escalation = some escalation ∧
      evaluator.escalateUnlessBarred platform transition judgment now =
        evaluator.issueRequest platform
          (evaluator.draftRequest platform causal judgment now escalation) now := by
  unfold escalateUnlessBarred
  split
  · rename_i causal _
    unfold maybeEscalate
    split
    · exact .inl rfl
    · split
      · exact .inl rfl
      · rename_i escalation hescalation
        split
        · exact .inr ⟨causal, escalation, rfl, hescalation, rfl⟩
        · exact .inl rfl
  · exact .inl rfl

theorem issues_escalatedState :
    Issues (evaluator.measuredState platform requestedNow)
      (evaluator.escalatedState platform requestedNow).2 := by
  unfold escalatedState
  rcases escalateUnlessBarred_cases platform (evaluator.measuredState platform requestedNow)
    (evaluator.transitioned platform requestedNow).1
    (evaluator.formedJudgment platform requestedNow) (evaluator.evaluationTime requestedNow) with
    h | ⟨_, _, _, _, h⟩
  · rw [h]
    exact ⟨.refl _, rfl, rfl⟩
  · rw [h]
    exact issues_issueRequest platform _ _ _

/-- An evaluation changes no policy, lineage, evidence or contradiction. -/
theorem retains_evaluate : Retains evaluator (evaluator.evaluate platform requestedNow).2 :=
  (evaluator.retains_hotState requestedNow).trans <|
    (evaluator.records_measuredState platform requestedNow).toRetains.trans <|
      (evaluator.issues_escalatedState platform requestedNow).toRetains.trans {}

/-- An evaluation remembers the time it took place at. -/
theorem evaluate_lastEvaluationMs :
    (evaluator.evaluate platform requestedNow).2.lastEvaluationMs =
      some (evaluator.evaluationTime requestedNow) :=
  (evaluator.issues_escalatedState platform requestedNow).lastEvaluationMs.trans
    (evaluator.records_measuredState platform requestedNow).lastEvaluationMs

/-- An evaluation takes place no earlier than asked for, and no earlier than the last. -/
theorem le_evaluationTime :
    requestedNow ≤ evaluator.evaluationTime requestedNow ∧
      ∀ prior, evaluator.lastEvaluationMs = some prior →
        prior ≤ evaluator.evaluationTime requestedNow := by
  unfold evaluationTime guardClock
  split
  · rename_i hnone
    simp [hnone]
  · rename_i prior hprior
    split
    · rename_i hregressed
      exact ⟨hregressed.le, fun other hother => by
        rw [hprior, Option.some.injEq] at hother
        exact hother ▸ le_rfl⟩
    · rename_i hordered
      refine ⟨le_rfl, fun other hother => ?_⟩
      rw [hprior, Option.some.injEq] at hother
      exact hother ▸ not_lt.mp hordered

end Stages

/-! ## Blindness and barriers -/

/-- The monitor is blind. -/
def Blind (evaluator : Evaluator) : Prop :=
  ∃ detail, evaluator.monitorCapability = .blind detail

section Blind

variable (platform : Platform) (requestedNow : Nat) (evaluator : Evaluator)

theorem evaluate_monitorCapability :
    (evaluator.evaluate platform requestedNow).2.monitorCapability =
      (evaluator.hotState requestedNow).monitorCapability :=
  (evaluator.issues_escalatedState platform requestedNow).monitorCapability.trans
    (evaluator.records_measuredState platform requestedNow).monitorCapability

theorem blind_hotState (h : evaluator.Blind) : (evaluator.hotState requestedNow).Blind := by
  unfold hotState guardClock
  split
  · exact h
  · split
    · exact ⟨_, rfl⟩
    · exact h

/-- A blind monitor stays blind over an evaluation. -/
theorem blind_evaluate (h : evaluator.Blind) :
    (evaluator.evaluate platform requestedNow).2.Blind := by
  unfold Blind
  rw [evaluate_monitorCapability]
  exact evaluator.blind_hotState requestedNow h

theorem evaluate_category :
    (evaluator.evaluate platform requestedNow).1.judgment.category =
      (evaluator.derivation requestedNow).category := rfl

theorem derive_category_of_blind (now : Nat) (h : evaluator.Blind) :
    (evaluator.derive now).category ≠ .current := by
  obtain ⟨detail, h⟩ := h
  simp only [derive, categoryOf, relianceUnknown, h, transportDimension]
  split
  · simp
  · split <;> simp

theorem deriveBarred_category_of_blind (now : Nat) (h : evaluator.Blind) :
    (evaluator.deriveBarred now).category ≠ .current := by
  unfold deriveBarred
  dsimp only
  split
  · simp
  · exact evaluator.derive_category_of_blind now h

/-- A blind monitor is never judged CURRENT. -/
theorem evaluate_category_of_blind (h : evaluator.Blind) :
    (evaluator.evaluate platform requestedNow).1.judgment.category ≠ .current :=
  deriveBarred_category_of_blind _ _ (evaluator.blind_hotState requestedNow h)

theorem hotState_reevaluationBarrier :
    (evaluator.hotState requestedNow).reevaluationBarrier = evaluator.reevaluationBarrier := by
  unfold hotState guardClock
  split
  · rfl
  · split <;> rfl

/-- An evaluation behind a barrier is UNKNOWN. -/
theorem evaluate_category_of_barrier (h : evaluator.reevaluationBarrier.isSome) :
    (evaluator.evaluate platform requestedNow).1.judgment.category = .unknown := by
  rw [evaluate_category]
  unfold derivation deriveBarred
  rw [hotState_reevaluationBarrier, if_pos h]

end Blind

/-! ## Pulse admission -/

/-- The docket of an evaluator: what its escalations are decided from, the latest arrival
and the last evaluation.  A blind monitor stays blind. -/
structure SameDocket (before after : Evaluator) : Prop extends SameRequests before after where
  policy : after.policy = before.policy := by rfl
  clockId : after.clockId = before.clockId := by rfl
  lastReceiverArrivalMs : after.lastReceiverArrivalMs = before.lastReceiverArrivalMs := by rfl
  blind : before.Blind → after.Blind := by exact id

namespace SameDocket

variable {first second third : Evaluator}

theorem refl (evaluator : Evaluator) : SameDocket evaluator evaluator :=
  ⟨.refl _, rfl, rfl, rfl, id⟩

theorem trans (left : SameDocket first second) (right : SameDocket second third) :
    SameDocket first third where
  toSameRequests := left.toSameRequests.trans right.toSameRequests
  policy := right.policy.trans left.policy
  clockId := right.clockId.trans left.clockId
  lastReceiverArrivalMs := right.lastReceiverArrivalMs.trans left.lastReceiverArrivalMs
  blind := right.blind ∘ left.blind

end SameDocket

section Admission

variable (platform : Platform) (received : ReceivedPulseV1) (atMs : Nat) (evaluator : Evaluator)

theorem sameDocket_sparseEvent (event : SparseDurableEventKindV1) :
    SameDocket evaluator (evaluator.sparseEvent atMs event).2 :=
  {}

/-- One write of an admission: it leaves docket, log and records alone, or is one of the three that
do not. -/
inductive Writes : Evaluator → Evaluator → Prop
  | aside {before after : Evaluator} (docket : SameDocket before after)
    (log : after.eventLog = before.eventLog)
    (records : after.contradictions = before.contradictions) : Writes before after
  | blinds (before : Evaluator) (detail : Text) : Writes before (before.blindWith detail atMs)
  | contradicts (before : Evaluator) (signal : Text) (references statements : List Text) :
    Writes before (before.createContradiction platform signal references statements atMs)
  | supersedes (before : Evaluator) (observer : ObserverId) (prior next : Text)
    (signals : List Text) (rule : Text) : Writes before
      (before.sparseEvent atMs (.adverseObservationSuperseded observer prior next signals rule)).2

theorem blind_blindWith (detail : Text) : (evaluator.blindWith detail atMs).Blind := ⟨_, rfl⟩

theorem Writes.sameDocket {before after : Evaluator} (h : Writes platform atMs before after) :
    SameDocket before after := by
  cases h with
  | aside docket => exact docket
  | blinds detail =>
    exact { blind := fun _ => blind_blindWith atMs _ _ }
  | contradicts signal references statements =>
    unfold createContradiction
    dsimp only
    split
    · exact .refl _
    · exact {}
  | supersedes => exact sameDocket_sparseEvent atMs _ _

theorem writes_detectSignalContradictions : ReflTransGen (Writes platform atMs) evaluator
    (evaluator.detectSignalContradictions platform received atMs) := by
  unfold detectSignalContradictions
  split
  · exact foldl_climbs (fun _ => .refl) .trans (fun _ _ => .single (.contradicts _ _ _ _)) _ _
  · exact .refl

theorem writes_recordAdverseSupersession : ReflTransGen (Writes platform atMs) evaluator
    (evaluator.recordAdverseSupersession received atMs) := by
  fun_cases recordAdverseSupersession received atMs evaluator
  · exact .refl
  · exact .refl
  · exact .single (.supersedes _ _ _ _ _ _)

theorem writes_admitEvidence : ReflTransGen (Writes platform atMs) evaluator
    (evaluator.admitEvidence platform received atMs) := by
  have hfollowed : ReflTransGen (Writes platform atMs) evaluator
      (evaluator.followSubject platform received atMs) := by
    unfold followSubject
    split
    · unfold recordSubjectIncarnationChange
      refine .tail (.single (.aside ?_ ?_ ?_)) (.contradicts _ _ _ _)
      · exact {}
      · rfl
      · rfl
    · exact .refl
  have hupdated : Writes platform atMs (evaluator.followSubject platform received atMs)
      ((evaluator.followSubject platform received atMs).updateLineage received.frame
        received.receiver.disposition) :=
    .aside {} rfl rfl
  have hwritten := ((hfollowed.tail hupdated).trans
    (writes_detectSignalContradictions platform received atMs _)).trans
      (writes_recordAdverseSupersession platform received atMs _)
  exact hwritten.tail (.aside {} rfl rfl)

theorem writes_ingestClassified : ReflTransGen (Writes platform atMs) evaluator
    (evaluator.ingestClassified platform received atMs) := by
  unfold ingestClassified
  dsimp only
  split
  · exact .single (.blinds _ _)
  · split
    any_goals exact .single (.aside {} rfl rfl)
    have hgap : Writes platform atMs evaluator
        (evaluator.countGap received.receiver.disposition) := by
      unfold countGap
      split
      · exact .aside {} rfl rfl
      · exact .aside (.refl _) rfl rfl
    refine .head hgap ?_
    unfold ingestFresh
    split
    · exact .single (.aside {} rfl rfl)
    · split
      · exact .single (.aside {} rfl rfl)
      · exact writes_admitEvidence platform received atMs _

/-- The latest arrival once a pulse is taken in. -/
def latestArrival (received : ReceivedPulseV1) (last : Option Nat) : Option Nat :=
  some (last.elim received.receiver.arrivalMonotonicMs
    (max received.receiver.arrivalMonotonicMs))

/-- Note the arrival of a pulse. -/
def noteArrival : Evaluator :=
  { evaluator with
    lastReceiverArrivalMs := latestArrival received evaluator.lastReceiverArrivalMs }

theorem latestArrival_eq (last : Option Nat) :
    latestArrival received last = some (last.elim received.receiver.arrivalMonotonicMs
      fun prior => max prior received.receiver.arrivalMonotonicMs) := by
  cases last <;> simp [latestArrival, max_comm]

/-- An arrival before the latest one is no later arrival. -/
theorem noteArrival_of_regressed (h : evaluator.arrivalRegressed received = true) :
    noteArrival received evaluator = evaluator := by
  obtain ⟨prior, hprior, hlater⟩ : ∃ prior, evaluator.lastReceiverArrivalMs = some prior ∧
      received.receiver.arrivalMonotonicMs < prior := by
    simpa [arrivalRegressed, Option.any_eq_true] using h
  have hlatest : latestArrival received evaluator.lastReceiverArrivalMs =
      evaluator.lastReceiverArrivalMs := by
    simp [latestArrival, hprior, max_eq_right hlater.le]
  rw [noteArrival, hlatest]

/-- Taking in a pulse notes its arrival, and then writes. -/
theorem writes_ingestState : ReflTransGen (Writes platform atMs) (noteArrival received evaluator)
    (evaluator.ingestState platform received atMs) := by
  unfold ingestState
  dsimp only
  split
  · rename_i hregressed
    rw [noteArrival_of_regressed received evaluator hregressed]
    refine .head ?_ (.single (.blinds _ _))
    exact .aside {} rfl rfl
  · refine .head ?_ (writes_ingestClassified platform received atMs _)
    exact .aside { lastReceiverArrivalMs := (latestArrival_eq received _).symm } rfl rfl

theorem sameDocket_admitEvidence :
    SameDocket evaluator (evaluator.admitEvidence platform received atMs) :=
  (evaluator.writes_admitEvidence platform received atMs).trans_induction_on .refl
    (Writes.sameDocket platform atMs) fun _ _ => .trans

theorem sameDocket_ingestState :
    SameDocket (noteArrival received evaluator) (evaluator.ingestState platform received atMs) :=
  (evaluator.writes_ingestState platform received atMs).trans_induction_on .refl
    (Writes.sameDocket platform atMs) fun _ _ => .trans

end Admission

/-! ## Calls

Every call prepares the state and then evaluates it. -/

/-- The state a call evaluates. -/
def prepare (platform : Platform) (call : EvaluatorCall) (atMs : Nat) (evaluator : Evaluator) :
    Evaluator :=
  match call with
  | .tick => evaluator
  | .ingest received => evaluator.ingestState platform received atMs
  | .barrier barrier => evaluator.raiseBarrier barrier
  | .replacePolicy policy barrier => (evaluator.adoptPolicy policy).raiseBarrier barrier
  | .replaceSubject replacement =>
    (evaluator.retireRecords replacement atMs).adoptSubject replacement
  | .disposition disposition =>
    (({ evaluator with escalationState := dispositionState disposition } :
      Evaluator).sparseEvent disposition.decidedAtMonotonicMs
        (.escalationDisposition disposition)).2
  | .receipt receipt =>
    let reference : DiagnosticEvidenceReferenceV1 :=
      { receiptId := receipt.receiptId
        resultDigest := receipt.resultDigest
        recordedAtMonotonicMs := atMs
        applicableUntilMonotonicMs := receipt.applicableUntilMonotonicMs
        nonclaims := receipt.nonclaims }
    (({ evaluator with
      diagnosticEvidence := evaluator.diagnosticEvidence ++ [reference]
      escalationState := .completed receipt.requestId.text receipt.receiptId } :
      Evaluator).sparseEvent atMs (.diagnosticReceiptCorrelated receipt reference)).2
  | .restore detail =>
    { (({ evaluator with monitorCapability := .operational } : Evaluator).monitorEvent atMs
        "operational" detail).2 with
      reevaluationBarrier := some (.monitorCapabilityRestored
        ("monitor capability was explicitly restored (" ++ detail ++
          "); a separate evaluation is required")) }
  | .inputDrop count detail =>
    (({ evaluator with
      metrics :=
        { evaluator.metrics with
          monitorInputDropCount := satAdd evaluator.metrics.monitorInputDropCount count }
      monitorCapability := .blind detail } : Evaluator).monitorEvent atMs "blind" detail).2

/-- The result of a call is the evaluation of the prepared state, but for the events
listed. -/
structure Evaluates (platform : Platform) (atMs : Nat) (prepared : Evaluator)
    (evaluation : EvaluationOutput) (evaluator : Evaluator) : Prop where
  state : evaluator = (prepared.evaluate platform atMs).2
  judgment : evaluation.judgment = (prepared.evaluate platform atMs).1.judgment
  transition : evaluation.transition = (prepared.evaluate platform atMs).1.transition
  escalationRequest :
    evaluation.escalationRequest = (prepared.evaluate platform atMs).1.escalationRequest

variable {evaluation : EvaluationOutput}

theorem Evaluates.of_ok {platform : Platform} {atMs : Nat} {prepared next : Evaluator}
    {result : EvaluationOutput × Evaluator}
    (ok : (Except.ok result : Except EvaluatorError (EvaluationOutput × Evaluator)) =
      .ok (evaluation, next)) (evaluates : Evaluates platform atMs prepared result.1 result.2) :
    Evaluates platform atMs prepared evaluation next := by
  obtain rfl : result = (evaluation, next) := Except.ok.inj ok
  exact evaluates

/-- A call that succeeds evaluates the state it prepared. -/
theorem evaluates_perform {platform : Platform} {call : EvaluatorCall} {atMs : Nat}
    {evaluator next : Evaluator}
    (performed : evaluator.perform platform call atMs = .ok (evaluation, next)) :
    Evaluates platform atMs (evaluator.prepare platform call atMs) evaluation next := by
  cases call with
  | tick => exact .of_ok performed ⟨rfl, rfl, rfl, rfl⟩
  | barrier barrier => exact .of_ok performed ⟨rfl, rfl, rfl, rfl⟩
  | restore detail => exact .of_ok performed ⟨rfl, rfl, rfl, rfl⟩
  | inputDrop count detail => exact .of_ok performed ⟨rfl, rfl, rfl, rfl⟩
  | ingest received =>
    simp only [perform, ingest, check_bind_eq_ok] at performed
    obtain ⟨-, -, -, performed⟩ := performed
    exact .of_ok performed ⟨rfl, rfl, rfl, rfl⟩
  | replacePolicy policy barrier =>
    simp only [perform, replacePolicy, check_bind_eq_ok] at performed
    obtain ⟨-, -, performed⟩ := performed
    exact .of_ok performed ⟨rfl, rfl, rfl, rfl⟩
  | replaceSubject replacement =>
    simp only [perform, replaceSubjectIncarnation, check_bind_eq_ok] at performed
    obtain ⟨-, -, performed⟩ := performed
    exact .of_ok performed ⟨rfl, rfl, rfl, rfl⟩
  | disposition disposition =>
    simp only [perform, recordEscalationDisposition, check_bind_eq_ok] at performed
    obtain ⟨-, -, -, performed⟩ := performed
    exact .of_ok performed ⟨rfl, rfl, rfl, rfl⟩
  | receipt receipt =>
    simp only [perform, recordDiagnosticReceipt] at performed
    split at performed
    · cases performed
    · simp only [check_bind_eq_ok] at performed
      exact .of_ok performed.2 ⟨rfl, rfl, rfl, rfl⟩

end Evaluator

/-- Whether a call puts a barrier in front of its evaluation. -/
def EvaluatorCall.raisesBarrier : EvaluatorCall → Bool
  | .barrier _ => true
  | .replacePolicy _ _ => true
  | .replaceSubject _ => true
  | .restore _ => true
  | _ => false

namespace Evaluator

section Calls

variable (platform : Platform) (atMs : Nat) (evaluator : Evaluator)

theorem retireRecords_sameDocket (replacement : IncarnationId) :
    SameDocket evaluator (evaluator.retireRecords replacement atMs) := by
  unfold retireRecords
  dsimp only
  refine SameDocket.trans ?_ (foldl_climbs .refl .trans (fun state record =>
    sameDocket_sparseEvent atMs state _) _ _)
  exact {}

variable {call : EvaluatorCall}

/-- No call but a restoration makes a blind monitor see. -/
theorem blind_prepare (kept : ∀ detail, call ≠ .restore detail) (h : evaluator.Blind) :
    (evaluator.prepare platform call atMs).Blind := by
  cases call with
  | tick => exact h
  | barrier barrier => exact h
  | disposition disposition => exact h
  | receipt receipt => exact h
  | ingest received => exact (evaluator.sameDocket_ingestState platform received atMs).blind h
  | replacePolicy policy barrier =>
    show ((evaluator.adoptPolicy policy).raiseBarrier barrier).Blind
    unfold adoptPolicy
    split <;> exact h
  | replaceSubject replacement =>
    exact (evaluator.retireRecords_sameDocket atMs replacement).blind h
  | restore detail => exact absurd rfl (kept detail)
  | inputDrop count detail => exact ⟨detail, rfl⟩

theorem blind_prepare_inputDrop (count : Nat) (detail : Text) :
    (evaluator.prepare platform (.inputDrop count detail) atMs).Blind := ⟨detail, rfl⟩

theorem prepare_barrier (h : call.raisesBarrier = true) :
    (evaluator.prepare platform call atMs).reevaluationBarrier.isSome := by
  cases call <;> first | rfl | cases h

end Calls

variable {evaluator next : Evaluator} {atMs : Nat} {call : EvaluatorCall}
  {evaluation : EvaluationOutput} {platform : Platform}

theorem new_eq_ok {policy : ReliancePolicyV1} {receiver : ReceiverId}
    {receiverIncarnation : IncarnationId} {clockId : ClockId} {subject : IncarnationId}
    (made : Evaluator.new policy receiver receiverIncarnation clockId subject = .ok evaluator) :
    evaluator = initial policy receiver receiverIncarnation clockId subject := by
  simp only [new, check_bind_eq_ok] at made
  obtain ⟨-, -, -, -, -, made⟩ := made
  exact (Except.ok.inj made).symm

/-- Reinstating records changes the records alone. -/
theorem importContradictions_eq_ok {records : List ContradictionRecordV1}
    (made : evaluator.importContradictions records = .ok next) :
    ∃ contradictions, next = { evaluator with contradictions := contradictions } := by
  refine foldlM_keeps_ok (fun state : Evaluator => ∃ contradictions,
    state = { evaluator with contradictions := contradictions })
    (fun state record last hround hkept => ?_) made ⟨_, rfl⟩
  obtain ⟨contradictions, rfl⟩ := hkept
  simp only [importContradiction, check_bind_eq_ok] at hround
  obtain ⟨-, -, hround⟩ := hround
  exact ⟨_, (Except.ok.inj hround).symm⟩

/-- The latest arrival after a call. -/
def arrivalAfter (call : EvaluatorCall) (last : Option Nat) : Option Nat :=
  match call with
  | .ingest received => latestArrival received last
  | _ => last

theorem prepare_lastReceiverArrivalMs (platform : Platform) (call : EvaluatorCall) (atMs : Nat)
    (evaluator : Evaluator) :
    (evaluator.prepare platform call atMs).lastReceiverArrivalMs =
      arrivalAfter call evaluator.lastReceiverArrivalMs := by
  cases call with
  | tick => rfl
  | barrier barrier => rfl
  | disposition disposition => rfl
  | receipt receipt => rfl
  | restore detail => rfl
  | inputDrop count detail => rfl
  | ingest received =>
    exact (evaluator.sameDocket_ingestState platform received atMs).lastReceiverArrivalMs
  | replacePolicy policy barrier =>
    show ((evaluator.adoptPolicy policy).raiseBarrier barrier).lastReceiverArrivalMs = _
    unfold adoptPolicy
    split <;> rfl
  | replaceSubject replacement =>
    exact (evaluator.retireRecords_sameDocket atMs replacement).lastReceiverArrivalMs

/-- Only a pulse moves the latest arrival. -/
theorem perform_lastReceiverArrivalMs
    (performed : evaluator.perform platform call atMs = .ok (evaluation, next)) :
    next.lastReceiverArrivalMs = arrivalAfter call evaluator.lastReceiverArrivalMs := by
  rw [(evaluates_perform performed).state, (retains_evaluate platform atMs _).lastReceiverArrivalMs]
  exact prepare_lastReceiverArrivalMs platform call atMs evaluator

/-- A blind monitor that is not restored stays blind, and is not judged CURRENT. -/
theorem perform_blind (performed : evaluator.perform platform call atMs = .ok (evaluation, next))
    (blind : (evaluator.prepare platform call atMs).Blind) :
    next.Blind ∧ evaluation.judgment.category ≠ .current := by
  have h := evaluates_perform performed
  rw [h.state, h.judgment]
  exact ⟨blind_evaluate platform atMs _ blind, evaluate_category_of_blind platform atMs _ blind⟩

/-- A call behind a barrier is not judged CURRENT. -/
theorem perform_barred (performed : evaluator.perform platform call atMs = .ok (evaluation, next))
    (barred : call.raisesBarrier = true) : evaluation.judgment.category = .unknown := by
  rw [(evaluates_perform performed).judgment]
  exact evaluate_category_of_barrier platform atMs _
    (evaluator.prepare_barrier platform atMs barred)

end Evaluator

end ConstellationMonitor.Evaluation

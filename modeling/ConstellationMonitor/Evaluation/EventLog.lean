/-
  What the operations of an evaluator put in its event log, and what they return of it.

  The log only grows.  An operation first notes what it was told, and its evaluation then adds a
  clock regression, the transition of the judgment and the escalation it caused, in this order.
  The transitions of the log therefore reconstruct the standing.  What the operations return is
  the whole log but for one path: `replace_subject_incarnation` logs the records it retires
  before it evaluates, and returns only what the evaluation logged.
-/
import ConstellationMonitor.Evaluation.Sticky

namespace ConstellationMonitor.Evaluation

open Foundation ConstellationMonitor.Types
open Std (ExtTreeMap)

/-- An event that is neither a transition nor about an escalation of the evaluator. -/
def SparseDurableEventV1.Incidental (event : SparseDurableEventV1) : Prop :=
  match event.event with
  | .judgmentTransition _ => False
  | .escalationRequested _ => False
  | .escalationDeduplicated _ _ => False
  | _ => True

namespace Evaluator

/-- The second evaluator logged incidental events after what the first has logged. -/
def Notes (before after : Evaluator) : Prop :=
  ∃ events, after.eventLog = before.eventLog ++ events ∧
    ∀ event ∈ events, SparseDurableEventV1.Incidental event

namespace Notes

variable {first second third : Evaluator}

theorem of_eq (h : second.eventLog = first.eventLog) : Notes first second :=
  ⟨[], by simpa using h, by simp⟩

theorem trans (left : Notes first second) (right : Notes second third) : Notes first third := by
  obtain ⟨earlier, hearlier, hfirst⟩ := left
  obtain ⟨later, hlater, hsecond⟩ := right
  refine ⟨earlier ++ later, by rw [hlater, hearlier, List.append_assoc], fun event hmem => ?_⟩
  exact (List.mem_append.mp hmem).elim (hfirst event) (hsecond event)

/-- Logging one incidental event. -/
theorem sparseEvent (atMs : Nat) (kind : SparseDurableEventKindV1)
    (h : second.eventLog = first.eventLog)
    (incidental : SparseDurableEventV1.Incidental (second.sparseEvent atMs kind).1) :
    Notes first (second.sparseEvent atMs kind).2 := by
  refine ⟨[(second.sparseEvent atMs kind).1], ?_, by simpa using incidental⟩
  rw [← h]
  rfl

end Notes

/-! ## The events an operation notes -/

section Preparation

variable (platform : Platform) (received : ReceivedPulseV1) (atMs : Nat) (evaluator : Evaluator)

theorem Writes.notes {before after : Evaluator} (h : Writes platform atMs before after) :
    Notes before after := by
  cases h with
  | aside _ log => exact .of_eq log
  | contradicts =>
    unfold createContradiction
    dsimp only
    split
    · exact .of_eq rfl
    · exact .sparseEvent atMs _ rfl trivial
  | _ => exact .sparseEvent atMs _ rfl trivial

theorem notes_ingestState : Notes evaluator (evaluator.ingestState platform received atMs) := by
  have hnotes : Notes (noteArrival received evaluator)
      (evaluator.ingestState platform received atMs) :=
    (evaluator.writes_ingestState platform received atMs).trans_induction_on
      (fun _ => .of_eq rfl) (Writes.notes platform atMs) fun _ _ => .trans
  exact hnotes

/-- The records a subject replacement retires. -/
def retiredRecords (replacement : IncarnationId) : List ContradictionRecordV1 :=
  (evaluator.contradictions.values.filter
    (retiredByReplacement evaluator.currentSubjectIncarnation)).map
      (retireRecord evaluator.currentSubjectIncarnation replacement atMs)

theorem foldl_lifecycle (records : List ContradictionRecordV1) :
    ∃ events : List SparseDurableEventV1, (records.foldl (fun state record =>
        (state.sparseEvent atMs (.contradictionLifecycleChanged record)).2) evaluator).eventLog =
          evaluator.eventLog ++ events ∧
      events.map SparseDurableEventV1.event = records.map .contradictionLifecycleChanged := by
  induction records generalizing evaluator with
  | nil => exact ⟨[], by simp, rfl⟩
  | cons record rest ih =>
    obtain ⟨events, hlog, hevents⟩ :=
      ih (evaluator.sparseEvent atMs (.contradictionLifecycleChanged record)).2
    refine ⟨(evaluator.sparseEvent atMs (.contradictionLifecycleChanged record)).1 :: events,
      ?_, by rw [List.map_cons, hevents]; rfl⟩
    rw [List.foldl_cons, hlog]
    exact List.append_assoc _ _ _

/-- A subject replacement logs every record it retires. -/
theorem retireRecords_eventLog (replacement : IncarnationId) : ∃ events : List SparseDurableEventV1,
      ((evaluator.retireRecords replacement atMs).adoptSubject replacement).eventLog =
        evaluator.eventLog ++ events ∧ events.map SparseDurableEventV1.event =
        (evaluator.retiredRecords atMs replacement).map .contradictionLifecycleChanged :=
  foldl_lifecycle atMs _ _

end Preparation

end Evaluator

open Evaluator

section Operations

variable {platform : Platform} {operation : EvaluatorOperation} {before : Evaluator}

/-- What an operation logs before its evaluation is incidental. -/
theorem notes_prepare (platform : Platform) (operation : EvaluatorOperation)
    (before : Evaluator) : Notes before (operation.prepare platform before) := by
  cases operation with
  | call call atMs =>
    cases call with
    | ingest received => exact before.notes_ingestState platform received atMs
    | replacePolicy policy barrier =>
      show Notes before ((before.adoptPolicy policy).raiseBarrier barrier)
      unfold adoptPolicy
      split <;> exact .of_eq rfl
    | replaceSubject replacement =>
      obtain ⟨events, hlog, hevents⟩ := before.retireRecords_eventLog atMs replacement
      refine ⟨events, hlog, fun event hmem => ?_⟩
      have hkind := hevents ▸ List.mem_map_of_mem hmem
      obtain ⟨record, -, hrecord⟩ := List.mem_map.mp hkind
      unfold SparseDurableEventV1.Incidental
      rw [← hrecord]
      trivial
    | tick => exact .of_eq rfl
    | barrier barrier => exact .of_eq rfl
    | disposition disposition => exact .sparseEvent _ _ rfl trivial
    | receipt receipt => exact .sparseEvent _ _ rfl trivial
    | restore detail =>
      have hlogged : Notes before (({ before with
        monitorCapability := .operational } : Evaluator).monitorEvent atMs "operational"
          detail).2 := .sparseEvent _ _ rfl trivial
      exact hlogged.trans (.of_eq rfl)
    | inputDrop count detail => exact .sparseEvent _ _ rfl trivial
  | resolve contradictionId resolution atMs =>
    simp only [EvaluatorOperation.prepare]
    split
    · exact .of_eq rfl
    · exact .sparseEvent _ _ rfl trivial
  | capability state atMs => exact .sparseEvent _ _ rfl trivial
  | reinstate record => exact .of_eq rfl
  | normalTrace normal => exact .of_eq rfl
  | failureStart atMs => exact .of_eq rfl

end Operations

/-! ## The events an evaluation logs -/

namespace Evaluator

/-- What the escalation part of an evaluation did. -/
inductive Escalates (before : Evaluator) (transition : Option JudgmentTransitionV1) (now : Nat) :
    Option DiagnosticEscalationRequestV1 → Evaluator → Prop
  | nothing {after : Evaluator} (active : after.activeEscalations = before.activeEscalations)
      (log : after.eventLog = before.eventLog) : Escalates before transition now none after
  | deduplicated {after : Evaluator} {key : DigestV1} {standing : ActiveEscalation}
      {event : SparseDurableEventV1} (found : before.activeEscalations[key]? = some standing)
      (active : after.activeEscalations = before.activeEscalations)
      (log : after.eventLog = before.eventLog ++ [event])
      (kind : event.event = .escalationDeduplicated key standing.requestId) :
      Escalates before transition now none after
  | requested {after : Evaluator} {request : DiagnosticEscalationRequestV1}
      {cause : JudgmentTransitionV1} {event : SparseDurableEventV1}
      (caused : transition = some cause) (current : cause.fromCategory = some .current)
      (lost : cause.toCategory ≠ .current)
      (names : request.causalTransitionId = cause.transitionId)
      (created : request.createdAtMonotonicMs = now)
      (free : before.activeEscalations[request.deduplicationKey]? = none)
      (active : after.activeEscalations = before.activeEscalations.insert
        request.deduplicationKey ⟨request.requestId, request.expiresAtMonotonicMs⟩)
      (log : after.eventLog = before.eventLog ++ [event])
      (kind : event.event = .escalationRequested request) :
      Escalates before transition now (some request) after

section Evaluation

variable (platform : Platform) (requestedNow : Nat) (evaluator : Evaluator)

theorem escalates_escalateUnlessBarred (transition : Option JudgmentTransitionV1)
    (judgment : PresentStateJudgmentV1) (now : Nat) : Escalates evaluator transition now
      (evaluator.escalateUnlessBarred platform transition judgment now).1
      (evaluator.escalateUnlessBarred platform transition judgment now).2 := by
  unfold escalateUnlessBarred
  split
  · rename_i cause _
    unfold maybeEscalate
    split
    · exact .nothing rfl rfl
    · rename_i hlost
      push Not at hlost
      split
      · exact .nothing rfl rfl
      · split
        · unfold issueRequest
          split
          · rename_i standing hstanding
            exact .deduplicated hstanding rfl rfl rfl
          · rename_i hfree
            dsimp only
            split
            · exact .nothing rfl rfl
            · exact .requested rfl hlost.1 hlost.2 rfl rfl hfree rfl rfl rfl
        · exact .nothing rfl rfl
  · exact .nothing rfl rfl

theorem notes_guardClock : Notes evaluator (evaluator.guardClock requestedNow).2 := by
  unfold guardClock
  split
  · exact .of_eq rfl
  · split
    · exact .sparseEvent _ _ rfl trivial
    · exact .of_eq rfl

theorem notes_hotState : Notes evaluator (evaluator.hotState requestedNow) :=
  (evaluator.notes_guardClock requestedNow).trans (.of_eq rfl)

theorem hotState_lastJudgment :
    (evaluator.hotState requestedNow).lastJudgment = evaluator.lastJudgment := by
  unfold hotState guardClock
  split
  · rfl
  · split <;> rfl

/-- The transition of an evaluation is logged; without one the category stays. -/
theorem transitioned_cases :
    (∃ transition event, (evaluator.transitioned platform requestedNow).1 = some transition ∧
      transition.fromCategory = evaluator.lastJudgment.map PresentStateJudgmentV1.category ∧
      transition.toCategory = (evaluator.formedJudgment platform requestedNow).category ∧
      (evaluator.transitioned platform requestedNow).2.eventLog =
        (evaluator.hotState requestedNow).eventLog ++ [event] ∧
      event.event = .judgmentTransition transition) ∨
    (evaluator.transitioned platform requestedNow).1 = none ∧
      evaluator.lastJudgment.map PresentStateJudgmentV1.category =
        some (evaluator.formedJudgment platform requestedNow).category ∧
      (evaluator.transitioned platform requestedNow).2.eventLog =
        (evaluator.hotState requestedNow).eventLog := by
  have hlast := evaluator.hotState_lastJudgment requestedNow
  unfold transitioned recordTransition
  split
  · refine .inl ⟨_, _, rfl, ?_, rfl, rfl, rfl⟩
    rw [← hlast]
    rfl
  · rename_i hsame
    refine .inr ⟨rfl, ?_, rfl⟩
    change ¬(evaluator.hotState requestedNow).lastJudgment.all _ = true at hsame
    rw [hlast] at hsame
    cases hprior : evaluator.lastJudgment with
    | none => simp [hprior] at hsame
    | some prior =>
      rw [hprior, Option.all_some, judgmentSemanticallyChanged] at hsame
      simp only [Bool.or_eq_true, decide_eq_true_eq, not_or, not_not] at hsame
      rw [Option.map_some, hsame.1.1.1.2]

theorem measuredState_eventLog : (evaluator.measuredState platform requestedNow).eventLog =
      (evaluator.transitioned platform requestedNow).2.eventLog := by
  unfold measuredState updateStalePositiveMetric updateFailureMetrics
  dsimp only
  repeat' split
  all_goals rfl

theorem evaluate_escalates : Escalates (evaluator.measuredState platform requestedNow)
      (evaluator.transitioned platform requestedNow).1 (evaluator.evaluationTime requestedNow)
      (evaluator.evaluate platform requestedNow).1.escalationRequest
      (evaluator.escalatedState platform requestedNow).2 :=
  escalates_escalateUnlessBarred platform _ _ _ _

theorem evaluate_eventLog : (evaluator.evaluate platform requestedNow).2.eventLog =
      (evaluator.escalatedState platform requestedNow).2.eventLog := rfl

end Evaluation

end Evaluator

/-! ## The transitions of the log -/

/-- The transition an event reports. -/
def transitionOf (event : SparseDurableEventV1) : Option JudgmentTransitionV1 :=
  match event.event with
  | .judgmentTransition transition => some transition
  | _ => none

/-- The transitions of a log, in order. -/
def transitionsOf (log : List SparseDurableEventV1) : List JudgmentTransitionV1 :=
  log.filterMap transitionOf

theorem transitionsOf_append (left right : List SparseDurableEventV1) :
    transitionsOf (left ++ right) = transitionsOf left ++ transitionsOf right :=
  List.filterMap_append

theorem transitionOf_incidental {event : SparseDurableEventV1}
    (h : SparseDurableEventV1.Incidental event) : transitionOf event = none := by
  unfold SparseDurableEventV1.Incidental at h
  unfold transitionOf
  split
  · rename_i hkind
    rw [hkind] at h
    exact h.elim
  · rfl

theorem Evaluator.Notes.transitionsOf {before after : Evaluator} (h : Notes before after) :
    Evaluation.transitionsOf after.eventLog = Evaluation.transitionsOf before.eventLog := by
  obtain ⟨events, hlog, hincidental⟩ := h
  have hnone : Evaluation.transitionsOf events = [] :=
    List.filterMap_eq_nil_iff.mpr fun event hmem => transitionOf_incidental (hincidental event hmem)
  rw [hlog, transitionsOf_append, hnone, List.append_nil]

/-- Escalations are not transitions. -/
theorem Evaluator.Escalates.transitionsOf {before after : Evaluator} {now : Nat}
    {transition : Option JudgmentTransitionV1} {request : Option DiagnosticEscalationRequestV1}
    (h : Escalates before transition now request after) :
    Evaluation.transitionsOf after.eventLog = Evaluation.transitionsOf before.eventLog := by
  cases h with
  | nothing _ log => rw [log]
  | deduplicated _ _ log kind =>
    rw [log, transitionsOf_append]
    simp [Evaluation.transitionsOf, transitionOf, kind]
  | requested _ _ _ _ _ _ _ log kind =>
    rw [log, transitionsOf_append]
    simp [Evaluation.transitionsOf, transitionOf, kind]

/-- An evaluation adds its transition to those of the log. -/
theorem evaluate_transitionsOf (platform : Platform) (requestedNow : Nat) (evaluator : Evaluator) :
    transitionsOf (evaluator.evaluate platform requestedNow).2.eventLog =
      transitionsOf evaluator.eventLog ++
        (evaluator.evaluate platform requestedNow).1.transition.toList := by
  have hnoted := (evaluator.notes_hotState requestedNow).transitionsOf
  have hescalated := (evaluator.evaluate_escalates platform requestedNow).transitionsOf
  rw [evaluate_eventLog, hescalated, measuredState_eventLog,
    evaluate_transition]
  rcases evaluator.transitioned_cases platform requestedNow with
    ⟨transition, event, hsome, -, -, hlog, hkind⟩ | ⟨hnone, -, hlog⟩
  · rw [hlog, transitionsOf_append, hnoted, hsome]
    simp [transitionsOf, transitionOf, hkind]
  · rw [hlog, hnoted, hnone]
    simp

/-- Transitions that lead from one standing to another, each from where the last one led. -/
def Chained : Option JudgmentCategoryV1 → List JudgmentTransitionV1 →
    Option JudgmentCategoryV1 → Prop
  | start, [], standing => start = standing
  | start, transition :: rest, standing =>
    transition.fromCategory = start ∧ Chained (some transition.toCategory) rest standing

theorem chained_concat {start middle : Option JudgmentCategoryV1}
    {transitions : List JudgmentTransitionV1} {transition : JudgmentTransitionV1}
    (h : Chained start transitions middle) (hfrom : transition.fromCategory = middle) :
    Chained start (transitions ++ [transition]) (some transition.toCategory) := by
  induction transitions generalizing start with
  | nil => exact ⟨hfrom.trans h.symm, rfl⟩
  | cons first rest ih => exact ⟨h.1, ih h.2⟩

/-- The category an evaluator last judged. -/
def Evaluator.standing (evaluator : Evaluator) : Option JudgmentCategoryV1 :=
  evaluator.lastJudgment.map PresentStateJudgmentV1.category

/-- The transition of an evaluation leads from the standing before it to its own; there is one
if the two differ. -/
theorem evaluate_standing (platform : Platform) (requestedNow : Nat) (evaluator : Evaluator) :
    match (evaluator.evaluate platform requestedNow).1.transition with
    | some transition => transition.fromCategory = evaluator.standing ∧
        some transition.toCategory = (evaluator.evaluate platform requestedNow).2.standing
    | none => evaluator.standing = (evaluator.evaluate platform requestedNow).2.standing := by
  rw [evaluate_transition]
  rcases evaluator.transitioned_cases platform requestedNow with
    ⟨transition, event, hsome, hfrom, hto, -, -⟩ | ⟨hnone, hsame, -⟩
  · rw [hsome]
    exact ⟨hfrom, congrArg some hto⟩
  · rw [hnone]
    exact hsame

/-- An operation adds its transition to those of the log, and there is one if the standing
changes. -/
theorem run_transitions {platform : Platform} {operation : EvaluatorOperation}
    {before after : Evaluator} {output : Option EvaluationOutput}
    (ran : operation.run platform before = .ok (output, after)) :
    ∃ transition : Option JudgmentTransitionV1,
      transition = output.bind EvaluationOutput.transition ∧
      transitionsOf after.eventLog = transitionsOf before.eventLog ++ transition.toList ∧
      match transition with
      | some transition =>
        transition.fromCategory = before.standing ∧ some transition.toCategory = after.standing
      | none => before.standing = after.standing := by
  have hprepared : (operation.prepare platform before).standing = before.standing :=
    congrArg (Option.map PresentStateJudgmentV1.category)
      (awaits_prepare platform operation before).lastJudgment
  have hnoted := (notes_prepare platform operation before).transitionsOf
  cases output with
  | none =>
    refine ⟨none, rfl, ?_⟩
    rw [run_none ran, hnoted, hprepared]
    simp
  | some output =>
    have hevaluates := evaluates_run ran
    refine ⟨_, rfl, ?_⟩
    rw [Option.bind_some, hevaluates.transition, hevaluates.state, evaluate_transitionsOf, hnoted,
      ← hprepared]
    exact ⟨rfl, evaluate_standing platform _ _⟩

variable {steps : List EvaluatorStep}

/-- The transitions of a log lead from the standing at its beginning to the last one. -/
theorem chained_trace {platform : Platform} {first last : Evaluator}
    (trace : Trace platform first steps last)
    (h : Chained none (transitionsOf first.eventLog) first.standing) :
    Chained none (transitionsOf last.eventLog) last.standing := by
  induction trace with
  | nil => exact h
  | step _ ran ih =>
    obtain ⟨transition, -, hlog, hstanding⟩ := run_transitions ran
    rw [hlog]
    cases transition with
    | none =>
      rw [← hstanding]
      simpa using ih
    | some transition =>
      rw [← hstanding.2]
      exact chained_concat ih hstanding.1

/-! ## What is returned of the log -/

namespace EvaluatorStep

/-- The events a step returns. -/
def returned (step : EvaluatorStep) : List SparseDurableEventV1 :=
  (step.output.map EvaluationOutput.sparseEvents).getD []

/-- The step replaces the subject while active records are about its incarnation. -/
def RetiresRecords (step : EvaluatorStep) : Prop :=
  ∃ replacement atMs, step.operation = .call (.replaceSubject replacement) atMs ∧
    ∃ (id : ContradictionId) (record : ContradictionRecordV1),
      step.before.contradictions[id]? = some record ∧ record.status = .active ∧
        record.subjectScope.subjectIncarnation = step.before.currentSubjectIncarnation

end EvaluatorStep

section Returned

variable {platform : Platform} {atMs : Nat} {before after : Evaluator}

/-- What the result returns is what it adds to the log. -/
def ReturnsLog (before : Evaluator) (result : EvaluationOutput × Evaluator) : Prop :=
  result.2.eventLog = before.eventLog ++ result.1.sparseEvents

theorem Evaluator.Escalates.log_grows {now : Nat} {transition : Option JudgmentTransitionV1}
    {request : Option DiagnosticEscalationRequestV1}
    (h : Escalates before transition now request after) : before.eventLog <+: after.eventLog := by
  cases h with
  | nothing _ log => rw [log]
  | deduplicated _ _ log _ => exact log ▸ List.prefix_append _ _
  | requested _ _ _ _ _ _ _ log _ => exact log ▸ List.prefix_append _ _

theorem evaluate_log_grows (platform : Platform) (requestedNow : Nat) (evaluator : Evaluator) :
    evaluator.eventLog <+: (evaluator.evaluate platform requestedNow).2.eventLog := by
  obtain ⟨notes, hnotes, -⟩ := evaluator.notes_hotState requestedNow
  have hescalated := (evaluator.evaluate_escalates platform requestedNow).log_grows
  rw [measuredState_eventLog] at hescalated
  refine List.IsPrefix.trans ?_ hescalated
  rcases evaluator.transitioned_cases platform requestedNow with
    ⟨_, event, -, -, -, hlog, -⟩ | ⟨-, -, hlog⟩
  · rw [hlog, hnotes, List.append_assoc]
    exact List.prefix_append _ _
  · rw [hlog, hnotes]
    exact List.prefix_append _ _

theorem returnsLog_evaluate (platform : Platform) (requestedNow : Nat) (evaluator : Evaluator) :
    ReturnsLog evaluator (evaluator.evaluate platform requestedNow) :=
  (List.prefix_iff_eq_append.mp (evaluate_log_grows platform requestedNow evaluator)).symm

/-- An event put in front of what the evaluation logged is the one logged before it. -/
theorem returnsLog_evaluateAfter {logged : SparseDurableEventV1 × Evaluator}
    (h : logged.2.eventLog = before.eventLog ++ [logged.1]) :
    ReturnsLog before (evaluateAfter platform atMs logged) := by
  have hevaluated := returnsLog_evaluate platform atMs logged.2
  unfold ReturnsLog at hevaluated ⊢
  rw [h, List.append_assoc] at hevaluated
  exact hevaluated

variable {prepared : Evaluator} {evaluation : EvaluationOutput}

/-- An evaluation that returns the log from a point on. -/
theorem returnsLog_evaluateSince (h : before.eventLog <+: prepared.eventLog) :
    ReturnsLog before (prepared.evaluateSince platform atMs before.eventLog.length) :=
  (List.prefix_iff_eq_append.mp (h.trans (evaluate_log_grows platform atMs prepared))).symm

theorem returnsLog_of_eq (h : prepared.eventLog = before.eventLog) :
    ReturnsLog before (prepared.evaluate platform atMs) := by
  have hevaluated := returnsLog_evaluate platform atMs prepared
  unfold ReturnsLog at hevaluated ⊢
  rw [h] at hevaluated
  exact hevaluated

theorem ReturnsLog.of_ok {result : EvaluationOutput × Evaluator}
    (ok : (Except.ok result : Except EvaluatorError (EvaluationOutput × Evaluator)) =
      .ok (evaluation, after)) (returns : ReturnsLog before result) :
    ReturnsLog before (evaluation, after) := by
  obtain rfl : result = (evaluation, after) := Except.ok.inj ok
  exact returns

/-- Every call but a subject replacement returns what it logged. -/
theorem perform_returned {call : EvaluatorCall}
    (performed : before.perform platform call atMs = .ok (evaluation, after))
    (other : ∀ replacement, call ≠ .replaceSubject replacement) :
    ReturnsLog before (evaluation, after) := by
  cases call with
  | tick => exact .of_ok performed (returnsLog_of_eq rfl)
  | barrier barrier => exact .of_ok performed (returnsLog_of_eq rfl)
  | restore detail => exact .of_ok performed (returnsLog_evaluateAfter rfl)
  | inputDrop count detail => exact .of_ok performed (returnsLog_evaluateAfter rfl)
  | ingest received =>
    simp only [perform, ingest, check_bind_eq_ok] at performed
    obtain ⟨-, -, -, performed⟩ := performed
    obtain ⟨events, hlog, -⟩ := before.notes_ingestState platform received atMs
    exact .of_ok performed (returnsLog_evaluateSince (hlog ▸ List.prefix_append _ _))
  | replacePolicy policy barrier =>
    simp only [perform, replacePolicy, check_bind_eq_ok] at performed
    obtain ⟨-, -, performed⟩ := performed
    refine .of_ok performed (returnsLog_of_eq ?_)
    unfold adoptPolicy
    split <;> rfl
  | replaceSubject replacement => exact absurd rfl (other replacement)
  | disposition disposition =>
    simp only [perform, recordEscalationDisposition, check_bind_eq_ok]
      at performed
    obtain ⟨-, -, -, performed⟩ := performed
    exact .of_ok performed (returnsLog_evaluateAfter rfl)
  | receipt receipt =>
    simp only [perform, recordDiagnosticReceipt] at performed
    split at performed
    · cases performed
    · simp only [check_bind_eq_ok] at performed
      exact .of_ok performed.2 (returnsLog_evaluateAfter rfl)

/-- A subject replacement logs the records it retires and returns what it logged after them. -/
theorem replaceSubject_returned {replacement : IncarnationId}
    (performed : before.perform platform (.replaceSubject replacement) atMs =
      .ok (evaluation, after)) : ∃ events : List SparseDurableEventV1,
      after.eventLog = before.eventLog ++ events ++ evaluation.sparseEvents ∧
      events.map SparseDurableEventV1.event =
        (before.retiredRecords atMs replacement).map .contradictionLifecycleChanged := by
  simp only [perform, replaceSubjectIncarnation, check_bind_eq_ok] at performed
  obtain ⟨-, -, performed⟩ := performed
  obtain ⟨events, hlog, hevents⟩ := before.retireRecords_eventLog atMs replacement
  refine ⟨events, ?_, hevents⟩
  rw [← hlog]
  exact ReturnsLog.of_ok performed (returnsLog_evaluate platform atMs _)

theorem retiredRecords_eq_nil (evaluator : Evaluator) (replacement : IncarnationId) :
    evaluator.retiredRecords atMs replacement = [] ↔
      ∀ (id : ContradictionId) (record : ContradictionRecordV1),
        evaluator.contradictions[id]? = some record → record.status = .active →
          record.subjectScope.subjectIncarnation ≠ evaluator.currentSubjectIncarnation := by
  rw [retiredRecords, List.map_eq_nil_iff, List.filter_eq_nil_iff]
  simp only [retiredByReplacement, ContradictionRecordV1.isActive, Bool.and_eq_true,
    decide_eq_true_eq, not_and]
  constructor
  · intro h id record hfound
    exact h record ((mem_values _ _).mpr ⟨id, hfound⟩)
  · intro h record hmem
    obtain ⟨id, hfound⟩ := (mem_values _ _).mp hmem
    exact h id record hfound

end Returned

/-- What a step adds to the log: what it returns, after the records it retired. -/
theorem step_returned {platform : Platform} {step : EvaluatorStep} (ran : step.Ran platform) :
    ∃ lost : List SparseDurableEventV1,
      step.after.eventLog = step.before.eventLog ++ lost ++ step.returned ∧
        (lost = [] ↔ ¬step.RetiresRecords) := by
  obtain ⟨before, operation, output, after⟩ := step
  simp only [EvaluatorStep.Ran] at ran
  have hkept : (∀ replacement atMs, operation ≠ .call (.replaceSubject replacement) atMs) →
      after.eventLog = before.eventLog ++
        EvaluatorStep.returned ⟨before, operation, output, after⟩ →
      ∃ lost : List SparseDurableEventV1,
        after.eventLog = before.eventLog ++ lost ++
          EvaluatorStep.returned ⟨before, operation, output, after⟩ ∧
        (lost = [] ↔ ¬EvaluatorStep.RetiresRecords ⟨before, operation, output, after⟩) := by
    intro hother hlog
    refine ⟨[], by simpa using hlog, ?_⟩
    simp only [true_iff]
    rintro ⟨replacement, atMs, hreplaces, -⟩
    exact hother replacement atMs hreplaces
  cases operation with
  | call call atMs =>
    obtain ⟨evaluation, rfl, performed⟩ := run_call ran
    by_cases hreplaces : ∃ replacement, call = .replaceSubject replacement
    · obtain ⟨replacement, rfl⟩ := hreplaces
      obtain ⟨events, hlog, hevents⟩ := replaceSubject_returned performed
      refine ⟨events, hlog, ?_⟩
      rw [← List.map_eq_nil_iff, hevents, List.map_eq_nil_iff, retiredRecords_eq_nil]
      simp [EvaluatorStep.RetiresRecords]
    · push Not at hreplaces
      refine hkept (fun replacement atMs' heq => ?_) (perform_returned performed hreplaces)
      cases heq
      exact hreplaces replacement rfl
  | capability state atMs =>
    cases ran
    exact hkept (by simp) (returnsLog_evaluateAfter rfl)
  | resolve contradictionId resolution atMs =>
    obtain ⟨found, evaluation, -, -, rfl, hevaluated⟩ := run_resolve ran
    exact hkept (by simp) (ReturnsLog.of_ok (congrArg _ hevaluated) (returnsLog_evaluateAfter rfl))
  | reinstate record =>
    obtain ⟨rfl, rfl, -⟩ := run_reinstate ran
    exact hkept (by simp) (List.append_nil _).symm
  | normalTrace normal =>
    cases ran
    exact hkept (by simp) (List.append_nil _).symm
  | failureStart atMs =>
    cases ran
    exact hkept (by simp) (List.append_nil _).symm

/-- The events the operations of a trace return, in call order. -/
def returnedEvents (steps : List EvaluatorStep) : List SparseDurableEventV1 :=
  steps.flatMap EvaluatorStep.returned

/-- The log of a trace holds what its operations return, and all of it if none of them retires
records. -/
theorem returned_trace {platform : Platform} {first last : Evaluator}
    (trace : Trace platform first steps last) :
    (first.eventLog ++ returnedEvents steps).Sublist last.eventLog ∧
      (first.eventLog ++ returnedEvents steps = last.eventLog ↔
        ∀ step ∈ steps, ¬step.RetiresRecords) := by
  induction trace with
  | nil => simp [returnedEvents]
  | @step steps last after operation output trace ran ih =>
    obtain ⟨hsublist, hexact⟩ := ih
    obtain ⟨lost, hlog, hlost⟩ := step_returned
      (show EvaluatorStep.Ran platform ⟨last, operation, output, after⟩ from ran)
    simp only at hlog
    have hreturned : returnedEvents (steps ++ [⟨last, operation, output, after⟩]) =
        returnedEvents steps ++ EvaluatorStep.returned ⟨last, operation, output, after⟩ := by
      simp [returnedEvents]
    have hkept : (first.eventLog ++ returnedEvents steps).Sublist (last.eventLog ++ lost) :=
      hsublist.trans (List.sublist_append_left _ _)
    rw [hreturned, hlog, ← List.append_assoc, List.append_cancel_right_eq]
    refine ⟨hkept.append_right _, ?_⟩
    simp only [List.forall_mem_append, List.forall_mem_singleton, ← hexact, ← hlost]
    constructor
    · intro hsame
      -- the earlier events fit in the log before this step, so nothing is left for `lost`
      have hlength := congrArg List.length hsame
      have hle := hsublist.length_le
      rw [List.length_append] at hlength
      have hempty : lost = [] := List.eq_nil_of_length_eq_zero (by
        rw [List.length_append] at hlength hle
        omega)
      exact ⟨by simpa [hempty] using hsame, hempty⟩
    · rintro ⟨hsame, rfl⟩
      rw [hsame, List.append_nil]

/-- The transitions of the log reconstruct the standing, in every run.  The events the
operations return, in call order, are found in the log; they are the log, each event exactly
once, if and only if no operation replaced the subject while active contradictions were about
its incarnation. -/
theorem transition_log_reconstructs {platform : Platform} {policy : ReliancePolicyV1}
    {receiver : ReceiverId} {receiverIncarnation : IncarnationId} {clockId : ClockId}
    {subject : IncarnationId} {first last : Evaluator} {steps : List EvaluatorStep}
    (made : Evaluator.new policy receiver receiverIncarnation clockId subject = .ok first)
    (trace : Trace platform first steps last) : Chained none (transitionsOf last.eventLog)
        (last.lastJudgment.map PresentStateJudgmentV1.category) ∧
      (∀ step ∈ steps, ∀ output, step.output = some output → transitionsOf step.after.eventLog =
            transitionsOf step.before.eventLog ++ output.transition.toList ∧
          (step.before.standing ≠ step.after.standing → output.transition.isSome)) ∧
      (returnedEvents steps).Sublist last.eventLog ∧
      ((returnedEvents steps).Perm last.eventLog ↔ ∀ step ∈ steps, ¬step.RetiresRecords) := by
  have hfirst := new_eq_ok made
  have hempty : first.eventLog = [] := by rw [hfirst]; rfl
  obtain ⟨hsublist, hexact⟩ := returned_trace trace
  rw [hempty, List.nil_append] at hsublist hexact
  refine ⟨chained_trace trace ?_, fun step hmem output houtput => ?_, hsublist, ?_⟩
  · rw [hfirst]
    rfl
  · obtain ⟨transition, htransition, hlog, hstanding⟩ :=
      run_transitions (trace.ran_of_mem step hmem)
    rw [houtput, Option.bind_some] at htransition
    subst htransition
    refine ⟨hlog, fun hchanged => ?_⟩
    cases htransition : output.transition with
    | none =>
      rw [htransition] at hstanding
      exact absurd hstanding hchanged
    | some transition => rfl
  · rw [← hexact]
    constructor
    · intro hperm
      exact hsublist.eq_of_length hperm.length_eq
    · intro hsame
      rw [hsame]

namespace Reference

/-- A tolerance of 0.1 and two pulses that contradict each other under it. -/
def contradicted : List EvaluatorOperation :=
  [ .call (.replacePolicy (policy "p2" ((∅ : ExtTreeMap Text Float64).insert "load"
      ⟨0x3fb999999999999a⟩)) (.generationTransition "p1 to p2")) 0,
    arrival "a" 1 ⟨0x3fc999999999999a⟩ 0 .first,
    arrival "b" 1 ⟨0x3feccccccccccccd⟩ 0 .first ]

/-- Whether a step is about something else than a replaced subject. -/
def keepsSubject (step : EvaluatorStep) : Bool :=
  match step.operation with
  | .call (.replaceSubject _) _ => false
  | _ => true

theorem not_retiresRecords {step : EvaluatorStep} (h : keepsSubject step = true) :
    ¬step.RetiresRecords := by
  rintro ⟨replacement, atMs, hreplaces, -⟩
  rw [keepsSubject, hreplaces] at h
  cases h

theorem transition_log_reconstructs_contradicted :
    ∃ steps last, Trace platform fresh steps last ∧ steps ≠ [] ∧
      Chained none (transitionsOf last.eventLog)
        (last.lastJudgment.map PresentStateJudgmentV1.category) ∧
      (returnedEvents steps).Perm last.eventLog := by
  obtain ⟨steps, last, htrace, htest⟩ := exists_of_traceTo
    (show (traceTo contradicted fun steps _ =>
      !steps.isEmpty && steps.all keepsSubject).isSome = true by decide +kernel)
  rw [Bool.and_eq_true, List.all_eq_true] at htest
  obtain ⟨hchained, -, -, hexact⟩ := transition_log_reconstructs new_fresh htrace
  exact ⟨steps, last, htrace, by simpa using htest.1, hchained,
    hexact.mpr fun step hmem => not_retiresRecords (htest.2 step hmem)⟩

/-- Replacing the subject while the contradiction is active loses the event of its retirement:
the log holds more than the operations returned. -/
theorem replacement_loses_events :
    Evaluator.new (policy "p1" ∅) "receiver" "r1" "clock" "i1" = .ok fresh ∧
      ∃ steps last, Trace platform fresh steps last ∧
        ¬(returnedEvents steps).Perm last.eventLog := by
  obtain ⟨steps, last, htrace, htest⟩ := exists_of_traceTo
    (show (traceTo (contradicted ++ [.call (.replaceSubject "i2") 10]) fun steps last =>
      decide ((returnedEvents steps).length < last.eventLog.length)).isSome = true by
        decide +kernel)
  exact ⟨new_fresh, steps, last, htrace, fun hperm => by
    have hshorter := of_decide_eq_true htest
    have hlength := hperm.length_eq
    omega⟩

end Reference

end ConstellationMonitor.Evaluation

/-
  Escalations of one evaluator over whole runs: at most one live request per deduplication key.

  A request stays among the active ones until an evaluation takes place at or after its expiry,
  and evaluation time never runs backwards, so a second request with its key can only be drafted
  when the first has expired.
-/
import ConstellationMonitor.Evaluation.EventLog

namespace ConstellationMonitor.Evaluation

open Foundation ConstellationMonitor.Types
open Std (ExtTreeMap ExtTreeSet)

/-! ## The requests of the log -/

/-- The request an event reports. -/
def requestOf (event : SparseDurableEventV1) : Option DiagnosticEscalationRequestV1 :=
  match event.event with
  | .escalationRequested request => some request
  | _ => none

variable {event : SparseDurableEventV1} {log : List SparseDurableEventV1}
  {steps : List EvaluatorStep}

theorem requestOf_eq_some {request : DiagnosticEscalationRequestV1} :
    requestOf event = some request ↔ event.event = .escalationRequested request := by
  unfold requestOf
  split <;> simp_all

theorem requestOf_incidental (h : SparseDurableEventV1.Incidental event) :
    requestOf event = none := by
  unfold SparseDurableEventV1.Incidental at h
  unfold requestOf
  split
  · rename_i hkind
    rw [hkind] at h
    exact h.elim
  · rfl

/-- The requests of a log, in order. -/
def requestsOf (log : List SparseDurableEventV1) : List DiagnosticEscalationRequestV1 :=
  log.filterMap requestOf

theorem requestsOf_append (left right : List SparseDurableEventV1) :
    requestsOf (left ++ right) = requestsOf left ++ requestsOf right :=
  List.filterMap_append

/-- The event reports the transition a request names as its cause: out of CURRENT. -/
def SparseDurableEventV1.Causes (event : SparseDurableEventV1)
    (request : DiagnosticEscalationRequestV1) : Prop :=
  ∃ transition, event.event = .judgmentTransition transition ∧
    transition.transitionId = request.causalTransitionId ∧
    transition.fromCategory = some .current ∧ transition.toCategory ≠ .current

/-- Every request of a log follows directly on its cause. -/
def EachCaused (log : List SparseDurableEventV1) : Prop :=
  ∀ earlier event later request, log = earlier ++ event :: later →
    requestOf event = some request →
      ∃ before cause, earlier = before ++ [cause] ∧ SparseDurableEventV1.Causes cause request

theorem eachCaused_concat {last : SparseDurableEventV1} (h : EachCaused log)
    (hlast : ∀ request, requestOf last = some request →
      ∃ before cause, log = before ++ [cause] ∧ SparseDurableEventV1.Causes cause request) :
    EachCaused (log ++ [last]) := by
  intro earlier event later request hlog hrequest
  rcases List.eq_nil_or_concat later with rfl | ⟨rest, final, rfl⟩
  · obtain ⟨rfl, hevent⟩ := List.append_inj' hlog rfl
    obtain rfl : last = event := by simpa using hevent
    exact hlast request hrequest
  · have hlog' : log ++ [last] = (earlier ++ event :: rest) ++ [final] := by
      rw [hlog, List.concat_eq_append]
      simp
    obtain ⟨hlog', -⟩ := List.append_inj' hlog' rfl
    exact h earlier event rest request hlog' hrequest

/-- Events that are no requests may follow. -/
theorem EachCaused.append {events : List SparseDurableEventV1} (h : EachCaused log)
    (hevents : ∀ event ∈ events, requestOf event = none) : EachCaused (log ++ events) := by
  induction events using List.reverseRecOn with
  | nil => simpa using h
  | append_singleton events event ih =>
    rw [← List.append_assoc]
    refine eachCaused_concat (ih fun event hmem => hevents event (by simp [hmem])) ?_
    intro request hrequest
    rw [hevents event (by simp)] at hrequest
    cases hrequest

/-! ## The docket of a log -/

/-- The second request is made when the first, if it has the same key, has expired. -/
def Succeeds (earlier later : DiagnosticEscalationRequestV1) : Prop :=
  earlier.deduplicationKey = later.deduplicationKey →
    earlier.expiresAtMonotonicMs ≤ later.createdAtMonotonicMs

/-- What a log says about the active escalations at a time: requests with one key succeed each
other, and each has expired or is active under its key. -/
structure Docketed (log : List SparseDurableEventV1) (now : Option Nat)
    (active : ExtTreeMap DigestV1 ActiveEscalation) : Prop where
  succeed : (requestsOf log).Pairwise Succeeds
  expired_or_active : ∀ request ∈ requestsOf log,
    (∃ time, now = some time ∧ request.expiresAtMonotonicMs ≤ time) ∨
      active[request.deduplicationKey]? =
        some ⟨request.requestId, request.expiresAtMonotonicMs⟩
  caused : EachCaused log

namespace Docketed

variable {log events : List SparseDurableEventV1} {now : Option Nat}
  {active : ExtTreeMap DigestV1 ActiveEscalation}

/-- Events that are no requests leave the docket alone. -/
theorem append (h : Docketed log now active) (hevents : ∀ event ∈ events, requestOf event = none) :
    Docketed (log ++ events) now active := by
  have hsame : requestsOf (log ++ events) = requestsOf log := by
    have hnone : requestsOf events = [] := List.filterMap_eq_nil_iff.mpr hevents
    rw [requestsOf_append, hnone, List.append_nil]
  exact ⟨hsame ▸ h.succeed, hsame ▸ h.expired_or_active, h.caused.append hevents⟩

/-- Time passes and what has expired is dropped. -/
theorem expire (h : Docketed log now active) {time : Nat} (hle : ∀ prior ∈ now, prior ≤ time) :
    Docketed log (some time)
      (active.filter fun _ escalation => decide (time < escalation.expiresAtMs)) := by
  refine ⟨h.succeed, fun request hmem => ?_, h.caused⟩
  by_cases hexpired : request.expiresAtMonotonicMs ≤ time
  · exact .inl ⟨time, rfl, hexpired⟩
  · rcases h.expired_or_active request hmem with ⟨prior, hprior, hpast⟩ | hactive
    · exact absurd (hpast.trans (hle prior hprior)) hexpired
    · refine .inr ?_
      rw [ExtTreeMap.getElem?_filter, hactive]
      simpa using hexpired

/-- A request whose key is free joins the docket after its cause. -/
theorem request {time : Nat} {event : SparseDurableEventV1}
    {request : DiagnosticEscalationRequestV1} (h : Docketed log (some time) active)
    (free : active[request.deduplicationKey]? = none)
    (created : request.createdAtMonotonicMs = time)
    (kind : event.event = .escalationRequested request)
    (cause : ∃ before cause, log = before ++ [cause] ∧ SparseDurableEventV1.Causes cause request) :
    Docketed (log ++ [event]) (some time) (active.insert request.deduplicationKey
      ⟨request.requestId, request.expiresAtMonotonicMs⟩) := by
  have hrequest : requestOf event = some request := requestOf_eq_some.mpr kind
  have hrequests : requestsOf (log ++ [event]) = requestsOf log ++ [request] := by
    rw [requestsOf_append]
    simp [requestsOf, hrequest]
  -- a logged request with this key is not active, so it has expired
  have hexpired : ∀ earlier ∈ requestsOf log,
      earlier.deduplicationKey = request.deduplicationKey →
        earlier.expiresAtMonotonicMs ≤ time := by
    intro earlier hmem hkey
    rcases h.expired_or_active earlier hmem with ⟨now, hnow, hpast⟩ | hactive
    · exact (Option.some.inj hnow) ▸ hpast
    · rw [hkey, free] at hactive
      cases hactive
  refine ⟨?_, ?_, eachCaused_concat h.caused fun other hother => ?_⟩
  · rw [hrequests]
    refine List.pairwise_append.mpr ⟨h.succeed, by simp, fun earlier hmem later hlater hkey => ?_⟩
    obtain rfl := List.mem_singleton.mp hlater
    rw [created]
    exact hexpired earlier hmem hkey
  · rw [hrequests]
    intro other hmem
    rw [getElem?_insert_iff]
    rcases List.mem_append.mp hmem with hmem | hmem
    · by_cases hkey : request.deduplicationKey = other.deduplicationKey
      · exact .inl ⟨time, rfl, hexpired other hmem hkey.symm⟩
      · rw [if_neg hkey]
        exact h.expired_or_active other hmem
    · obtain rfl := List.mem_singleton.mp hmem
      exact .inr (if_pos rfl)
  · rw [hrequest] at hother
    cases hother
    exact cause

end Docketed

/-! ## One operation -/

namespace Evaluator

section Evaluation

variable (platform : Platform) (requestedNow : Nat) (evaluator : Evaluator)

theorem hotState_activeEscalations : (evaluator.hotState requestedNow).activeEscalations =
      evaluator.activeEscalations.filter fun _ escalation =>
        decide (evaluator.evaluationTime requestedNow < escalation.expiresAtMs) := by
  unfold hotState evaluationTime guardClock
  split
  · rfl
  · split <;> rfl

/-- The log before the escalation ends with the transition there is. -/
theorem measuredState_log_cases :
    (∃ transition event, (evaluator.transitioned platform requestedNow).1 = some transition ∧
      event.event = .judgmentTransition transition ∧
      (evaluator.measuredState platform requestedNow).eventLog =
        (evaluator.hotState requestedNow).eventLog ++ [event]) ∨
    (evaluator.transitioned platform requestedNow).1 = none ∧
      (evaluator.measuredState platform requestedNow).eventLog =
        (evaluator.hotState requestedNow).eventLog := by
  rw [measuredState_eventLog]
  rcases evaluator.transitioned_cases platform requestedNow with
    ⟨transition, event, hsome, -, -, hlog, hkind⟩ | ⟨hnone, -, hlog⟩
  · exact .inl ⟨transition, event, hsome, hkind, hlog⟩
  · exact .inr ⟨hnone, hlog⟩

end Evaluation

/-- The docket of the evaluator's own log. -/
def OnDocket (evaluator : Evaluator) : Prop :=
  Docketed evaluator.eventLog evaluator.lastEvaluationMs evaluator.activeEscalations

variable {after before evaluator : Evaluator} {now : Nat} {transition : Option JudgmentTransitionV1}

theorem Notes.onDocket (h : Notes before after) (hdocket : before.OnDocket)
    (htime : after.lastEvaluationMs = before.lastEvaluationMs)
    (hactive : after.activeEscalations = before.activeEscalations) : after.OnDocket := by
  obtain ⟨events, hlog, hincidental⟩ := h
  unfold OnDocket
  rw [hlog, htime, hactive]
  exact hdocket.append fun event hmem => requestOf_incidental (hincidental event hmem)

/-- Dropping what has expired keeps the docket. -/
theorem onDocket_hotState (requestedNow : Nat) (h : evaluator.OnDocket) :
    (evaluator.hotState requestedNow).OnDocket := by
  obtain ⟨events, hlog, hincidental⟩ := evaluator.notes_hotState requestedNow
  have htime : (evaluator.hotState requestedNow).lastEvaluationMs =
      some (evaluator.evaluationTime requestedNow) := rfl
  unfold OnDocket
  rw [hlog, htime, hotState_activeEscalations]
  refine Docketed.append (h.expire fun prior hprior => ?_) fun event hmem =>
    requestOf_incidental (hincidental event hmem)
  exact (evaluator.le_evaluationTime requestedNow).2 prior hprior

/-- An escalation keeps the docket if the log ends with the transition that caused it. -/
theorem Escalates.docketed {request : Option DiagnosticEscalationRequestV1}
    (h : Escalates before transition now request after)
    (hdocket : Docketed before.eventLog (some now) before.activeEscalations)
    (hcause : ∀ cause, transition = some cause → ∃ front event,
      before.eventLog = front ++ [event] ∧ event.event = .judgmentTransition cause) :
    Docketed after.eventLog (some now) after.activeEscalations := by
  cases h with
  | nothing active log =>
    rw [log, active]
    exact hdocket
  | deduplicated found active log kind =>
    rw [log, active]
    exact hdocket.append (by simp [requestOf, kind])
  | requested caused current lost names created free active log kind =>
    rw [log, active]
    obtain ⟨front, event, hlog, hevent⟩ := hcause _ caused
    exact hdocket.request free created kind
      ⟨front, event, hlog, _, hevent, names.symm, current, lost⟩

theorem Notes.requestsOf (h : Notes before after) :
    Evaluation.requestsOf after.eventLog = Evaluation.requestsOf before.eventLog := by
  obtain ⟨events, hlog, hincidental⟩ := h
  have hnone : Evaluation.requestsOf events = [] :=
    List.filterMap_eq_nil_iff.mpr fun event hmem => requestOf_incidental (hincidental event hmem)
  rw [hlog, requestsOf_append, hnone, List.append_nil]

theorem Escalates.requestsOf {request : Option DiagnosticEscalationRequestV1}
    (h : Escalates before transition now request after) : Evaluation.requestsOf after.eventLog =
      Evaluation.requestsOf before.eventLog ++ request.toList := by
  cases h with
  | nothing _ log => simp [log]
  | deduplicated _ _ log kind =>
    rw [log, requestsOf_append]
    simp [Evaluation.requestsOf, requestOf, kind]
  | requested _ _ _ _ _ _ _ log kind =>
    rw [log, requestsOf_append]
    simp [Evaluation.requestsOf, requestOf, kind]

/-- The event reports that an attempt met the request active under its key. -/
def ReportsDuplicate (event : SparseDurableEventV1) (key : DigestV1)
    (requestId : EscalationRequestId) : Prop :=
  event.event = .escalationDeduplicated key requestId

theorem not_reportsDuplicate_of_incidental {event : SparseDurableEventV1}
    (h : SparseDurableEventV1.Incidental event) (key : DigestV1)
    (requestId : EscalationRequestId) : ¬ReportsDuplicate event key requestId := by
  intro hkind
  unfold SparseDurableEventV1.Incidental at h
  rw [ReportsDuplicate] at hkind
  rw [hkind] at h
  exact h

/-- An escalation that reports a duplicate met an active request and leaves it alone. -/
theorem Escalates.deduplicated_standing {request : Option DiagnosticEscalationRequestV1}
    (h : Escalates before transition now request after) :
    ∃ issued, after.eventLog = before.eventLog ++ issued ∧
      ∀ event ∈ issued, ∀ key requestId, ReportsDuplicate event key requestId →
        ∃ standing : ActiveEscalation, standing.requestId = requestId ∧
          before.activeEscalations[key]? = some standing ∧
          after.activeEscalations = before.activeEscalations := by
  cases h with
  | nothing _ log => exact ⟨[], by simpa using log, by simp⟩
  | @deduplicated _ key standing event found active log kind =>
    refine ⟨[event], log, fun other hmem key' requestId hreports => ?_⟩
    obtain rfl := List.mem_singleton.mp hmem
    cases kind.symm.trans hreports
    exact ⟨standing, rfl, found, active⟩
  | @requested _ request _ event _ _ _ _ _ _ _ log kind =>
    refine ⟨[event], log, fun other hmem key requestId hreports => ?_⟩
    obtain rfl := List.mem_singleton.mp hmem
    cases kind.symm.trans hreports

/-- So does an evaluation. -/
theorem evaluate_deduplicated (platform : Platform) (requestedNow : Nat) (evaluator : Evaluator) :
    ∃ events, (evaluator.evaluate platform requestedNow).2.eventLog = evaluator.eventLog ++ events ∧
      ∀ event ∈ events, ∀ key requestId, ReportsDuplicate event key requestId →
        ∃ standing : ActiveEscalation, standing.requestId = requestId ∧
          evaluator.activeEscalations[key]? = some standing ∧
          (evaluator.evaluate platform requestedNow).2.activeEscalations[key]? = some standing := by
  obtain ⟨notes, hnotes, hincidental⟩ := evaluator.notes_hotState requestedNow
  obtain ⟨issued, hissued, hstanding⟩ :=
    (evaluator.evaluate_escalates platform requestedNow).deduplicated_standing
  have hactive : (evaluator.measuredState platform requestedNow).activeEscalations =
      (evaluator.hotState requestedNow).activeEscalations :=
    (evaluator.records_measuredState platform requestedNow).activeEscalations
  obtain ⟨caused, hcaused, hkinds⟩ : ∃ caused,
      (evaluator.measuredState platform requestedNow).eventLog =
        (evaluator.hotState requestedNow).eventLog ++ caused ∧
      ∀ event ∈ caused, ∀ key requestId, ¬ReportsDuplicate event key requestId := by
    rcases evaluator.measuredState_log_cases platform requestedNow with
      ⟨transition, event, -, hkind, hlog⟩ | ⟨-, hlog⟩
    · exact ⟨[event], hlog, by simp [ReportsDuplicate, hkind]⟩
    · exact ⟨[], by simpa using hlog, by simp⟩
  refine ⟨notes ++ caused ++ issued, ?_, fun event hmem key requestId hreports => ?_⟩
  · rw [evaluate_eventLog, hissued, hcaused, hnotes]
    simp
  · rcases List.mem_append.mp hmem with hmem | hmem
    · rcases List.mem_append.mp hmem with hmem | hmem
      · exact absurd hreports
          (not_reportsDuplicate_of_incidental (hincidental event hmem) key requestId)
      · exact absurd hreports (hkinds event hmem key requestId)
    · obtain ⟨standing, hid, hfound, hsame⟩ := hstanding event hmem key requestId hreports
      refine ⟨standing, hid, ?_, (congrArg (fun active => active[key]?) hsame).trans hfound⟩
      -- what is active after the expired requests were dropped was active before
      rw [hactive, hotState_activeEscalations, ExtTreeMap.getElem?_filter] at hfound
      exact (Option.pfilter_eq_some_iff.mp hfound).1

/-- An evaluation keeps the docket. -/
theorem onDocket_evaluate (platform : Platform) (requestedNow : Nat) (h : evaluator.OnDocket) :
    (evaluator.evaluate platform requestedNow).2.OnDocket := by
  have hhot := onDocket_hotState requestedNow h
  have hrecords := evaluator.records_measuredState platform requestedNow
  have htime : (evaluator.measuredState platform requestedNow).lastEvaluationMs =
      some (evaluator.evaluationTime requestedNow) := hrecords.lastEvaluationMs
  have hcases := evaluator.measuredState_log_cases platform requestedNow
  have hmeasured : Docketed (evaluator.measuredState platform requestedNow).eventLog
      (some (evaluator.evaluationTime requestedNow))
      (evaluator.measuredState platform requestedNow).activeEscalations := by
    rw [hrecords.activeEscalations]
    rcases hcases with ⟨transition, event, -, hkind, hlog⟩ | ⟨-, hlog⟩
    · rw [hlog]
      exact hhot.append (by simp [requestOf, hkind])
    · rw [hlog]
      exact hhot
  unfold OnDocket
  rw [evaluate_lastEvaluationMs, evaluate_eventLog]
  refine (evaluator.evaluate_escalates platform requestedNow).docketed hmeasured
    fun cause hcause => ?_
  rcases hcases with ⟨transition, event, hsome, hkind, hlog⟩ | ⟨hnone, -⟩
  · cases hsome.symm.trans hcause
    exact ⟨_, event, hlog, hkind⟩
  · rw [hnone] at hcause
    cases hcause

/-- An evaluation adds its request to those of the log. -/
theorem evaluate_requestsOf (platform : Platform) (requestedNow : Nat) (evaluator : Evaluator) :
    requestsOf (evaluator.evaluate platform requestedNow).2.eventLog =
      requestsOf evaluator.eventLog ++
        (evaluator.evaluate platform requestedNow).1.escalationRequest.toList := by
  have hnoted := (evaluator.notes_hotState requestedNow).requestsOf
  rw [evaluate_eventLog, (evaluator.evaluate_escalates platform requestedNow).requestsOf]
  rcases evaluator.measuredState_log_cases platform requestedNow with
    ⟨transition, event, -, hkind, hlog⟩ | ⟨-, hlog⟩
  · rw [hlog, requestsOf_append, hnoted]
    simp [requestsOf, requestOf, hkind]
  · rw [hlog, hnoted]

end Evaluator

open Evaluator

section Operations

variable {platform : Platform} {operation : EvaluatorOperation} {before after : Evaluator}
  {output : Option EvaluationOutput}

theorem onDocket_run (ran : operation.run platform before = .ok (output, after))
    (h : before.OnDocket) : after.OnDocket := by
  have hawaits := awaits_prepare platform operation before
  have hprepared := (notes_prepare platform operation before).onDocket h
    hawaits.lastEvaluationMs hawaits.activeEscalations
  cases output with
  | none => exact (run_none ran).symm ▸ hprepared
  | some output =>
    rw [(evaluates_run ran).state]
    exact onDocket_evaluate platform _ hprepared

theorem requestsOf_run (ran : operation.run platform before = .ok (output, after)) :
    requestsOf after.eventLog = requestsOf before.eventLog ++
      (output.bind EvaluationOutput.escalationRequest).toList := by
  have hnoted := (notes_prepare platform operation before).requestsOf
  cases output with
  | none =>
    rw [run_none ran, hnoted]
    simp
  | some output =>
    rw [(evaluates_run ran).state, evaluate_requestsOf, hnoted, Option.bind_some,
      (evaluates_run ran).escalationRequest]

/-- A deduplicated attempt leaves the request it met active, with the same expiry. -/
theorem deduplicated_run (ran : operation.run platform before = .ok (output, after)) :
    ∃ events, after.eventLog = before.eventLog ++ events ∧
      ∀ event ∈ events, ∀ key requestId, ReportsDuplicate event key requestId →
        ∃ standing : ActiveEscalation, standing.requestId = requestId ∧
          before.activeEscalations[key]? = some standing ∧
          after.activeEscalations[key]? = some standing := by
  obtain ⟨notes, hnotes, hincidental⟩ := notes_prepare platform operation before
  cases output with
  | none =>
    refine ⟨notes, (run_none ran) ▸ hnotes, fun event hmem key requestId hreports => ?_⟩
    exact absurd hreports (not_reportsDuplicate_of_incidental
      (hincidental event hmem) key requestId)
  | some output =>
    rw [(evaluates_run ran).state, ← (awaits_prepare platform operation before).activeEscalations]
    obtain ⟨events, hevents, hstanding⟩ := evaluate_deduplicated platform
      operation.time (operation.prepare platform before)
    refine ⟨notes ++ events, by rw [hevents, hnotes, List.append_assoc], ?_⟩
    intro event hmem key requestId hreports
    rcases List.mem_append.mp hmem with hmem | hmem
    · exact absurd hreports (not_reportsDuplicate_of_incidental
        (hincidental event hmem) key requestId)
    · exact hstanding event hmem key requestId hreports

end Operations

/-! ## Whole runs -/

/-- The requests the operations of a trace issue. -/
def issuedRequests (steps : List EvaluatorStep) : List DiagnosticEscalationRequestV1 :=
  (outputs steps).filterMap EvaluationOutput.escalationRequest

/-- The events a step adds to the log. -/
def EvaluatorStep.logged (step : EvaluatorStep) : List SparseDurableEventV1 :=
  step.after.eventLog.drop step.before.eventLog.length

theorem requestsOf_trace {platform : Platform} {first last : Evaluator}
    (trace : Trace platform first steps last) :
    requestsOf last.eventLog = requestsOf first.eventLog ++ issuedRequests steps := by
  induction trace with
  | nil => simp [issuedRequests, outputs]
  | @step steps last after operation output trace ran ih =>
    rw [requestsOf_run ran, ih, List.append_assoc]
    cases output with
    | none => simp [issuedRequests, outputs]
    | some output => cases hrequest : output.escalationRequest <;>
        simp [issuedRequests, outputs, hrequest]

theorem onDocket_trace {platform : Platform} {first last : Evaluator}
    (trace : Trace platform first steps last) (h : first.OnDocket) : last.OnDocket := by
  induction trace with
  | nil => exact h
  | step _ ran ih => exact onDocket_run ran ih

theorem disjoint_of_succeeds {earlier later : DiagnosticEscalationRequestV1}
    (h : Succeeds earlier later) (same : earlier.deduplicationKey = later.deduplicationKey) :
    Disjoint (Set.Ico earlier.createdAtMonotonicMs earlier.expiresAtMonotonicMs)
      (Set.Ico later.createdAtMonotonicMs later.expiresAtMonotonicMs) := by
  refine Set.disjoint_left.mpr fun time hearlier hlater => ?_
  have hexpired := h same
  have hbefore := hearlier.2
  have hafter := hlater.1
  omega

/-- At most one live escalation per deduplication key, in every run.  Any two issued requests
with one key are live at disjoint times; an attempt that is deduplicated leaves the active
request, its expiry included, as it was; and every request in the log follows directly on the
transition out of CURRENT that it names as its cause. -/
theorem one_live_escalation {platform : Platform} {policy : ReliancePolicyV1}
    {receiver : ReceiverId} {receiverIncarnation : IncarnationId} {clockId : ClockId}
    {subject : IncarnationId} {first last : Evaluator} {steps : List EvaluatorStep}
    (made : Evaluator.new policy receiver receiverIncarnation clockId subject = .ok first)
    (trace : Trace platform first steps last) : requestsOf last.eventLog = issuedRequests steps ∧
      (issuedRequests steps).Pairwise (fun earlier later =>
        earlier.deduplicationKey = later.deduplicationKey →
          Disjoint (Set.Ico earlier.createdAtMonotonicMs earlier.expiresAtMonotonicMs)
            (Set.Ico later.createdAtMonotonicMs later.expiresAtMonotonicMs)) ∧
      (∀ step ∈ steps, ∀ event ∈ step.logged, ∀ key requestId,
        event.event = .escalationDeduplicated key requestId →
          ∃ standing : ActiveEscalation, standing.requestId = requestId ∧
            step.before.activeEscalations[key]? = some standing ∧
            step.after.activeEscalations[key]? = some standing) ∧
      ∀ earlier event later request, last.eventLog = earlier ++ event :: later →
        event.event = .escalationRequested request →
          ∃ before cause transition, earlier = before ++ [cause] ∧
            cause.event = .judgmentTransition transition ∧
            transition.transitionId = request.causalTransitionId ∧
            transition.fromCategory = some .current ∧ transition.toCategory ≠ .current := by
  have hfirst := new_eq_ok made
  have hdocket : first.OnDocket := by
    rw [hfirst]
    exact ⟨.nil, by simp [requestsOf, initial], by simp [EachCaused, initial]⟩
  have hlast := onDocket_trace trace hdocket
  have hrequests : requestsOf last.eventLog = issuedRequests steps := by
    rw [requestsOf_trace trace, hfirst]
    rfl
  refine ⟨hrequests, hrequests ▸ hlast.succeed.imp disjoint_of_succeeds, ?_, ?_⟩
  · intro step hmem event hevent key requestId hkind
    obtain ⟨events, hlog, hstanding⟩ := deduplicated_run (trace.ran_of_mem step hmem)
    rw [EvaluatorStep.logged, hlog, List.drop_left] at hevent
    exact hstanding event hevent key requestId hkind
  · intro earlier event later request hlog hkind
    obtain ⟨before, cause, hcause, transition, hevent⟩ :=
      hlast.caused earlier event later request hlog (requestOf_eq_some.mpr hkind)
    exact ⟨before, cause, transition, hcause, hevent⟩

namespace Reference

/-- The reference policy with an escalation when coverage collapses. -/
def escalating : ReliancePolicyV1 :=
  { policy "p2" ∅ with
    escalation := some
      { triggers := ExtTreeSet.ofList [EscalationTriggerClassV1.freshnessLost, .coverageCollapse]
        diagnosticProfile := ⟨"stub", 1, digest "stub"⟩
        bounds := ⟨25, 1024, 4⟩
        requestTtlMs := 250 } }

/-- A pulse whose support runs out: at 150, at 350 while that request is live, and at 600. -/
def expiries : List EvaluatorOperation :=
  [ .call (.replacePolicy escalating (.generationTransition "p1 to p2")) 0,
    arrival "a" 1 ⟨0x3fc999999999999a⟩ 0 .first,
    .call .tick 10,
    .call .tick 150,
    arrival "a" 2 ⟨0x3fc999999999999a⟩ 200 .continuous,
    .call .tick 350,
    arrival "a" 3 ⟨0x3fc999999999999a⟩ 420 .continuous,
    .call .tick 600 ]

/-- Whether a step deduplicated a request. -/
def deduplicates (step : EvaluatorStep) : Bool :=
  step.logged.any fun event => event.event matches .escalationDeduplicated _ _

theorem one_live_escalation_expiries :
    ∃ steps last, Trace platform fresh steps last ∧ (issuedRequests steps).length = 2 ∧
      (issuedRequests steps).Pairwise (fun earlier later =>
        earlier.deduplicationKey = later.deduplicationKey →
          Disjoint (Set.Ico earlier.createdAtMonotonicMs earlier.expiresAtMonotonicMs)
            (Set.Ico later.createdAtMonotonicMs later.expiresAtMonotonicMs)) ∧
      ∃ step ∈ steps, ∃ (key : DigestV1) (standing : ActiveEscalation),
        step.before.activeEscalations[key]? = some standing ∧
          step.after.activeEscalations[key]? = some standing := by
  obtain ⟨steps, last, htrace, htest⟩ := exists_of_traceTo
    (show (traceTo expiries fun steps _ => decide ((issuedRequests steps).length = 2) &&
      steps.any deduplicates).isSome = true by decide +kernel)
  simp only [Bool.and_eq_true, decide_eq_true_eq, List.any_eq_true] at htest
  obtain ⟨htwo, step, hstep, hdeduplicates⟩ := htest
  obtain ⟨event, hevent, hkind⟩ := List.any_eq_true.mp hdeduplicates
  obtain ⟨-, hdisjoint, hstanding, -⟩ := one_live_escalation new_fresh htrace
  split at hkind
  · rename_i key requestId heq
    obtain ⟨standing, -, hbefore, hafter⟩ := hstanding step hstep event hevent key requestId heq
    exact ⟨steps, last, htrace, htwo, hdisjoint, step, hstep, key, standing, hbefore, hafter⟩
  · cases hkind

end Reference

end ConstellationMonitor.Evaluation

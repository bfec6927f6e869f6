/-
  Applying an evaluation and visiting a consumer, as transitions of the board.
-/
import ConstellationMonitor.Runtime.Transition
import ConstellationMonitor.Evaluation.Preserve

namespace ConstellationMonitor.Runtime

open Foundation ConstellationMonitor.Types Evaluation
open Std (ExtTreeMap ExtTreeSet)
open Relation (ReflTransGen)

/-! ## Settling -/

namespace Cycle

variable (host : Host) (key : ConsumerKey)

theorem carryOut_board (atMs : Nat) (dispatch : Dispatch) (cycle : Cycle) :
    ∃ full, (cycle.carryOut host key atMs dispatch).board =
      { cycle.board.exhaust full with
        requestOwners := cycle.board.ownersAfter key dispatch } := by
  cases dispatch with
  | idle => exact ⟨false, rfl⟩
  | suppressed => exact ⟨false, rfl⟩
  | refused =>
    obtain ⟨full, h⟩ := cycle.noted_pushRefusal host
      { refusalClass := .escalationCapacity
        atMs := atMs
        subject := some key.subject
        consumer := some key.consumer
        configuredBound := cycle.config.bounds.maximumActiveEscalations
        observedCount := cycle.requestOwners.size + 1
        detail := "active escalation request bound is full; request was not dispatched" }
    exact ⟨full, h⟩
  | pushed request => exact ⟨false, rfl⟩

theorem cancelSchedule_board (cycle : Cycle) :
    (cycle.cancelSchedule key).board =
      { cycle.board with
        schedules := cycle.board.schedules.filter fun schedule =>
          decide (schedule.owner ≠ key) } := rfl

/-- Events, dispatch and cancellation, seen on the board. -/
theorem settleEvaluation_board (evaluation : EvaluationOutput) (atMs : Nat) (cycle : Cycle) :
    ∃ full, (cycle.settleEvaluation host key evaluation atMs).board =
      { cycle.board.exhaust full with
        requestOwners := cycle.board.ownersAfter key (cycle.board.dispatch key evaluation)
        schedules := cycle.board.schedules.filter fun schedule =>
          decide (schedule.owner ≠ key) } := by
  obtain ⟨recorded, hrecorded⟩ := cycle.noted_recordEvents host evaluation.sparseEvents
  obtain ⟨carried, hcarried⟩ := carryOut_board host key atMs (cycle.dispatch key evaluation)
    (cycle.recordEvents host evaluation.sparseEvents)
  rw [hrecorded, Board.exhaust_exhaust] at hcarried
  refine ⟨carried || recorded, ?_⟩
  unfold settleEvaluation
  rw [cancelSchedule_board, accountDueScheduleBeforeCancellation_board, hcarried]
  rfl

end Cycle

/-! ## Bindings -/

namespace Cycle

variable (host : Host) (key : ConsumerKey)

theorem aside_invalidateBinding (atMs : Nat) (invalidation : Invalidation) (cycle : Cycle) :
    Aside key cycle.board (cycle.invalidateBinding host key atMs invalidation).board := by
  have hslots : ∀ other : ConsumerKey, other ≠ key →
      (cycle.qualifiedBindings.modify key fun slot =>
        { slot with state := invalidation.state, accepted := none })[other]? =
          cycle.qualifiedBindings[other]? := by
    intro other hother
    simp [ExtTreeMap.getElem?_modify, hother.symm]
  unfold invalidateBinding
  exact (cycle.aside_slots key hslots).trans (.of_noted (noted_recordSparse _ _ _ _))

theorem aside_invalidateBindingForContextChange (context : RelianceContextV1) (atMs : Nat)
    (cycle : Cycle) :
    Aside key cycle.board
      (cycle.invalidateBindingForContextChange host key context atMs).board := by
  unfold invalidateBindingForContextChange
  split
  · exact .refl _
  · split
    · exact .refl _
    · exact aside_invalidateBinding host key _ _ cycle

end Cycle

variable {host : Host} {key : ConsumerKey} {core entry : RuntimeCore} {state : ConsumerState}

/-- A binding that passed the checks is the accepted one, and it matches the context. -/
theorem checkAccepted_eq_ok {context : RelianceContextV1} {observed : List ArtifactMeasurementV1}
    {probe : Nat} {accepted : VerifiedActivationV1} {binding : QualifiedGenerationBindingV1}
    (h : checkAccepted host key context observed probe accepted = .ok binding) :
    accepted.binding = binding ∧ bindingMatches binding key context = true := by
  unfold checkAccepted at h
  dsimp only at h
  split at h
  · cases h
  · rename_i hmatches
    split at h
    · cases h
    · split at h
      · cases h
      · cases h
        exact ⟨rfl, by simpa using hmatches⟩

/-- Revalidation works on the side and returns the binding its slot holds, or fails to
measure. -/
theorem revalidatedQualifiedBinding_cases (host : Host) (key : ConsumerKey)
    (state : ConsumerState) (atMs : Nat) (cycle : Cycle) :
    (∃ binding next, revalidatedQualifiedBinding host key state atMs cycle = .ok binding next ∧
      Aside key cycle.board next.board ∧
      ∀ generation ∈ binding, next.Binds key state.context generation) ∨
    ∃ error, revalidatedQualifiedBinding host key state atMs cycle =
        .error (.error ⟨error.code, error.detail⟩) cycle ∧
      activeRuntimeMeasurements host cycle.config state.registration = .error error := by
  unfold revalidatedQualifiedBinding
  simp only [Program.get_bind_apply]
  cases hmeasured : activeRuntimeMeasurements host cycle.config state.registration with
  | error error => exact .inr ⟨error, rfl, rfl⟩
  | ok observed =>
    left
    dsimp only
    cases hslot : cycle.qualifiedBindings[key]? with
    | none => exact ⟨none, cycle, rfl, .refl _, by simp⟩
    | some slot =>
      dsimp only
      split
      · exact ⟨none, cycle, rfl, .refl _, by simp⟩
      · rename_i hstate
        cases haccepted : slot.accepted with
        | none => exact ⟨none, cycle, rfl, .refl _, by simp⟩
        | some accepted =>
          simp only [Program.modify_bind_apply]
          cases hchecked : checkAccepted host key state.context observed cycle.probes
              accepted with
          | ok binding =>
            obtain ⟨hbinding, hmatches⟩ := checkAccepted_eq_ok hchecked
            refine ⟨_, _, rfl, .refl _, fun generation hgeneration => ?_⟩
            obtain rfl : binding = generation := by simpa using hgeneration
            exact ⟨slot, accepted, hslot, not_not.mp hstate, haccepted, hbinding, hmatches⟩
          | error invalidation =>
            exact ⟨none, _, rfl, (Cycle.aside_cancelSchedule
              { cycle with probes := cycle.probes + 1 } key).trans
                (Cycle.aside_invalidateBinding host key atMs invalidation _), by simp⟩

/-! ## Certificates -/

section Certificate

variable (platform : Platform) (core : RuntimeCore) (key : ConsumerKey) (state : ConsumerState)
  (evaluation : EvaluationOutput) (atMs : Nat) (binding : Option QualifiedGenerationBindingV1)

@[simp] theorem supportCertificate_judgment :
    (core.supportCertificate platform key state evaluation atMs binding).judgment =
      certifiedJudgment evaluation binding := rfl

@[simp] theorem supportCertificate_context :
    (core.supportCertificate platform key state evaluation atMs binding).context =
      state.context := rfl

theorem supportCertificate_deadline :
    (core.supportCertificate platform key state evaluation atMs
        binding).earliestSupportExpiryMonotonicMs =
      if certifiedJudgment evaluation binding = .current then
        evaluation.judgment.positiveSupportExpiresAtMonotonicMs
      else none := rfl

end Certificate

namespace Cycle

variable (host : Host) (key : ConsumerKey)

theorem schedule_board (activationId : ContextActivationId) (deadline : Option Nat)
    (cycle : Cycle) :
    (cycle.schedule key activationId deadline).board =
      { cycle.board with
        schedules := deadline.elim cycle.schedules fun deadline =>
          cycle.schedules.insert ⟨deadline, key.subject, key.consumer, activationId⟩ } := by
  cases deadline <;> rfl

theorem storeCertificate_board (state : ConsumerState)
    (certificate : RelianceSupportCertificateV1) (atMs : Nat) (cycle : Cycle) :
    ∃ full, (cycle.storeCertificate host key state certificate atMs).board =
      { cycle.board.exhaust full with
        schedules := certificate.earliestSupportExpiryMonotonicMs.elim cycle.schedules
          fun deadline => cycle.schedules.insert
            ⟨deadline, key.subject, key.consumer, state.context.activationId⟩
        consumers := cycle.board.consumers.insert key
          { state with certificate := some certificate } } := by
  have hscheduled := schedule_board key state.context.activationId
    certificate.earliestSupportExpiryMonotonicMs cycle
  unfold storeCertificate
  dsimp only
  generalize cycle.schedule key state.context.activationId
    certificate.earliestSupportExpiryMonotonicMs = scheduled at *
  have hput : (scheduled.putConsumer key { state with certificate := some certificate }).board =
      { scheduled.board with
        consumers := scheduled.board.consumers.insert key
          { state with certificate := some certificate } } := rfl
  rw [measure_board, trace_board]
  split
  · refine ⟨false, ?_⟩
    show (scheduled.putConsumer key { state with certificate := some certificate }).board = _
    rw [hput, hscheduled]
    rfl
  · rw [recordSparse_board]
    refine ⟨(scheduled.putConsumer key
      { state with certificate := some certificate }).historyFull, ?_⟩
    show (scheduled.putConsumer key
      { state with certificate := some certificate }).board.exhaust _ = _
    rw [hput, hscheduled]
    rfl

theorem withholdCertificate_board (state : ConsumerState) (atMs : Nat) (cycle : Cycle) :
    ∃ full, (cycle.withholdCertificate host key state atMs).board =
      { cycle.board.exhaust full with
        consumers := cycle.board.consumers.insert key { state with certificate := none } } := by
  obtain ⟨full, h⟩ := (cycle.putConsumer key { state with certificate := none }).noted_pushRefusal
    host
    { refusalClass := .certificateCapacity
      atMs := atMs
      subject := some key.subject
      consumer := some key.consumer
      configuredBound := cycle.config.bounds.maximumSupportingEvidenceRefs
      observedCount := max (state.evidenceIds atMs).length state.contradictionIds.length
      detail := "support certificate references exceed their exact bound; no positive certificate was issued" }
  exact ⟨full, h⟩

end Cycle

/-! ## Applying -/

namespace Settled

variable {key : ConsumerKey} {evaluation : EvaluationOutput} {entry mid last : Board}

theorem aside (settled : Settled key evaluation entry mid) (aside : Aside key mid last) :
    Settled key evaluation entry last where
  toFrame := settled.toFrame.trans aside.toFrame
  trail := aside.trail.trans settled.trail
  others other h := by rw [aside.consumers, settled.others other h]
  schedules schedule h := (aside.schedules schedule h).trans (settled.schedules schedule h)
  requestOwners := aside.requestOwners.trans settled.requestOwners
  qualifiedBindings other h :=
    (aside.qualifiedBindings other h).trans (settled.qualifiedBindings other h)

/-- Putting the consumer in place keeps what was settled. -/
theorem put (settled : Settled key evaluation entry mid) {full : Bool}
    {deadlines : ExtTreeSet ScheduleKey} {state : ConsumerState}
    (kept : ∀ schedule : ScheduleKey, schedule.owner ≠ key →
      (schedule ∈ deadlines ↔ schedule ∈ mid.schedules)) :
    Settled key evaluation entry
      { mid.exhaust full with
        schedules := deadlines
        consumers := mid.consumers.insert key state } where
  config := settled.config
  receiver := settled.receiver
  subjects := settled.subjects
  remoteObservationCustody := settled.remoteObservationCustody
  pending := settled.pending
  historicalContradictions := settled.historicalContradictions
  currentMonotonicMs := settled.currentMonotonicMs
  ingressCounter := settled.ingressCounter
  historyBlindnessLatched := settled.historyBlindnessLatched
  exhausted h := by simp [Board.exhaust, settled.exhausted h]
  trail := settled.trail
  others other h := by
    rw [← settled.others other h]
    simp [getElem?_insert_iff, h.symm]
  schedules schedule h := (kept schedule h).trans (settled.schedules schedule h)
  requestOwners := settled.requestOwners
  qualifiedBindings := settled.qualifiedBindings

end Settled

/-- The state `apply_evaluation` works on once the consumer is taken out. -/
def Cycle.withdrawn (host : Host) (key : ConsumerKey) (evaluation : EvaluationOutput)
    (atMs : Nat) (cycle : Cycle) : Cycle :=
  (cycle.settleEvaluation host key evaluation atMs).removeConsumer key

section Withdrawn

variable (host : Host) (key : ConsumerKey) (evaluation : EvaluationOutput) (atMs : Nat)
  (cycle : Cycle)

theorem settled_withdrawn :
    Settled key evaluation cycle.board (cycle.withdrawn host key evaluation atMs).board := by
  obtain ⟨full, hboard⟩ := cycle.settleEvaluation_board host key evaluation atMs
  have hwithdrawn : (cycle.withdrawn host key evaluation atMs).board =
      { (cycle.settleEvaluation host key evaluation atMs).board with
        consumers :=
          (cycle.settleEvaluation host key evaluation atMs).board.consumers.erase key } := rfl
  rw [hwithdrawn, hboard]
  constructor
  · constructor <;> try rfl
    intro h
    simp_all [Board.exhaust]
  · rfl
  · intro other h
    simp [getElem?_erase_iff, h.symm, Board.exhaust]
  · intro schedule h
    simp [h]
  · rfl
  · intro other _
    rfl

theorem withdrawn_consumers :
    (cycle.withdrawn host key evaluation atMs).consumers[key]? = none := by
  simp [Cycle.withdrawn, Cycle.removeConsumer]

theorem withdrawn_clear :
    ∀ schedule ∈ (cycle.withdrawn host key evaluation atMs).schedules, schedule.owner ≠ key := by
  obtain ⟨full, hboard⟩ := cycle.settleEvaluation_board host key evaluation atMs
  have hschedules : (cycle.withdrawn host key evaluation atMs).schedules =
      cycle.schedules.filter fun schedule => decide (schedule.owner ≠ key) :=
    congrArg (fun board : Board => board.schedules) hboard
  intro schedule h
  rw [hschedules, mem_filter_iff] at h
  simpa using h.2

end Withdrawn

/-- Only a CURRENT evaluation is certified CURRENT. -/
theorem category_of_certified {evaluation : EvaluationOutput}
    {binding : Option QualifiedGenerationBindingV1}
    (h : certifiedJudgment evaluation binding = .current) :
    evaluation.judgment.category = .current := by
  unfold certifiedJudgment at h
  split at h
  · cases h
  · exact h

theorem qualifiedGeneration_cases (host : Host) (key : ConsumerKey) (state : ConsumerState)
    (evaluation : EvaluationOutput) (atMs : Nat) (cycle : Cycle) :
    (∃ binding next, qualifiedGeneration host key state evaluation atMs cycle =
        .ok binding next ∧
      Aside key cycle.board next.board ∧ (evaluation.judgment.category = .current →
        ∀ generation ∈ binding, next.Binds key state.context generation)) ∨
    ∃ error, qualifiedGeneration host key state evaluation atMs cycle =
        .error (.error ⟨error.code, error.detail⟩) cycle ∧
      evaluation.judgment.category = .current ∧
      activeRuntimeMeasurements host cycle.config state.registration = .error error := by
  unfold qualifiedGeneration
  by_cases hcurrent : evaluation.judgment.category = .current
  · rw [if_pos hcurrent]
    rcases revalidatedQualifiedBinding_cases host key state atMs cycle with
      ⟨binding, next, h, haside, hbinds⟩ | ⟨error, h, hm⟩
    · exact .inl ⟨binding, next, h, haside, fun _ => hbinds⟩
    · exact .inr ⟨error, h, hcurrent, hm⟩
  · rw [if_neg hcurrent]
    exact .inl ⟨_, cycle, rfl, .refl _, fun h => absurd h hcurrent⟩

/-- The deadlines after one may have been scheduled. -/
theorem mem_scheduled (deadlines : ExtTreeSet ScheduleKey) (key : ConsumerKey)
    (activationId : ContextActivationId) (deadline : Option Nat) (schedule : ScheduleKey) :
    (schedule ∈ deadline.elim deadlines fun deadline =>
        deadlines.insert ⟨deadline, key.subject, key.consumer, activationId⟩) ↔
      schedule ∈ deadlines ∨ schedule.owner = key ∧
        deadline = some schedule.deadlineMonotonicMs ∧ schedule.activationId = activationId := by
  obtain ⟨due, subject, consumer, activation⟩ := schedule
  cases deadline with
  | none => simp
  | some deadline =>
    cases key
    simp only [Option.elim_some, ExtTreeSet.mem_insert, Std.LawfulEqCmp.compare_eq_iff_eq,
      ScheduleKey.owner, ScheduleKey.mk.injEq, ConsumerKey.mk.injEq, Option.some.injEq]
    tauto

section Issue

variable (host : Host) (key : ConsumerKey) (state : ConsumerState)
  (evaluation : EvaluationOutput) (atMs : Nat)

variable {cycle : Cycle}

/-- Issuing from a board where the consumer is out and has no deadline ends in one of the
outcomes. -/
theorem issueCertificate_cases {entry : Board} (settled : Settled key evaluation entry cycle.board)
    (gone : cycle.consumers[key]? = none)
    (clear : ∀ schedule ∈ cycle.schedules, schedule.owner ≠ key) :
    (∃ next, issueCertificate host key state evaluation atMs cycle = .ok () next ∧
      Applied host key state evaluation atMs entry next.board) ∨
    ∃ error next, issueCertificate host key state evaluation atMs cycle =
        .error (.error error) next ∧
      Applied host key state evaluation atMs entry next.board := by
  unfold issueCertificate
  rw [Program.bind_apply]
  rcases qualifiedGeneration_cases host key state evaluation atMs cycle with
    ⟨binding, mid, hrun, haside, hbinds⟩ | ⟨error, hrun, hcurrent, hmeasured⟩
  · simp only [hrun, Program.get_bind_apply]
    have hmid := settled.aside haside
    have hground : SameGround entry.toRuntimeCore mid.toRuntimeCore :=
      ⟨hmid.config, hmid.remoteObservationCustody⟩
    have hclear : ∀ schedule ∈ mid.schedules, schedule.owner ≠ key :=
      fun schedule h => clear schedule (haside.shrinks schedule h)
    cases hvalid : (mid.supportCertificate host.toPlatform key state evaluation atMs
        binding).validate host.toPlatform with
    | error error =>
      refine .inr ⟨_, mid, rfl, hmid, .invalid mid.toRuntimeCore binding error hground hvalid ?_
        hclear⟩
      rw [haside.consumers]
      exact gone
    | ok =>
      left
      obtain ⟨full, hstored⟩ := Cycle.storeCertificate_board host key state
        (mid.supportCertificate host.toPlatform key state evaluation atMs binding) atMs mid
      refine ⟨_, rfl, ?_⟩
      simp only [hstored]
      have hmem := mem_scheduled mid.schedules key state.context.activationId
        (mid.supportCertificate host.toPlatform key state evaluation atMs
          binding).earliestSupportExpiryMonotonicMs
      refine ⟨hmid.put fun schedule h => ?_, .issued mid.toRuntimeCore binding hground hvalid ?_
        (fun schedule h => ?_) fun hcertified => ?_⟩
      · simp [hmem, h]
      · simp
      · have habsent : schedule ∉ mid.schedules := fun hin => hclear schedule hin h
        simp [hmem, h, habsent]
      · exact hbinds (category_of_certified hcertified)
  · simp only [hrun]
    refine .inr ⟨_, cycle, rfl, settled, .unmeasured error hcurrent ?_ gone clear⟩
    rw [← settled.config]
    exact hmeasured

theorem applyEvaluation_eq (found : cycle.consumers[key]? = some state) :
    applyEvaluation host key evaluation atMs cycle =
      (if (cycle.withdrawn host key evaluation atMs).overCertificateBound state atMs then
        modify (Cycle.withholdCertificate host key state atMs)
      else issueCertificate host key state evaluation atMs)
        (cycle.withdrawn host key evaluation atMs) := by
  obtain ⟨full, hboard⟩ := cycle.settleEvaluation_board host key evaluation atMs
  have hfound : (cycle.settleEvaluation host key evaluation atMs).consumers[key]? = some state := by
    rw [← found]
    exact congrArg (fun board : Board => board.consumers[key]?) hboard
  unfold applyEvaluation
  simp only [Program.modify_bind_apply, Program.get_bind_apply, hfound]
  rfl

/-- Applying an evaluation to a consumer that is in place ends in one of the outcomes. -/
theorem applyEvaluation_cases (found : cycle.consumers[key]? = some state) :
    (∃ next, applyEvaluation host key evaluation atMs cycle = .ok () next ∧
      Applied host key state evaluation atMs cycle.board next.board) ∨
    ∃ error next, applyEvaluation host key evaluation atMs cycle = .error (.error error) next ∧
      Applied host key state evaluation atMs cycle.board next.board := by
  rw [applyEvaluation_eq host key state evaluation atMs found]
  have hsettled := settled_withdrawn host key evaluation atMs cycle
  have hgone := withdrawn_consumers host key evaluation atMs cycle
  have hclear := withdrawn_clear host key evaluation atMs cycle
  generalize cycle.withdrawn host key evaluation atMs = out at *
  by_cases hover : out.overCertificateBound state atMs = true
  · left
    rw [if_pos hover]
    obtain ⟨full, hboard⟩ := out.withholdCertificate_board host key state atMs
    refine ⟨_, rfl, ?_⟩
    rw [hboard]
    exact ⟨hsettled.put fun schedule _ => Iff.rfl, .withheld (by simp) hclear⟩
  · rw [if_neg hover]
    exact issueCertificate_cases host key state evaluation atMs hsettled hgone hclear

end Issue

/-! ## Visiting -/

/-- What the work around an evaluator operation may be: on the side, and an update that
keeps certificate and evaluator.  An early exit may only come from a failed measurement. -/
structure Around.Discreet (host : Host) (key : ConsumerKey) (state : ConsumerState)
    (around : Around) : Prop where
  before : ∀ cycle : Cycle,
    (∃ next, around.before cycle = .ok () next ∧ Aside key cycle.board next.board) ∨
    ∃ error refused, around.before cycle = .error (.error error) cycle ∧
      activeRuntimeMeasurements host cycle.config state.registration = .error refused
  certificate : (around.update state).certificate = state.certificate
  after : ∀ cycle : Cycle, Aside key cycle.board (around.after cycle).board

/-- The plain visit is discreet, with any work on the side after it. -/
theorem discreet_after (host : Host) (key : ConsumerKey) (state : ConsumerState)
    {after : Cycle → Cycle} (h : ∀ cycle : Cycle, Aside key cycle.board (after cycle).board) :
    ({ after := after } : Around).Discreet host key state where
  before cycle := .inl ⟨cycle, rfl, .refl _⟩
  certificate := rfl
  after := h

/-- An outcome only looks at the ground its certificates are drafted from. -/
theorem Outcome.of_sameGround {evaluation : EvaluationOutput} {atMs : Nat} {last : Board}
    (same : SameGround core entry) (outcome : Outcome host key entry state evaluation atMs last) :
    Outcome host key core state evaluation atMs last := by
  have htrans : ∀ ground, SameGround entry ground → SameGround core ground := fun ground h =>
    ⟨h.config.trans same.config,
      h.remoteObservationCustody.trans same.remoteObservationCustody⟩
  cases outcome with
  | withheld stored clear => exact .withheld stored clear
  | issued ground binding h valid stored scheduled bound =>
    exact .issued ground binding (htrans ground h) valid stored scheduled bound
  | unmeasured error current refused gone clear =>
    exact .unmeasured error current (same.config ▸ refused) gone clear
  | invalid ground binding error h refused gone clear =>
    exact .invalid ground binding error (htrans ground h) refused gone clear

/-- The dispatch decision only looks at the certificate, the owners and the bounds. -/
theorem RuntimeCore.dispatch_congr {updated : ConsumerState} (evaluation : EvaluationOutput)
    (found : core.consumers[key]? = some state) (entered : entry.consumers[key]? = some updated)
    (certificate : updated.certificate = state.certificate)
    (owners : entry.requestOwners = core.requestOwners) (config : entry.config = core.config) :
    entry.dispatch key evaluation = core.dispatch key evaluation := by
  have hcurrent : entry.holdsCurrent key = core.holdsCurrent key := by
    simp [RuntimeCore.holdsCurrent, found, entered, ConsumerState.holdsCurrent, certificate]
  simp only [RuntimeCore.dispatch, hcurrent, owners, config]

theorem RuntimeCore.ownersAfter_congr (key : ConsumerKey) (dispatch : Dispatch)
    (owners : entry.requestOwners = core.requestOwners) :
    entry.ownersAfter key dispatch = core.ownersAfter key dispatch := by
  cases dispatch <;> simp [RuntimeCore.ownersAfter, owners]

section Visit

variable {host : Host} {request : Visit} {state : ConsumerState} {around : Around}
  {cycle : Cycle}

/-- The board on which the evaluation of a visit is applied, against the one the visit
began on. -/
structure Entered (request : Visit) (updated : ConsumerState) (before entry : Board) : Prop
    extends Frame before entry where
  trail : entry.trail = .visit before.toRuntimeCore request :: before.trail
  stored : entry.consumers[request.key]? = some updated
  others : ∀ other, other ≠ request.key → entry.consumers[other]? = before.consumers[other]?
  schedules : ∀ schedule : ScheduleKey, schedule.owner ≠ request.key →
    (schedule ∈ entry.schedules ↔ schedule ∈ before.schedules)
  requestOwners : entry.requestOwners = before.requestOwners
  qualifiedBindings : ∀ other, other ≠ request.key →
    entry.qualifiedBindings[other]? = before.qualifiedBindings[other]?

theorem entered_after {updated : ConsumerState} {before : Board} {mid last : Cycle}
    (lead : Aside request.key (before.takenOut request) mid.board)
    (rest : Aside request.key (mid.putConsumer request.key updated).board last.board) :
    Entered request updated before last.board := by
  have hput : Frame mid.board (mid.putConsumer request.key updated).board := {}
  have hout : Frame before (before.takenOut request) := {}
  refine
    { toFrame := ((hout.trans lead.toFrame).trans hput).trans rest.toFrame
      trail := rest.trail.trans lead.trail
      stored := ?_
      others := fun other h => ?_
      schedules := fun schedule h =>
        (rest.schedules schedule h).trans (lead.schedules schedule h)
      requestOwners := rest.requestOwners.trans lead.requestOwners
      qualifiedBindings := fun other h =>
        (rest.qualifiedBindings other h).trans (lead.qualifiedBindings other h) }
  · rw [rest.consumers]
    simp [Cycle.putConsumer]
  · have hmid : mid.consumers[other]? = (before.takenOut request).consumers[other]? :=
      congrArg (fun consumers => consumers[other]?) lead.consumers
    rw [rest.consumers]
    simp [Cycle.putConsumer, getElem?_insert_iff, h.symm, hmid, Board.takenOut,
      getElem?_erase_iff]

/-- Applying the evaluation completes the visit. -/
def Entered.visited {updated : ConsumerState} {before entry last : Board}
    {evaluation : EvaluationOutput} {evaluator : Evaluator}
    (entered : Entered request { updated with evaluator := evaluator } before entry)
    (found : before.consumers[request.key]? = some state)
    (lawful : request.Lawful host before)
    (timely : before.currentMonotonicMs ≤ request.appliedAtMs)
    (performed : state.evaluator.perform host.toPlatform request.call request.atMs =
      .ok (evaluation, evaluator))
    (certificate : updated.certificate = state.certificate)
    (applied : Applied host request.key { updated with evaluator := evaluator } evaluation
      request.appliedAtMs entry last) :
    Visited host request before last where
  before := before
  lead := .refl _
  state := state
  found := found
  lawful := lawful
  timely := timely
  evaluation := evaluation
  evaluator := evaluator
  performed := performed
  updated := { updated with evaluator := evaluator }
  updated_evaluator := rfl
  updated_certificate := certificate
  frame := entered.toFrame.trans applied.toFrame
  trail := applied.trail.trans entered.trail
  others other h := (applied.others other h).trans (entered.others other h)
  schedules schedule h := (applied.schedules schedule h).trans (entered.schedules schedule h)
  requestOwners := by
    rw [applied.requestOwners, RuntimeCore.ownersAfter_congr _ _ entered.requestOwners,
      RuntimeCore.dispatch_congr evaluation found entered.stored certificate
        entered.requestOwners entered.config]
  qualifiedBindings other h :=
    (applied.qualifiedBindings other h).trans (entered.qualifiedBindings other h)
  outcome := applied.outcome.of_sameGround ⟨entered.config, entered.remoteObservationCustody⟩

/-- A visit whose evaluator operation succeeds is made, whether or not its evaluation can
be applied. -/
theorem visit_performed (discreet : around.Discreet host request.key state)
    (found : cycle.consumers[request.key]? = some state)
    (lawful : request.Lawful host cycle.board)
    (timely : cycle.currentMonotonicMs ≤ request.appliedAtMs) {mid : Cycle}
    (before : around.before ((cycle.mark (.visit · request)).removeConsumer request.key) =
      .ok () mid)
    (aside : Aside request.key (cycle.board.takenOut request) mid.board)
    {evaluation : EvaluationOutput} {evaluator : Evaluator}
    (performed : state.evaluator.perform host.toPlatform request.call request.atMs =
      .ok (evaluation, evaluator)) :
    (∃ next, visit host request state around cycle = .ok () next ∧
      Nonempty (Visited host request cycle.board next.board)) ∨
    ∃ error next, visit host request state around cycle = .error (.error error) next ∧
      Nonempty (Visited host request cycle.board next.board) := by
  unfold visit
  simp only [Program.modify_bind_apply]
  rw [Program.bind_apply, before]
  simp only [performed, Program.modify_bind_apply]
  have hentered := entered_after aside
    (discreet.after (mid.putConsumer request.key
      { around.update state with evaluator := evaluator }))
  rcases applyEvaluation_cases host request.key _ evaluation request.appliedAtMs
    hentered.stored with ⟨next, hrun, happlied⟩ | ⟨error, next, hrun, happlied⟩
  · exact .inl ⟨next, hrun, ⟨hentered.visited found lawful timely performed
      discreet.certificate happlied⟩⟩
  · exact .inr ⟨error, next, hrun, ⟨hentered.visited found lawful timely performed
      discreet.certificate happlied⟩⟩

/-- A visit is made, ends in an error after it was made, or loses the consumer. -/
theorem visit_cases (discreet : around.Discreet host request.key state)
    (found : cycle.consumers[request.key]? = some state)
    (lawful : request.Lawful host cycle.board)
    (timely : cycle.currentMonotonicMs ≤ request.appliedAtMs) :
    (∃ next, visit host request state around cycle = .ok () next ∧
      Nonempty (Visited host request cycle.board next.board)) ∨
    (∃ error next, visit host request state around cycle = .error (.error error) next ∧
      Nonempty (Visited host request cycle.board next.board)) ∨
    ∃ error next, visit host request state around cycle = .error (.error error) next ∧
      Nonempty (Loss host request cycle.board next.board) := by
  rcases discreet.before ((cycle.mark (.visit · request)).removeConsumer request.key) with
    ⟨mid, hbefore, haside⟩ | ⟨error, refused, hbefore, hmeasured⟩
  · cases hperformed : state.evaluator.perform host.toPlatform request.call request.atMs with
    | error error =>
      refine .inr (.inr ⟨.fromEvaluator error, mid, ?_,
        ⟨⟨cycle.board, .refl _, state, found, lawful, timely⟩, haside,
          .inl ⟨error, hperformed⟩⟩⟩)
      simp [visit, Program.bind_apply, hbefore, hperformed]
    | ok result =>
      rcases visit_performed discreet found lawful timely hbefore haside hperformed with h | h
      · exact .inl h
      · exact .inr (.inl h)
  · refine .inr (.inr ⟨error, (cycle.mark (.visit · request)).removeConsumer request.key, ?_,
      ⟨⟨cycle.board, .refl _, state, found, lawful, timely⟩,
        .refl (cycle.board.takenOut request), .inr ⟨refused, hmeasured⟩⟩⟩)
    simp [visit, Program.bind_apply, hbefore]

/-- A visit that returned well was made. -/
theorem visited_of_ok {next : Cycle}
    (hrun : visit host request state around cycle = .ok () next)
    (discreet : around.Discreet host request.key state)
    (found : cycle.consumers[request.key]? = some state)
    (lawful : request.Lawful host cycle.board)
    (timely : cycle.currentMonotonicMs ≤ request.appliedAtMs) :
    Nonempty (Visited host request cycle.board next.board) := by
  rcases visit_cases discreet found lawful timely with
    ⟨last, hlast, hvisited⟩ | ⟨error, last, hlast, _⟩ | ⟨error, last, hlast, _⟩
  · obtain rfl : last = next := by simpa [hlast] using hrun
    exact hvisited
  · simp [hlast] at hrun
  · simp [hlast] at hrun

end Visit

/-! ## A visit seen from its start -/

namespace Visited

variable {host : Host} {visit : Visit} {start last : Board}

theorem found_start (visited : Visited host visit start last) :
    start.consumers[visit.key]? = some visited.state := by
  rw [← visited.lead.consumers]
  exact visited.found

theorem frame_start (visited : Visited host visit start last) : Frame start last :=
  visited.lead.toFrame.trans visited.frame

theorem others_start (visited : Visited host visit start last) {other : ConsumerKey}
    (h : other ≠ visit.key) : last.consumers[other]? = start.consumers[other]? := by
  rw [visited.others other h, visited.lead.consumers]

theorem schedules_start (visited : Visited host visit start last) {schedule : ScheduleKey}
    (h : schedule.owner ≠ visit.key) : schedule ∈ last.schedules ↔ schedule ∈ start.schedules :=
  (visited.schedules schedule h).trans (visited.lead.schedules schedule h)

theorem qualifiedBindings_start (visited : Visited host visit start last) {other : ConsumerKey}
    (h : other ≠ visit.key) :
    last.qualifiedBindings[other]? = start.qualifiedBindings[other]? :=
  (visited.qualifiedBindings other h).trans (visited.lead.qualifiedBindings other h)

theorem trail_start (visited : Visited host visit start last) :
    last.trail = .visit visited.before.toRuntimeCore visit :: start.trail := by
  rw [visited.trail, visited.lead.trail]

/-- Work on the side can be counted into the visit that follows it. -/
def precede {first : Board} (lead : Aside visit.key first start)
    (visited : Visited host visit start last) : Visited host visit first last :=
  { visited with lead := lead.trans visited.lead }

end Visited

/-- Work on the side can be counted into the loss that follows it. -/
def Loss.precede {host : Host} {visit : Visit} {first start last : Board}
    (lead : Aside visit.key first start) (lost : Loss host visit start last) :
    Loss host visit first last :=
  { lost with lead := lead.trans lost.lead }

namespace Visited

variable {host : Host} {visit : Visit} {start last : Board}

/-- A visit whose evaluation is not CURRENT leaves no CURRENT certificate and no
deadline. -/
theorem withdraws (visited : Visited host visit start last)
    (h : visited.evaluation.judgment.category ≠ .current) :
    (∀ state, last.consumers[visit.key]? = some state →
      state.evaluator = visited.evaluator ∧ state.holdsCurrent = false) ∧
    ∀ schedule ∈ last.schedules, schedule.owner ≠ visit.key := by
  have hjudgment : ∀ binding, certifiedJudgment visited.evaluation binding ≠ .current := by
    intro binding
    unfold certifiedJudgment
    split
    · simp
    · exact h
  cases visited.outcome with
  | withheld stored clear =>
    refine ⟨fun state hstate => ?_, clear⟩
    obtain rfl := Option.some.inj (stored.symm.trans hstate)
    exact ⟨visited.updated_evaluator, rfl⟩
  | issued ground binding same valid stored scheduled bound =>
    refine ⟨fun state hstate => ?_, fun schedule hin howner => ?_⟩
    · obtain rfl := Option.some.inj (stored.symm.trans hstate)
      refine ⟨visited.updated_evaluator, ?_⟩
      simp [ConsumerState.holdsCurrent, hjudgment binding]
    · obtain ⟨hdeadline, -⟩ := (scheduled schedule howner).mp hin
      rw [supportCertificate_deadline, if_neg (hjudgment binding)] at hdeadline
      cases hdeadline
  | unmeasured error current refused gone clear =>
    exact ⟨fun state hstate => by simp [gone] at hstate, clear⟩
  | invalid ground binding error same refused gone clear =>
    exact ⟨fun state hstate => by simp [gone] at hstate, clear⟩

end Visited

/-! ## Latching -/

/-- Some consumer of a list was visited. -/
def VisitsIn (host : Host) (keys : List ConsumerKey) (before after : Board) : Prop :=
  ∃ visit, visit.key ∈ keys ∧ Nonempty (Visited host visit before after)

/-- The consumers of a list were latched blind one after another. -/
structure Latches (host : Host) (keys : List ConsumerKey) (start last : Board) : Prop where
  visitsIn : ReflTransGen (VisitsIn host keys) start last
  latched : ∀ key ∈ keys, ∀ state : ConsumerState, last.consumers[key]? = some state →
    state.Latched
  others : ∀ key, key ∉ keys → last.consumers[key]? = start.consumers[key]?
  absent : ∀ key : ConsumerKey, start.consumers[key]? = none → last.consumers[key]? = none
  schedules : ∀ schedule : ScheduleKey, schedule ∈ last.schedules ↔
    schedule ∈ start.schedules ∧
      (schedule.owner ∈ keys → start.consumers[schedule.owner]? = none)

namespace Latches

variable {host : Host} {key : ConsumerKey} {keys : List ConsumerKey} {first second third : Board}

theorem visits (latches : Latches host keys first second) :
    ReflTransGen (Visits host) first second :=
  ReflTransGen.mono (fun _ _ ⟨visit, _, visited⟩ => ⟨visit, visited⟩) _ _ latches.visitsIn

theorem nil (board : Board) : Latches host [] board board where
  visitsIn := .refl
  latched := by simp
  others _ _ := rfl
  absent _ h := h
  schedules := by simp

theorem cons (head : Latches host [key] first second) (rest : Latches host keys second third) :
    Latches host (key :: keys) first third where
  visitsIn := by
    refine (ReflTransGen.mono ?_ _ _ head.visitsIn).trans (ReflTransGen.mono ?_ _ _ rest.visitsIn)
    · rintro before after ⟨visit, hkey, visited⟩
      exact ⟨visit, by simp [List.mem_singleton.mp hkey], visited⟩
    · rintro before after ⟨visit, hkey, visited⟩
      exact ⟨visit, List.mem_cons_of_mem key hkey, visited⟩
  latched := by
    intro other hother state hstate
    by_cases hrest : other ∈ keys
    · exact rest.latched other hrest state hstate
    · rw [rest.others other hrest] at hstate
      exact head.latched other (by simpa [hrest] using hother) state hstate
  others other hother := by
    rw [List.mem_cons, not_or] at hother
    rw [rest.others other hother.2, head.others other (by simpa using hother.1)]
  absent other h := rest.absent other (head.absent other h)
  schedules schedule := by
    rw [rest.schedules, head.schedules]
    by_cases howner : schedule.owner = key
    · have habsent := head.absent key
      simp only [howner, List.mem_cons, true_or, forall_const]
      tauto
    · have hother : second.consumers[schedule.owner]? = first.consumers[schedule.owner]? :=
        head.others _ (by simpa using howner)
      simp [howner, hother]

end Latches

/-- A visit that reports a dropped input latches its consumer. -/
theorem Visited.latches {visit : Visit} {start last : Board}
    (visited : Visited host visit start last) {count : Nat} {detail : Text}
    (drop : visit.call = .inputDrop count detail) : Latches host [visit.key] start last := by
  have hblind := Evaluator.perform_blind visited.performed
    (by rw [drop]; exact Evaluator.blind_prepare_inputDrop _ _ _ _ _)
  obtain ⟨hstate, hclear⟩ := visited.withdraws hblind.2
  refine
    { visitsIn := .single ⟨visit, by simp, ⟨visited⟩⟩
      latched := fun key hkey state hfound => ?_
      others := fun key hkey => visited.others_start (by simpa using hkey)
      absent := fun key habsent => ?_
      schedules := fun schedule => ?_ }
  · obtain rfl : key = visit.key := by simpa using hkey
    obtain ⟨hevaluator, hwithdrawn⟩ := hstate state hfound
    exact ⟨hevaluator ▸ hblind.1, hwithdrawn⟩
  · have hne : key ≠ visit.key := fun heq => by
      rw [heq, visited.found_start] at habsent
      cases habsent
    rw [visited.others_start hne, habsent]
  · by_cases howner : schedule.owner = visit.key
    · have hout : schedule ∉ last.schedules := fun hin => hclear schedule hin howner
      simp [hout, howner, visited.found_start]
    · simp [howner, visited.schedules_start howner]

section Latch

variable (host : Host)

/-- Latching one consumer visits it, whatever becomes of its certificate. -/
theorem latches_latchBlindConsumer (atMs : Nat) (detail : Text) (key : ConsumerKey)
    (cycle : Cycle) :
    Latches host [key] cycle.board (cycle.latchBlindConsumer host atMs detail key).board := by
  unfold Cycle.latchBlindConsumer
  cases hfound : cycle.consumers[key]? with
  | none =>
    exact
      { visitsIn := .refl
        latched := fun other hother state hstate => by
          obtain rfl : other = key := by simpa using hother
          rw [Cycle.board_toRuntimeCore, hfound] at hstate
          cases hstate
        others := fun _ _ => rfl
        absent := fun _ h => h
        schedules := fun schedule => by
          simp only [Cycle.board_toRuntimeCore, List.mem_singleton, iff_self_and]
          rintro - rfl
          exact hfound }
  | some state =>
    -- the result is put back or dropped with its output; the board is the same
    rcases @visit_performed host
      ⟨key, .inputDrop 1 detail, atMs, max atMs cycle.currentMonotonicMs, none⟩ state {}
      { cycle with output := {} } (discreet_after host key state fun _ => .refl _) hfound
      trivial (le_max_right atMs cycle.currentMonotonicMs) _ rfl (.refl _) _ _ rfl with
      ⟨next, hrun, ⟨visited⟩⟩ | ⟨error, next, hrun, ⟨visited⟩⟩
    · dsimp only
      erw [hrun]
      exact visited.latches rfl
    · dsimp only
      erw [hrun]
      exact visited.latches rfl

/-- Latching every consumer of a list. -/
theorem latches_foldl (atMs : Nat) (detail : Text) (keys : List ConsumerKey) (cycle : Cycle) :
    Latches host keys cycle.board
      (keys.foldl (fun cycle key => cycle.latchBlindConsumer host atMs detail key)
        cycle).board := by
  induction keys generalizing cycle with
  | nil => exact .nil _
  | cons key rest ih =>
    exact (latches_latchBlindConsumer host atMs detail key cycle).cons (ih _)

theorem latches_latchBlind (subject : Option SubjectId) (atMs : Nat) (detail : Text)
    (cycle : Cycle) :
    Latches host (cycle.consumerKeys subject) cycle.board
      (cycle.latchBlind host subject atMs detail).board :=
  latches_foldl host atMs detail _ cycle

theorem RuntimeCore.mem_consumerKeys_none (core : RuntimeCore) (key : ConsumerKey) :
    key ∈ core.consumerKeys none ↔ core.consumers[key]?.isSome := by
  simp [RuntimeCore.consumerKeys]

theorem latches_latchBlindAll (atMs : Nat) (detail : Text) (cycle : Cycle) :
    Latches host (cycle.board.consumerKeys none) cycle.board
      (cycle.latchBlindAll host atMs detail).board :=
  latches_latchBlind host none atMs detail cycle

/-- Once every consumer was latched, each one left is. -/
theorem Latches.all {host : Host} {start last : Board}
    (latches : Latches host (start.consumerKeys none) start last) {key : ConsumerKey}
    {state : ConsumerState} (found : last.consumers[key]? = some state) : state.Latched := by
  by_cases hkey : key ∈ start.consumerKeys none
  · exact latches.latched key hkey state found
  · have habsent : start.consumers[key]? = none := by
      simpa [RuntimeCore.mem_consumerKeys_none] using hkey
    rw [latches.absent key habsent] at found
    cases found

end Latch

end ConstellationMonitor.Runtime

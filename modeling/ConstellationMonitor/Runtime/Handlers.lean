/-
  The input handlers follow the transitions of the board.

  Each handler is followed step by step.  The relations `step` and `loss` are variables:
  a handler that only works calmly follows every relation that allows calm work, and the
  three places where more happens (the delivery of a pulse, a subject replacement, the
  latch of an exhausted history) are assumptions of the lemmas above them.  Each reading
  of the runtime then only has to say what it makes of those three.
-/
import ConstellationMonitor.Runtime.Visiting

namespace ConstellationMonitor.Runtime

open Foundation Foundation.Program ConstellationMonitor.Types Evaluation
open Relation (ReflTransGen)

/-- The discipline of steps and losses on the board.  Only the loop runs out of fuel. -/
def discipline (step loss : Board → Board → Prop) : Discipline Stop Cycle Board where
  abs := Cycle.board
  step := step
  loss := loss
  raises stop := stop ≠ .outOfFuel

/-- Relations that allow one consumer to be visited and to be lost. -/
structure Attends (host : Host) (key : ConsumerKey) (step loss : Board → Board → Prop) :
    Prop where
  visits : ∀ before after visit, visit.key = key → Visited host visit before after →
    step before after
  loses : ∀ before after visit, visit.key = key → Loss host visit before after →
    loss before after

/-- Relations that also allow work on the side for the consumer, and leave the clock
alone. -/
structure Serves (host : Host) (key : ConsumerKey) (step loss : Board → Board → Prop) : Prop
    extends Attends host key step loss where
  noted : ∀ before after, Noted before after → step before after
  beside : ∀ before after : Board, before.consumers[key]? = none → Aside key before after →
    step before after
  clock : ∀ before after, step before after →
    after.currentMonotonicMs = before.currentMonotonicMs

namespace Serves

variable {host : Host} {key : ConsumerKey} {step loss : Board → Board → Prop}

/-- The clock stands still over any number of steps. -/
theorem timely (serves : Serves host key step loss) {evaluatedAt : Nat} (before after : Board)
    (h : step before after) (hbefore : before.currentMonotonicMs ≤ evaluatedAt) :
    after.currentMonotonicMs ≤ evaluatedAt := by
  rwa [serves.clock before after h]

/-- Latching the consumer takes steps. -/
theorem latches (serves : Serves host key step loss) {before after : Board}
    (h : Latches host [key] before after) : ReflTransGen step before after := by
  refine ReflTransGen.mono ?_ _ _ h.visitsIn
  rintro first last ⟨visit, hkey, ⟨visited⟩⟩
  exact serves.visits first last visit (List.mem_singleton.mp hkey) visited

end Serves

/-- Relations that allow calm work and the loss of a consumer, and leave the clock
alone. -/
structure Admits (host : Host) (step loss : Board → Board → Prop) : Prop where
  calm : ∀ before after, Calm host before after → step before after
  loses : ∀ before after, Loses host before after → loss before after
  clock : ∀ before after, step before after →
    after.currentMonotonicMs = before.currentMonotonicMs

namespace Admits

variable {host : Host} {step loss : Board → Board → Prop}

theorem noted (admits : Admits host step loss) {before after : Board}
    (h : Noted before after) : ReflTransGen step before after :=
  .single (admits.calm _ _ (.noted h))

theorem serves (admits : Admits host step loss) (key : ConsumerKey) :
    Serves host key step loss where
  noted before after h := admits.calm before after (.noted h)
  beside before after absent aside := admits.calm before after (.beside absent aside)
  visits before after visit _ visited := admits.calm before after (.visited visit visited)
  loses before after visit _ lost := admits.loses before after ⟨visit, ⟨lost⟩⟩
  clock := admits.clock

theorem visit (admits : Admits host step loss) (before after : Board)
    (h : Visits host before after) : step before after := by
  obtain ⟨visit, ⟨visited⟩⟩ := h
  exact admits.calm before after (.visited visit visited)

theorem visits (admits : Admits host step loss) {before after : Board}
    (h : ReflTransGen (Visits host) before after) : ReflTransGen step before after :=
  ReflTransGen.mono admits.visit _ _ h

/-- The clock stands still over any number of steps. -/
theorem timely (admits : Admits host step loss) {evaluatedAt : Nat} (before after : Board)
    (h : step before after) (hbefore : before.currentMonotonicMs ≤ evaluatedAt) :
    after.currentMonotonicMs ≤ evaluatedAt := by
  rwa [admits.clock before after h]

end Admits

/-- Larger relations are followed too. -/
theorem follows_enlarge {α : Type} {step loss step' loss' : Board → Board → Prop}
    {x : RuntimeM α} {cycle : Cycle} (h : Follows (discipline step loss) x cycle)
    (hstep : ∀ before after, step before after → step' before after)
    (hloss : ∀ before after, loss before after → loss' before after) :
    Follows (discipline step' loss') x cycle :=
  FollowsFrom.mono h rfl hstep hloss fun _ => id

section Handlers

variable {host : Host} {step loss : Board → Board → Prop} {cycle : Cycle}

theorem follows_fail {α : Type} (code detail : Text) :
    Follows (discipline step loss) (fail code detail : RuntimeM α) cycle :=
  follows_throw (by simp [discipline])

theorem follows_orFail {α : Type} (result : Except RuntimeError α) :
    Follows (discipline step loss) (orFail result) cycle := by
  cases result with
  | ok value => exact follows_pure value
  | error error => exact follows_throw (by simp [discipline])

/-- A bind whose first program fails before it changes anything. -/
theorem follows_stopped {α β : Type} {x : RuntimeM α} {f : α → RuntimeM β} {error : RuntimeError}
    (hrun : x cycle = .error (.error error) cycle) :
    Follows (discipline step loss) (x >>= f) cycle := by
  have hbind : (x >>= f) cycle = .error (.error error) cycle := by rw [bind_apply, hrun]
  unfold Follows FollowsFrom
  rw [hbind]
  exact ⟨by simp [discipline], _, .refl, .refl⟩

variable {state : ConsumerState} {key : ConsumerKey} {activation : ConsumerActivationV1}
  {evaluatedAt : Nat}

/-- A visit, after work on the side for its consumer, is a step or loses the consumer. -/
theorem followsFrom_visit {request : Visit} (attends : Attends host request.key step loss)
    {around : Around} {start : Board} (lead : Aside request.key start cycle.board)
    (discreet : around.Discreet host request.key state)
    (found : cycle.consumers[request.key]? = some state) (lawful : request.Lawful host cycle.board)
    (timely : cycle.currentMonotonicMs ≤ request.appliedAtMs) :
    FollowsFrom (discipline step loss) start (visit host request state around) cycle := by
  unfold FollowsFrom
  rcases visit_cases discreet found lawful timely with
    ⟨next, hrun, ⟨visited⟩⟩ | ⟨error, next, hrun, ⟨visited⟩⟩ | ⟨error, next, hrun, ⟨lost⟩⟩
  · rw [hrun]
    exact .single (attends.visits _ _ request rfl (visited.precede lead))
  · rw [hrun]
    exact ⟨by simp [discipline], _,
      .single (attends.visits _ _ request rfl (visited.precede lead)), .refl⟩
  · rw [hrun]
    exact ⟨by simp [discipline], start, .refl,
      .single (attends.loses _ _ request rfl (lost.precede lead))⟩

theorem follows_visit {request : Visit} (attends : Attends host request.key step loss)
    {around : Around} (discreet : around.Discreet host request.key state)
    (found : cycle.consumers[request.key]? = some state) (lawful : request.Lawful host cycle.board)
    (timely : cycle.currentMonotonicMs ≤ request.appliedAtMs) :
    Follows (discipline step loss) (visit host request state around) cycle :=
  followsFrom_visit attends (.refl _) discreet found lawful timely

/-! ### Deadlines -/

theorem noted_noteDeadline (schedule : ScheduleKey) (evaluatedAt : Nat) :
    Noted cycle.board (cycle.noteDeadline host schedule evaluatedAt).board :=
  Cycle.noted_recordSparse host (cycle.accountLateness schedule.deadlineMonotonicMs evaluatedAt)
    evaluatedAt _

/-- Taking a deadline off the schedule and processing it. -/
theorem followsFrom_processDeadline (admits : Admits host step loss) (schedule : ScheduleKey)
    {evaluatedAt : Nat} (timely : cycle.currentMonotonicMs ≤ evaluatedAt) :
    FollowsFrom (discipline step loss) cycle.board (processDeadline host schedule evaluatedAt)
      { cycle with schedules := cycle.schedules.erase schedule } := by
  unfold processDeadline
  refine followsFrom_get_bind ?_
  cases hfound : cycle.consumers[schedule.owner]? with
  | none =>
    dsimp only
    refine followsFrom_pure _ (.single (admits.calm _ _ (.released schedule ?_)))
    simp [hfound]
  | some state =>
    dsimp only
    split
    · rename_i hstale
      refine followsFrom_pure _ (.single (admits.calm _ _ (.released schedule ?_)))
      simpa [hfound] using hstale
    · exact followsFrom_visit (admits.serves _).toAttends
        (cycle.aside_dropSchedule schedule.owner rfl)
        (discreet_after host _ state fun _ => .of_noted (noted_noteDeadline schedule _))
        hfound trivial timely

/-! ### Activations -/

theorem steps_latchBlind (admits : Admits host step loss) (subject : Option SubjectId)
    (atMs : Nat) (detail : Text) :
    ReflTransGen step cycle.board (cycle.latchBlind host subject atMs detail).board :=
  admits.visits (latches_latchBlind host subject atMs detail cycle).visits

theorem steps_refuseActivation (serves : Serves host key step loss) (cycle : Cycle)
    (evaluatedAt : Nat) (refusalClass : RuntimeRefusalClassV1) (bound count : Nat)
    (detail latchDetail : Text) :
    ReflTransGen step cycle.board (cycle.refuseActivation host key evaluatedAt refusalClass bound
      count detail latchDetail).board :=
  .head (serves.noted _ _ (cycle.noted_pushRefusal host _))
    (serves.latches (latches_latchBlindConsumer host evaluatedAt latchDetail key _))

theorem aside_noteActivation (key : ConsumerKey) (prior : ConsumerState)
    (activation : ConsumerActivationV1) (logicalAt evaluatedAt : Nat) : Aside key cycle.board
      (cycle.noteActivation host key prior activation logicalAt evaluatedAt).board := by
  have hcancelled : Aside key cycle.board ((cycle.rememberActivation host activation.policy
      activation.context).cancelSchedule key).board :=
    Cycle.aside_cancelSchedule (cycle.rememberActivation host activation.policy
      activation.context) key
  unfold Cycle.noteActivation
  dsimp only
  split
  · exact hcancelled.trans (.of_noted (Cycle.noted_recordContextTransition host
      (Cycle.measure _ _) key _ _ _ _ _))
  · exact hcancelled.trans (.of_noted (Cycle.noted_recordContextTransition host _ key _ _ _ _ _))

theorem follows_admitActivation (serves : Serves host (policyKey activation.policy) step loss)
    (logicalAt : Nat) (found : cycle.consumers[policyKey activation.policy]? = some state)
    (timely : cycle.currentMonotonicMs ≤ evaluatedAt) :
    Follows (discipline step loss) (admitActivation host logicalAt activation evaluatedAt state)
      cycle := by
  refine follows_visit serves.toAttends
    { before := fun cycle => .inl ⟨_, rfl,
        Cycle.aside_invalidateBindingForContextChange host _ _ _ cycle⟩
      certificate := rfl
      after := fun cycle => aside_noteActivation _ _ _ _ _ } found trivial timely

theorem follows_activateConsumer (serves : Serves host (policyKey activation.policy) step loss)
    (logicalAt : Nat) (timely : cycle.currentMonotonicMs ≤ evaluatedAt) :
    Follows (discipline step loss) (activateConsumer host logicalAt activation evaluatedAt)
      cycle := by
  unfold activateConsumer
  refine follows_seq serves.timely timely (follows_orFail _) fun _ cycle timely => ?_
  refine follows_get_bind ?_
  cases hfound : cycle.consumers[policyKey activation.policy]? with
  | none => exact follows_fail _ _
  | some state =>
    refine follows_ite (fun _ => ?_) fun _ => follows_ite (fun _ => ?_) fun _ =>
      follows_ite (fun _ => ?_) fun _ => ?_
    · exact follows_modify (steps_refuseActivation serves cycle.countContextRefusal _ _ _ _ _ _)
    · exact follows_modify (steps_refuseActivation serves cycle.countContextRefusal _ _ _ _ _ _)
    · exact follows_modify (steps_refuseActivation serves cycle _ _ _ _ _ _)
    · exact follows_admitActivation serves logicalAt hfound timely

/-! ### Subject replacement -/

theorem follows_replaceConsumer (admits : Admits host step loss) (logicalAt : Nat)
    (subject : SubjectId) (replacement : IncarnationId) (activation : ConsumerActivationV1)
    (timely : cycle.currentMonotonicMs ≤ evaluatedAt) : Follows (discipline step loss)
      (replaceConsumer host logicalAt subject replacement evaluatedAt activation) cycle := by
  unfold replaceConsumer
  refine follows_get_bind ?_
  cases hfound : cycle.consumers[(⟨subject, activation.policy.consumer⟩ : ConsumerKey)]? with
  | none => exact follows_throw (by simp [discipline])
  | some state =>
    refine follows_seq admits.timely timely
      (follows_visit (admits.serves _).toAttends (discreet_after host _ state fun cycle =>
        cycle.aside_cancelSchedule _) hfound trivial timely) fun _ cycle timely => ?_
    refine follows_seq admits.timely timely
      (follows_activateConsumer (admits.serves _) logicalAt timely) fun _ cycle _ => ?_
    exact follows_modify .refl

/-! ### Dispositions, receipts and monitor state -/

theorem follows_deliverToOwner (admits : Admits host step loss) {owner : ConsumerKey}
    {call : EvaluatorCall} {after : Cycle → Cycle}
    (lawful : (Visit.at owner call evaluatedAt).Lawful host cycle.board)
    (aside : ∀ cycle : Cycle, Aside owner cycle.board (after cycle).board)
    (timely : cycle.currentMonotonicMs ≤ evaluatedAt) :
    Follows (discipline step loss) (deliverToOwner host owner call evaluatedAt after) cycle := by
  unfold deliverToOwner
  refine follows_get_bind ?_
  cases hfound : cycle.consumers[owner]? with
  | none => exact follows_throw (by simp [discipline])
  | some state =>
    exact follows_visit (admits.serves owner).toAttends (discreet_after host owner state aside)
      hfound lawful timely

theorem follows_processDisposition (admits : Admits host step loss)
    (disposition : EscalationDispositionV1) (timely : cycle.currentMonotonicMs ≤ evaluatedAt) :
    Follows (discipline step loss) (processDisposition host disposition evaluatedAt) cycle := by
  unfold processDisposition
  refine follows_get_bind ?_
  cases howner : cycle.requestOwners[disposition.requestId]? with
  | none => exact follows_modify (admits.noted (cycle.noted_pushRefusal host _))
  | some entry =>
    obtain ⟨owner, expiry⟩ := entry
    exact follows_deliverToOwner admits ⟨expiry, howner⟩ (fun _ => .refl _) timely

theorem follows_processReceipt (admits : Admits host step loss) (receipt : MockDiagnosticReceiptV1)
    (timely : cycle.currentMonotonicMs ≤ evaluatedAt) :
    Follows (discipline step loss) (processReceipt host receipt evaluatedAt) cycle := by
  unfold processReceipt
  refine follows_get_bind (follows_ite (fun _ => ?_) fun _ => ?_)
  · exact follows_modify ((admits.noted (cycle.noted_pushRefusal host _)).trans
      (steps_latchBlind admits _ _ _))
  · cases howner : cycle.requestOwners[receipt.requestId]? with
    | none => exact follows_modify (admits.noted (cycle.noted_pushRefusal host _))
    | some entry =>
      obtain ⟨owner, expiry⟩ := entry
      exact follows_deliverToOwner admits ⟨expiry, howner⟩ (fun cycle => .refl cycle.board)
        timely

theorem follows_processReevaluation (serves : Serves host key step loss)
    (timely : cycle.currentMonotonicMs ≤ evaluatedAt) :
    Follows (discipline step loss) (processReevaluation host key evaluatedAt) cycle := by
  unfold processReevaluation
  refine follows_get_bind ?_
  cases hfound : cycle.consumers[key]? with
  | none => exact follows_fail _ _
  | some state =>
    exact follows_visit serves.toAttends (discreet_after host key state fun _ => .refl _) hfound
      trivial timely

theorem follows_processRevalidation (serves : Serves host key step loss)
    (expectedPolicy : TransportCustodyPolicyBindingV1)
    (timely : cycle.currentMonotonicMs ≤ evaluatedAt) : Follows (discipline step loss)
      (processRevalidation host key expectedPolicy evaluatedAt) cycle := by
  unfold processRevalidation
  refine follows_get_bind (follows_ite (fun _ => follows_fail _ _) fun _ => ?_)
  cases hfound : cycle.consumers[key]? with
  | none => exact follows_fail _ _
  | some state =>
    refine follows_visit serves.toAttends
      { before := fun cycle => ?_, certificate := rfl, after := fun _ => .refl _ } hfound
      trivial timely
    have hdiscard := discard_apply (revalidatedQualifiedBinding host key state evaluatedAt) cycle
    rcases revalidatedQualifiedBinding_cases host key state evaluatedAt cycle with
      ⟨binding, next, hrun, haside, _⟩ | ⟨error, hrun, hmeasured⟩
    · rw [hrun] at hdiscard
      exact .inl ⟨next, hdiscard, haside⟩
    · rw [hrun] at hdiscard
      exact .inr ⟨_, error, hdiscard, hmeasured⟩

theorem follows_processBoundaryCondition (admits : Admits host step loss)
    (subject : Option SubjectId) (finding : TransportCustodyFindingV1)
    (sessionBindingDigest : Option DigestV1) (detail : Text) (withdraw : Bool) :
    Follows (discipline step loss) (processBoundaryCondition host subject finding
      sessionBindingDigest detail withdraw evaluatedAt) cycle := by
  unfold processBoundaryCondition
  refine follows_ite (fun _ => follows_fail _ _) fun _ => ?_
  refine follows_bind (follows_modify (admits.noted (cycle.noted_recordSparse host _ _)))
    fun _ cycle _ => ?_
  refine follows_ite (fun _ => ?_) fun _ => follows_pure _
  exact follows_modify (steps_latchBlind admits subject evaluatedAt detail)

theorem follows_processRestoration (admits : Admits host step loss) (subject : Option SubjectId)
    (detail : Text) (timely : cycle.currentMonotonicMs ≤ evaluatedAt) :
    Follows (discipline step loss) (processRestoration host subject detail evaluatedAt) cycle := by
  unfold processRestoration
  refine follows_get_bind (follows_bind (follows_forM admits.timely ?_ timely)
    fun _ cycle _ => follows_modify .refl)
  intro key _ cycle timely
  unfold restoreConsumer
  refine follows_get_bind ?_
  cases hfound : cycle.consumers[key]? with
  | none => exact follows_throw (by simp [discipline])
  | some state =>
    exact follows_visit (admits.serves key).toAttends
      (discreet_after host key state fun _ => .refl _) hfound trivial timely

end Handlers

/-! ## Inputs -/

/-- A remote pulse comes with a reference that names its frame. -/
def NamesFrame (ingress : PulseIngressV1)
    (remote : Option (RemoteObservationCustodyReferenceV1 × ReceiverAcceptanceReceiptV1)) :
    Prop :=
  ∀ custody receipt, remote = some (custody, receipt) →
    custody.supportingEvidenceId = evidenceRef ingress.frame

/-- Relations that also allow the delivery of a pulse, a subject replacement and the latch
of an exhausted history. -/
structure Handles (host : Host) (step loss : Board → Board → Prop) : Prop extends
    Admits host step loss where
  pulses : ∀ (cycle : Cycle) (arrivalAt ordinal : Nat) (ingress : PulseIngressV1)
    (remote : Option (RemoteObservationCustodyReferenceV1 × ReceiverAcceptanceReceiptV1))
    (evaluatedAt : Nat), NamesFrame ingress remote →
    cycle.board.Delivers ⟨arrivalAt, ingress, remote.map Prod.fst⟩ →
    cycle.currentMonotonicMs ≤ evaluatedAt →
    Follows (discipline step loss) (deliverPulse host arrivalAt ordinal ingress remote evaluatedAt)
      cycle
  replaces : ∀ (cycle : Cycle) (logicalAt : Nat) (subject : SubjectId)
    (replacement : IncarnationId) (activations : List ConsumerActivationV1)
    (evaluatedAt : Nat) (state : SubjectState), cycle.subjects[subject]? = some state →
    cycle.currentMonotonicMs ≤ evaluatedAt →
    Follows (discipline step loss) (replaceConsumers host logicalAt subject replacement
      activations state.consumers.toList evaluatedAt) cycle
  latches : ∀ (cycle : Cycle) (atMs : Nat), cycle.historyExhausted = true →
    ReflTransGen step cycle.board (cycle.latchHistoryBlindness host atMs).board

section Inputs

variable {host : Host} {step loss : Board → Board → Prop} {cycle : Cycle}

variable {evaluatedAt : Nat}

theorem follows_replaceSubjectIncarnation (handles : Handles host step loss) (logicalAt : Nat)
    (subject : SubjectId) (replacement : IncarnationId) (activations : List ConsumerActivationV1)
    (timely : cycle.currentMonotonicMs ≤ evaluatedAt) :
    Follows (discipline step loss) (replaceSubjectIncarnation host logicalAt subject replacement
      activations evaluatedAt) cycle := by
  unfold replaceSubjectIncarnation
  refine follows_seq handles.timely timely (follows_orFail _) fun _ cycle timely => ?_
  refine follows_get_bind ?_
  cases hknown : cycle.subjects[subject]? with
  | none => exact follows_fail _ _
  | some state =>
    refine follows_ite (fun _ => ?_) fun _ => ?_
    · exact follows_modify ((handles.noted (cycle.noted_pushRefusal host _)).trans
        (steps_latchBlind handles.toAdmits _ _ _))
    · exact handles.replaces cycle logicalAt subject replacement activations evaluatedAt state
        hknown timely

theorem steps_refusePulse (admits : Admits host step loss) (cycle : Cycle) (subject : SubjectId)
    (evaluatedAt : Nat) (refusalClass : RuntimeRefusalClassV1) (bound count : Nat)
    (detail latchDetail : Text) :
    ReflTransGen step cycle.board (cycle.refusePulse host subject evaluatedAt refusalClass bound
      count detail latchDetail).board :=
  (admits.noted (cycle.noted_pushRefusal host _)).trans (steps_latchBlind admits _ _ _)

theorem follows_processPulse (handles : Handles host step loss) {arrivalAt : Nat} (ordinal : Nat)
    {ingress : PulseIngressV1}
    {remote : Option (RemoteObservationCustodyReferenceV1 × ReceiverAcceptanceReceiptV1)}
    (names : NamesFrame ingress remote)
    (delivers : cycle.board.Delivers ⟨arrivalAt, ingress, remote.map Prod.fst⟩)
    (timely : cycle.currentMonotonicMs ≤ evaluatedAt) : Follows (discipline step loss)
      (processPulse host arrivalAt ordinal ingress remote evaluatedAt) cycle := by
  unfold processPulse
  refine follows_get_bind ?_
  dsimp only
  cases cycle.subjects[ingress.frame.subject]? with
  | none => exact follows_modify (handles.noted (cycle.noted_pushRefusal host _))
  | some state =>
    refine follows_ite (fun _ => ?_) fun _ => follows_ite (fun _ => ?_) fun _ =>
      follows_ite (fun _ => ?_) fun _ => ?_
    · exact follows_modify (steps_refusePulse handles.toAdmits (cycle.measure _) _ _ _ _ _ _ _)
    · exact follows_modify (steps_refusePulse handles.toAdmits (cycle.measure _) _ _ _ _ _ _ _)
    · exact follows_modify (steps_refusePulse handles.toAdmits cycle _ _ _ _ _ _ _)
    · exact handles.pulses cycle arrivalAt ordinal ingress remote evaluatedAt names delivers
        timely

/-- Every input follows. -/
theorem follows_processInput (handles : Handles host step loss) {logicalAt : Nat} (ordinal : Nat)
    {input : RuntimeInputV1} (delivers : ∀ delivery, input.delivery logicalAt = some delivery →
      cycle.board.Delivers delivery) (timely : cycle.currentMonotonicMs ≤ evaluatedAt) :
    Follows (discipline step loss) (processInput host logicalAt ordinal input evaluatedAt)
      cycle := by
  have admits := handles.toAdmits
  cases input with
  | activateConsumer activation => exact follows_activateConsumer (admits.serves _) logicalAt timely
  | replaceSubjectIncarnation subject replacement activations =>
    exact follows_replaceSubjectIncarnation handles logicalAt subject replacement activations
      timely
  | pulse ingress =>
    exact follows_processPulse handles ordinal (fun _ _ h => by cases h) (delivers _ rfl) timely
  | remotePulse verified =>
    refine follows_processPulse handles ordinal (fun custody receipt h => ?_) (delivers _ rfl)
      timely
    obtain ⟨rfl, rfl⟩ : verified.custody = custody ∧ verified.receipt = receipt := by
      simpa using h
    exact verified.evidenceBound
  | escalationDisposition disposition =>
    exact follows_processDisposition admits disposition timely
  | diagnosticReceipt receipt => exact follows_processReceipt admits receipt timely
  | reevaluate subject consumer => exact follows_processReevaluation (admits.serves _) timely
  | revalidateTransportActivation subject consumer expectedPolicy =>
    exact follows_processRevalidation (admits.serves _) expectedPolicy timely
  | receiverBoundaryCondition subject finding sessionBindingDigest detail withdraw =>
    exact follows_processBoundaryCondition admits subject finding sessionBindingDigest detail
      withdraw
  | restoreMonitorCapability subject detail =>
    exact follows_processRestoration admits subject detail timely

end Inputs

end ConstellationMonitor.Runtime

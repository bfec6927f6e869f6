/-
  The runtime refines the transition system of its board: every public operation takes
  turns, every reachable runtime is reached by turns from a fresh board, and so an
  invariant of turns and losses is an invariant of every run.
-/
import ConstellationMonitor.Runtime.Handlers

namespace ConstellationMonitor.Runtime

open Foundation Foundation.Program ConstellationMonitor.Types Evaluation
open Std (ExtTreeMap ExtTreeSet)
open Relation (ReflTransGen)

/-! ## The delivery of a pulse -/

section Pulse

variable {host : Host} {cycle : Cycle}

variable {origin : Option RemoteObservationCustodyReferenceV1} {pulsed : RuntimeCore}
  {received : ReceivedPulseV1}

/-- A visit leaves the pulse under delivery. -/
theorem Delivered.visited {delivery : Delivery} {before after : Board} {visit : Visit}
    (delivered : Delivered host received origin pulsed delivery before)
    (visited : Visited host visit before after) :
    Delivered host received origin pulsed delivery after where
  underway := by
    rw [visited.trail_start]
    exact delivered.underway
  frame := delivered.frame
  custody := delivered.custody
  annotated := by
    rw [visited.frame_start.receiver]
    exact delivered.annotated
  named := by
    rw [visited.frame_start.remoteObservationCustody]
    exact delivered.named
  fits := delivered.fits

/-- The loop over the consumers of a pulse only visits. -/
theorem follows_pulseConsumers (ordinal : Nat) {delivery : Delivery} {evaluatedAt : Nat}
    {keys : List ConsumerKey} (subjects : ∀ key ∈ keys, key.subject = received.frame.subject)
    (delivered : Delivered host received origin pulsed delivery cycle.board)
    (timely : cycle.currentMonotonicMs ≤ evaluatedAt) :
    Follows (discipline (Visits host) (Loses host))
      (forM keys (pulseConsumer host ordinal received origin evaluatedAt)) cycle := by
  have hkeeps : ∀ before after : Board, Visits host before after →
      (before.currentMonotonicMs ≤ evaluatedAt ∧
        Delivered host received origin pulsed delivery before) →
      (after.currentMonotonicMs ≤ evaluatedAt ∧
        Delivered host received origin pulsed delivery after) := by
    rintro before after ⟨visit, ⟨visited⟩⟩ ⟨htime, hdelivered⟩
    rw [visited.frame_start.currentMonotonicMs]
    exact ⟨htime, hdelivered.visited visited⟩
  refine follows_forM hkeeps (fun key hkey cycle hcycle => ?_) ⟨timely, delivered⟩
  unfold pulseConsumer
  refine follows_get_bind ?_
  cases hfound : cycle.consumers[key]? with
  | none => exact follows_pure _
  | some state =>
    refine follows_ite (fun _ => ?_) fun _ => follows_pure _
    exact follows_visit ⟨fun _ _ visit _ visited => ⟨visit, ⟨visited⟩⟩,
        fun _ _ visit _ lost => ⟨visit, ⟨lost⟩⟩⟩
      (discreet_after host key state fun cycle => .refl cycle.board) hfound
      ⟨(subjects key hkey).symm, pulsed, delivery, hcycle.2⟩ hcycle.1

/-- Changing a known subject's observers or incarnations is calm. -/
theorem calm_modifySubject (subject : SubjectId) (f : SubjectState → SubjectState)
    (same : ∀ state, (f state).consumers = state.consumers) (board : Board) :
    Calm host board { board with subjects := board.subjects.modify subject f } := by
  refine .surveyed _ fun other => ?_
  rw [ExtTreeMap.getElem?_modify]
  split
  · rename_i heq
    obtain rfl := Std.LawfulEqCmp.eq_of_compare heq
    cases board.subjects[subject]? <;> simp [same]
  · rfl

theorem validateRemote_fits {platform : Platform} {frame : PulseFrameV1}
    {custody : RemoteObservationCustodyReferenceV1} {receipt : ReceiverAcceptanceReceiptV1}
    (valid : validateRemote platform frame custody receipt = .ok ())
    (names : custody.supportingEvidenceId = evidenceRef frame) : CustodyFits frame custody := by
  simp only [validateRemote, check_bind_eq_ok, refuseIf_eq_ok, custodyMismatch,
    Bool.or_eq_false_iff, decide_eq_false_iff_not, ne_eq, Decidable.not_not] at valid
  obtain ⟨-, -, ⟨⟨⟨⟨⟨⟨hsubject, hincarnation⟩, -⟩, -⟩, -⟩, -⟩, -⟩⟩ := valid
  exact ⟨hsubject, hincarnation, names⟩

end Pulse

/-! ## One input -/

section Steps

variable {host : Host} {cycle : Cycle}

/-- What no step changes. -/
structure Steady (before after : Board) : Prop where
  config : after.config = before.config := by rfl
  pending : after.pending = before.pending := by rfl
  currentMonotonicMs : after.currentMonotonicMs = before.currentMonotonicMs := by rfl
  ingressCounter : after.ingressCounter = before.ingressCounter := by rfl
  exhausted : before.historyExhausted = true → after.historyExhausted = true := by
    exact id

variable {after before : Board}

theorem Frame.steady (frame : Frame before after) : Steady before after :=
  ⟨frame.config, frame.pending, frame.currentMonotonicMs, frame.ingressCounter, frame.exhausted⟩

theorem calm_steady (calm : Calm host before after) : Steady before after := by
  cases calm with
  | noted noted =>
    obtain ⟨full, rfl⟩ := noted
    exact { exhausted := fun h => by simp [Board.exhaust, h] }
  | beside absent aside => exact aside.toFrame.steady
  | visited visit visited => exact visited.frame_start.steady
  | released schedule stale => exact {}
  | surveyed subjects same => exact {}
  | enrolled registration evaluator absent unexhausted made => exact {}
  | reinstated key state records evaluator found made => exact {}

theorem visits_frame (visits : ReflTransGen (Visits host) before after) : Frame before after := by
  induction visits with
  | refl => exact .refl _
  | tail _ last ih =>
    obtain ⟨visit, ⟨visited⟩⟩ := last
    exact ih.trans visited.frame_start

theorem step_steady (step : Step host before after) : Steady before after := by
  cases step with
  | calm calm => exact calm_steady calm
  | pulsed delivery due fits => exact {}
  | annotated receiver => exact {}
  | replaced subject replacement receiver => exact {}
  | latched exhausted visits all =>
    have hframe := visits_frame visits
    exact ⟨hframe.config, hframe.pending, hframe.currentMonotonicMs, hframe.ingressCounter,
      hframe.exhausted⟩

theorem admits_step : Admits host (Step host) (Loses host) where
  calm _ _ := .calm
  loses _ _ := id
  clock _ _ step := (step_steady step).currentMonotonicMs

/-- The custody part of a pulse: bookkeeping, then the new table. -/
theorem recordCustody_cases (arrivalAt : Nat) {ingress : PulseIngressV1}
    {remote : Option (RemoteObservationCustodyReferenceV1 × ReceiverAcceptanceReceiptV1)}
    (names : NamesFrame ingress remote) (evaluatedAt : Nat) :
    (∃ noted next, recordCustody host arrivalAt ingress remote evaluatedAt cycle = .ok () next ∧
      Noted cycle.board noted ∧
      next.board = noted.pulsed ⟨arrivalAt, ingress, remote.map Prod.fst⟩ ∧
      ∀ custody ∈ remote.map Prod.fst, CustodyFits ingress.frame custody) ∨
    ∃ error, recordCustody host arrivalAt ingress remote evaluatedAt cycle =
      .error (.error error) cycle := by
  unfold recordCustody
  cases remote with
  | none => exact .inl ⟨cycle.board, _, rfl, .refl _, rfl, by simp⟩
  | some pair =>
    obtain ⟨custody, receipt⟩ := pair
    dsimp only
    cases hvalid : validateRemote host.toPlatform ingress.frame custody receipt with
    | error error => exact .inr ⟨error, rfl⟩
    | ok =>
      refine .inl ⟨_, _, rfl, cycle.noted_recordSparse host evaluatedAt
        (.receiverBoundaryAcceptanceRecorded receipt), rfl, ?_⟩
      simpa using validateRemote_fits hvalid (names _ _ rfl)

/-- The tracker part of a pulse changes the tracker alone. -/
theorem annotatePulse_cases (arrivalAt : Nat) (ingress : PulseIngressV1) :
    (∃ annotated receiver, annotatePulse host arrivalAt ingress cycle =
        .ok ⟨ingress.frame, annotated⟩ { cycle with receiver := receiver } ∧
      cycle.receiver.annotate host.sha256 ingress.frame arrivalAt ingress.transportPath
        ingress.transportObservedDelayMs ingress.authentication = .ok (annotated, receiver)) ∨
    ∃ error, annotatePulse host arrivalAt ingress cycle = .error (.error error) cycle := by
  unfold annotatePulse
  simp only [get_bind_apply]
  cases cycle.receiver.annotate host.sha256 ingress.frame arrivalAt ingress.transportPath
      ingress.transportObservedDelayMs ingress.authentication with
  | error error => exact .inr ⟨_, rfl⟩
  | ok pair => exact .inl ⟨pair.1, pair.2, rfl, rfl⟩

theorem subject_of_mem_consumerKeys {core : RuntimeCore} {subject : SubjectId}
    {key : ConsumerKey} (h : key ∈ core.consumerKeys (some subject)) : key.subject = subject := by
  simpa using (List.mem_filter.mp h).2

theorem calm_noteFrame (frame : PulseFrameV1) :
    Calm host cycle.board (cycle.noteFrame frame).board :=
  calm_modifySubject frame.subject
    (fun state => { state with observers := state.observers.insert frame.observer })
    (fun _ => rfl) cycle.board

/-- A pulse the tracker has annotated is under delivery. -/
theorem delivered_annotated {arrivalAt : Nat} {ingress : PulseIngressV1} {noted : Board}
    {origin : Option RemoteObservationCustodyReferenceV1} {arrival : ReceiverAnnotationV1}
    {receiver : ReceiverTracker} (fits : ∀ custody ∈ origin, CustodyFits ingress.frame custody)
    (annotated : noted.receiver.annotate host.sha256 ingress.frame arrivalAt ingress.transportPath
      ingress.transportObservedDelayMs ingress.authentication = .ok (arrival, receiver)) :
    Delivered host ⟨ingress.frame, arrival⟩ origin noted.toRuntimeCore
      ⟨arrivalAt, ingress, origin⟩
      { noted.pulsed ⟨arrivalAt, ingress, origin⟩ with receiver := receiver } where
  underway := rfl
  frame := rfl
  custody := rfl
  annotated := annotated
  named := by
    cases origin with
    | none => simp [Board.pulsed, RuntimeCore.custodyAfter]
    | some custody => simp [Board.pulsed, RuntimeCore.custodyAfter]
  fits := fits

theorem follows_deliverPulse (arrivalAt ordinal : Nat) (ingress : PulseIngressV1)
    {remote : Option (RemoteObservationCustodyReferenceV1 × ReceiverAcceptanceReceiptV1)}
    {evaluatedAt : Nat} (names : NamesFrame ingress remote)
    (delivers : cycle.board.Delivers ⟨arrivalAt, ingress, remote.map Prod.fst⟩)
    (timely : cycle.currentMonotonicMs ≤ evaluatedAt) :
    Follows (discipline (Step host) (Loses host))
      (deliverPulse host arrivalAt ordinal ingress remote evaluatedAt) cycle := by
  unfold deliverPulse
  refine follows_bind (follows_modify (.single (.calm (calm_noteFrame ingress.frame))))
    fun _ surveyed hsurveyed => ?_
  obtain rfl : cycle.noteFrame ingress.frame = surveyed := by simpa using hsurveyed
  rcases @recordCustody_cases host (cycle.noteFrame ingress.frame) arrivalAt ingress remote names
    evaluatedAt with ⟨noted, recorded, hrun, hnoted, hpulsed, hfits⟩ | ⟨error, hrun⟩
  swap
  · exact follows_stopped hrun
  refine follows_reached hrun ?_ ?_
  · show ReflTransGen (Step host) _ recorded.board
    rw [hpulsed]
    refine (admits_step.noted hnoted).tail (.pulsed _ ?_ hfits)
    obtain ⟨full, rfl⟩ := hnoted
    exact delivers
  rcases @annotatePulse_cases host recorded arrivalAt ingress with
    ⟨annotated, receiver, hrun, hannotated⟩ | ⟨error, hrun⟩
  swap
  · exact follows_stopped hrun
  refine follows_reached hrun (.single (.annotated receiver)) ?_
  have hreceiver : recorded.receiver = noted.receiver :=
    congrArg (fun board : Board => board.receiver) hpulsed
  have hdelivered : Delivered host ⟨ingress.frame, annotated⟩ (remote.map Prod.fst)
      noted.toRuntimeCore ⟨arrivalAt, ingress, remote.map Prod.fst⟩
      { recorded.board with receiver := receiver } := by
    rw [hpulsed]
    exact delivered_annotated hfits (hreceiver ▸ hannotated)
  have hclock : recorded.currentMonotonicMs ≤ evaluatedAt := by
    obtain ⟨full, rfl⟩ := hnoted
    have hsame := congrArg (fun board : Board => board.currentMonotonicMs) hpulsed
    exact hsame.le.trans timely
  have hloop : Follows (discipline (Visits host) (Loses host))
      (forM (recorded.consumerKeys (some ingress.frame.subject))
        (pulseConsumer host ordinal ⟨ingress.frame, annotated⟩ (remote.map Prod.fst)
          evaluatedAt)) { recorded with receiver := receiver } :=
    follows_pulseConsumers ordinal (fun key hkey => subject_of_mem_consumerKeys hkey)
      hdelivered hclock
  exact follows_get_bind (follows_enlarge hloop admits_step.visit fun _ _ => id)

theorem follows_trackReplacement (subject : SubjectId) (replacement : IncarnationId) :
    Follows (discipline (Step host) (Loses host)) (trackReplacement subject replacement) cycle := by
  unfold trackReplacement
  refine follows_get_bind ?_
  cases cycle.receiver.activateSubjectIncarnation subject replacement with
  | error error => exact follows_fail _ _
  | ok receiver => exact follows_modify (.single (.replaced subject replacement receiver))

theorem follows_replaceConsumers (logicalAt : Nat) (subject : SubjectId)
    (replacement : IncarnationId) (activations : List ConsumerActivationV1)
    (registered : List ConsumerId) {evaluatedAt : Nat}
    (timely : cycle.currentMonotonicMs ≤ evaluatedAt) :
    Follows (discipline (Step host) (Loses host)) (replaceConsumers host logicalAt subject
      replacement activations registered evaluatedAt) cycle := by
  have admits : Admits host (Step host) (Loses host) := admits_step
  unfold replaceConsumers
  dsimp only
  refine follows_ite (fun _ => follows_fail _ _) fun _ => ?_
  refine follows_seq admits.timely timely (follows_orFail _) fun _ cycle timely => ?_
  refine follows_seq admits.timely timely (follows_trackReplacement subject replacement)
    fun _ cycle timely => ?_
  refine follows_seq admits.timely timely (follows_forM admits.timely
    (fun activation _ cycle timely => follows_replaceConsumer admits logicalAt subject replacement
      activation timely) timely) fun _ cycle _ => ?_
  exact follows_modify (.single (.calm (calm_modifySubject subject
    (SubjectState.addIncarnation replacement) (fun _ => rfl) _)))

theorem steps_latchHistoryBlindness (atMs : Nat) (exhausted : cycle.historyExhausted = true) :
    ReflTransGen (Step host) cycle.board (cycle.latchHistoryBlindness host atMs).board := by
  unfold Cycle.latchHistoryBlindness
  split
  · exact .refl
  · have hlatches := latches_latchBlindAll host atMs
      "sparse historical custody capacity is exhausted"
      { cycle with historyBlindnessLatched := true }
    exact .single (.latched exhausted hlatches.visits fun key state => hlatches.all)

/-- The plain reading of the runtime: every change of the board is a step. -/
theorem handles_step : Handles host (Step host) (Loses host) where
  toAdmits := admits_step
  pulses _ arrivalAt ordinal ingress _ _ names delivers timely :=
    follows_deliverPulse arrivalAt ordinal ingress names delivers timely
  replaces _ logicalAt subject replacement activations _ _ _ timely :=
    follows_replaceConsumers logicalAt subject replacement activations _ timely
  latches _ atMs exhausted := steps_latchHistoryBlindness atMs exhausted

end Steps

/-! ## What is due -/

theorem PendingKey.time_le {left right : PendingKey} (h : compare left right = .lt) :
    left.atMonotonicMs ≤ right.atMonotonicMs :=
  fst_le_of_compare_lt left.fields right.fields h

theorem ScheduleKey.deadline_le {left right : ScheduleKey} (h : compare left right = .lt) :
    left.deadlineMonotonicMs ≤ right.deadlineMonotonicMs :=
  fst_le_of_compare_lt left.fields right.fields h

variable {core : RuntimeCore} {now : Nat}

theorem nextPending_eq_none (h : core.nextPending now = none) {key : PendingKey}
    {input : RuntimeInputV1} (found : core.pending[key]? = some input) :
    now < key.atMonotonicMs := by
  have hlater := not_of_head?_filter
    (fun left right horder hdue => by
      have hle := PendingKey.time_le horder
      simp only [decide_eq_true_eq] at hdue ⊢
      omega)
    core.pending.ordered_keys_toList h (key, input)
    (ExtTreeMap.mem_toList_iff_getElem?_eq_some.mpr found)
  simpa using hlater

theorem nextSchedule_eq_none (h : core.nextSchedule now = none) {schedule : ScheduleKey}
    (found : schedule ∈ core.schedules) : now < schedule.deadlineMonotonicMs := by
  have hlater := not_of_head?_filter
    (fun left right horder hdue => by
      have hle := ScheduleKey.deadline_le horder
      simp only [decide_eq_true_eq] at hdue ⊢
      omega)
    core.schedules.ordered_toList h schedule (ExtTreeSet.mem_toList.mpr found)
  simpa using hlater

/-- The loop stops only when nothing is due: both queues are ordered by time. -/
theorem nextDue_eq_none (h : core.nextDue now = none) :
    (∀ (key : PendingKey) (input : RuntimeInputV1), core.pending[key]? = some input →
      now < key.atMonotonicMs) ∧
      ∀ schedule ∈ core.schedules, now < schedule.deadlineMonotonicMs := by
  unfold RuntimeCore.nextDue at h
  split at h
  · rename_i hpending hschedule
    exact ⟨fun _ _ => nextPending_eq_none hpending, fun _ => nextSchedule_eq_none hschedule⟩
  · cases h
  · cases h
  · split at h <;> cases h

/-- What the loop takes up is there, and due. -/
theorem nextDue_eq_some {due : Due} (h : core.nextDue now = some due) :
    match due with
    | .pending key input => core.pending[key]? = some input ∧ key.atMonotonicMs ≤ now ∧
        ∀ other ∈ core.pending, key.atMonotonicMs ≤ other.atMonotonicMs
    | .deadline schedule =>
      schedule ∈ core.schedules ∧ schedule.deadlineMonotonicMs ≤ now := by
  have hpending : ∀ key input, core.nextPending now = some (key, input) →
      core.pending[key]? = some input ∧ key.atMonotonicMs ≤ now ∧
        ∀ other ∈ core.pending, key.atMonotonicMs ≤ other.atMonotonicMs := by
    intro key input hnext
    obtain ⟨hhead, hdue⟩ := Option.filter_eq_some_iff.mp hnext
    refine ⟨ExtTreeMap.mem_toList_iff_getElem?_eq_some.mp (List.mem_of_head? hhead),
      by simpa using hdue, fun other hother => ?_⟩
    obtain ⟨found, hfound⟩ : ∃ found, core.pending[other]? = some found :=
      Option.isSome_iff_exists.mp (ExtTreeMap.mem_iff_isSome_getElem?.mp hother)
    have hleast := head?_least (fun entry : PendingKey × RuntimeInputV1 => entry.1.atMonotonicMs)
      (fun _ _ => PendingKey.time_le) core.pending.ordered_keys_toList hhead
    exact hleast (other, found) (ExtTreeMap.mem_toList_iff_getElem?_eq_some.mpr hfound)
  have hschedule : ∀ schedule, core.nextSchedule now = some schedule →
      schedule ∈ core.schedules ∧ schedule.deadlineMonotonicMs ≤ now := by
    intro schedule hnext
    obtain ⟨hhead, hdue⟩ := Option.filter_eq_some_iff.mp hnext
    exact ⟨ExtTreeSet.mem_toList.mp (List.mem_of_head? hhead), by simpa using hdue⟩
  unfold RuntimeCore.nextDue at h
  split at h
  · cases h
  · cases h
    exact hpending _ _ ‹_›
  · cases h
    exact hschedule _ ‹_›
  · split at h <;> cases h
    · exact hpending _ _ ‹_›
    · exact hschedule _ ‹_›

/-! ## Calls -/

/-- The discipline of turns, whatever error a call ends with. -/
def turns (step loss : Board → Board → Prop) : Discipline Stop Cycle Board where
  abs := Cycle.board
  step := Turn step
  loss := loss
  raises _ := True

section Calls

variable {host : Host} {step loss : Board → Board → Prop} {cycle : Cycle}

variable {start : Board} {next : Cycle} {now atMs : Nat} {d : Discipline Stop Cycle Board}
  {registration : ConsumerRegistrationV1}

/-- What follows steps follows turns. -/
theorem followsFrom_turns {α : Type} {x : RuntimeM α}
    (h : FollowsFrom (discipline step loss) start x cycle) :
    FollowsFrom (turns step loss) start x cycle :=
  FollowsFrom.mono h rfl (fun _ _ => .step) (fun _ _ => id) fun _ _ => trivial

theorem follows_turns {α : Type} {x : RuntimeM α}
    (h : Follows (discipline step loss) x cycle) : Follows (turns step loss) x cycle :=
  followsFrom_turns h

theorem turns_steps {before after : Board} (h : ReflTransGen step before after) :
    ReflTransGen (Turn step) before after :=
  ReflTransGen.mono (fun _ _ => .step) _ _ h

/-- The clock an input is processed at is still the clock afterwards. -/
theorem clock_of_ok {α : Type} (admits : Admits host step loss) {x : RuntimeM α} {value : α}
    (h : FollowsFrom (discipline step loss) start x cycle) (hrun : x cycle = .ok value next)
    (clock : start.currentMonotonicMs = now) : next.currentMonotonicMs = now := by
  let keeps : Board → Prop := fun board => board.currentMonotonicMs = now
  have hkeeps : keeps next.board := keeps_along
    (fun before after hstep hbefore => (admits.clock before after hstep).trans hbefore)
    (h.of_ok hrun) clock
  exact hkeeps

/-- An input just taken off the queue is processed. -/
theorem follows_taken (handles : Handles host step loss) {key : PendingKey} {input : RuntimeInputV1}
    (timely : cycle.currentMonotonicMs ≤ now) : Follows (discipline step loss)
      (processInput host key.atMonotonicMs key.ingressOrdinal input now) (cycle.take key input) :=
  follows_processInput handles _
    (fun _ hdelivery => ⟨cycle.toRuntimeCore, key, input, cycle.trail, rfl, hdelivery⟩) timely

theorem follows_runLoop (handles : Handles host step loss) (fuel : Nat)
    (clock : cycle.currentMonotonicMs = now) :
    Follows (turns step loss) (runLoop host now fuel) cycle := by
  induction fuel generalizing cycle with
  | zero => exact follows_throw trivial
  | succ fuel ih =>
    unfold runLoop
    refine follows_get_bind ?_
    cases hnext : cycle.nextDue now with
    | none => exact follows_pure _
    | some due =>
      have hdue := nextDue_eq_some hnext
      cases due with
      | pending key input =>
        obtain ⟨hfound, htime, hfirst⟩ := hdue
        refine follows_bind (follows_modify (.single
          (.taken key input hfound (htime.trans clock.ge) hfirst))) fun _ taken htaken => ?_
        obtain rfl : cycle.take key input = taken := by simpa using htaken
        have hinput : Follows (discipline step loss) (processInput host key.atMonotonicMs
            key.ingressOrdinal input now) (cycle.take key input) :=
          follows_taken handles clock.le
        exact follows_bind (follows_turns hinput) fun _ next hrun =>
          ih (clock_of_ok handles.toAdmits hinput hrun clock)
      | deadline schedule =>
        have hdeadline := @followsFrom_processDeadline host step loss cycle
          handles.toAdmits schedule now clock.le
        exact followsFrom_modify_bind (followsFrom_bind (followsFrom_turns hdeadline)
          fun _ next hrun => ih (clock_of_ok handles.toAdmits hdeadline hrun clock))

theorem steps_refuseBlind (admits : Admits host step loss) (report : RefusalReport) (atMs : Nat)
    (detail : Text) (cycle : Cycle) :
    ReflTransGen step cycle.board (cycle.refuseBlind host report atMs detail).2.board :=
  (admits.noted (Cycle.noted_stageRefusal host (cycle.refusal report).2 _)).trans
    (admits.visits (latches_latchBlindAll host atMs detail _).visits)

theorem follows_runUntil (handles : Handles host step loss) (now : Nat) :
    Follows (turns step loss) (runUntil host now) cycle := by
  have admits := handles.toAdmits
  unfold runUntil
  refine follows_bind (follows_modify .refl) fun _ begun hbegun => ?_
  obtain rfl : cycle.beginCall = begun := by simpa using hbegun
  refine follows_get_bind (follows_ite (fun _ => ?_) fun hlater => ?_)
  · exact follows_bind (follows_modify (turns_steps
      (steps_refuseBlind admits _ _ _ cycle.beginCall))) fun _ next _ =>
        follows_get_bind (follows_pure _)
  · refine follows_bind (follows_modify (.single (.advanced now (not_lt.mp hlater))))
      fun _ advanced hadvanced => ?_
    obtain rfl : (cycle.beginCall.advance now).takePendingOutput = advanced := by
      simpa using hadvanced
    refine follows_bind (follows_runLoop handles _ rfl) fun _ looped _ =>
      follows_bind (follows_modify ?_) fun _ next _ => follows_get_bind (follows_pure _)
    unfold Cycle.latchIfExhausted
    split
    · rename_i hexhausted
      exact turns_steps (handles.latches looped now hexhausted)
    · exact .refl

theorem follows_refuseInput (admits : Admits host step loss) (report : RefusalReport)
    (atMs : Nat) (detail : Text) :
    Follows (turns step loss) (refuseInput host report atMs detail) cycle := by
  unfold refuseInput
  refine follows_get_bind (follows_bind (follows_set ?_) fun _ _ _ => follows_throw trivial)
  exact turns_steps (steps_refuseBlind admits report atMs detail cycle)

/-- The fail-stop of an exhausted history: the refusal is staged and the latch is set. -/
theorem steps_failStop (handles : Handles host step loss) (report : RefusalReport) (atMs : Nat)
    (exhausted : cycle.historyExhausted = true) : ReflTransGen step cycle.board
      (((cycle.refusal report).2.stageRefusal host (cycle.refusal report).1).latchHistoryBlindness
        host atMs).board := by
  have hnoted : Noted cycle.board
      ((cycle.refusal report).2.stageRefusal host (cycle.refusal report).1).board :=
    Cycle.noted_stageRefusal host (cycle.refusal report).2 _
  refine (handles.noted hnoted).trans (handles.latches _ atMs ?_)
  obtain ⟨full, hboard⟩ := hnoted
  have hflag := congrArg (fun board : Board => board.historyExhausted) hboard
  simpa [Board.exhaust, exhausted] using hflag

theorem follows_enqueue (handles : Handles host step loss) (atMs : Nat)
    (input : RuntimeInputV1) : Follows (turns step loss) (enqueue host atMs input) cycle := by
  have admits := handles.toAdmits
  unfold enqueue
  refine follows_bind (follows_modify .refl) fun _ begun hbegun => ?_
  obtain rfl : cycle.beginCall = begun := by simpa using hbegun
  refine follows_get_bind (follows_ite (fun hexhausted => ?_) fun _ =>
    follows_ite (fun _ => follows_refuseInput admits _ _ _) fun htime =>
    follows_ite (fun _ => ?_) fun _ =>
    follows_ite (fun _ => follows_refuseInput admits _ _ _) fun _ => ?_)
  · exact follows_bind (follows_set (turns_steps (steps_failStop handles _ _ hexhausted)))
      fun _ _ _ => follows_throw trivial
  · exact follows_bind (follows_modify .refl) fun _ _ _ => follows_refuseInput admits _ _ _
  · refine follows_bind (follows_modify (.single (.queued _ input ?_ rfl))) fun _ _ _ =>
      follows_pure _
    exact not_lt.mp htime

/-! ### Management -/

theorem orFail_eq_ok {α : Type} {result : Except RuntimeError α} {value : α}
    (hrun : orFail result cycle = .ok value next) : result = .ok value ∧ next = cycle := by
  cases result with
  | ok found =>
    obtain ⟨rfl, rfl⟩ : found = value ∧ cycle = next := by simpa [orFail] using hrun
    exact ⟨rfl, rfl⟩
  | error error => simp [orFail] at hrun

theorem failIfExhausted_eq_ok {detail : Text} (hrun : failIfExhausted detail cycle = .ok () next) :
    next = cycle ∧ cycle.historyExhausted = false := by
  unfold failIfExhausted at hrun
  rw [get_bind_apply] at hrun
  by_cases hexhausted : cycle.historyExhausted = true
  · simp [hexhausted, fail] at hrun
  · simp only [hexhausted] at hrun
    exact ⟨by simpa using hrun.symm, by simpa using hexhausted⟩

theorem follows_failIfExhausted (raises : ∀ stop, d.raises stop) (detail : Text) :
    Follows d (failIfExhausted detail) cycle := by
  unfold failIfExhausted
  exact follows_get_bind (follows_ite (fun _ => follows_throw (raises _)) fun _ => follows_pure _)

/-- Steps taken when the time of a management operation regressed. -/
def Regresses (host : Host) (step : Board → Board → Prop) (atMs : Nat) (cycle : Cycle) : Prop :=
  atMs < cycle.currentMonotonicMs → ∀ detail,
    ReflTransGen step cycle.board (cycle.latchBlindAll host cycle.currentMonotonicMs detail).board

theorem Admits.regresses (admits : Admits host step loss) (atMs : Nat) (cycle : Cycle) :
    Regresses host step atMs cycle :=
  fun _ detail => admits.visits (latches_latchBlindAll host _ detail cycle).visits

theorem follows_ensureTimeNotRegressed (regresses : Regresses host step atMs cycle) :
    Follows (turns step loss) (ensureTimeNotRegressed host atMs) cycle := by
  unfold ensureTimeNotRegressed
  refine follows_get_bind (follows_ite (fun hregressed => ?_) fun hlater => ?_)
  · exact follows_bind (follows_modify (turns_steps (regresses hregressed _)))
      fun _ _ _ => follows_throw trivial
  · exact follows_modify (.single (.ticked atMs (not_lt.mp hlater)))

theorem ensureTimeNotRegressed_eq_ok (hrun : ensureTimeNotRegressed host atMs cycle = .ok () next) :
    next = { cycle with currentMonotonicMs := atMs } ∧ cycle.currentMonotonicMs ≤ atMs := by
  unfold ensureTimeNotRegressed at hrun
  rw [get_bind_apply] at hrun
  by_cases hregressed : atMs < cycle.currentMonotonicMs
  · simp [hregressed, fail] at hrun
  · simp only [hregressed] at hrun
    exact ⟨by simpa using hrun.symm, not_lt.mp hregressed⟩

theorem checkRegistration_eq_ok (hrun : checkRegistration host registration cycle = .ok () next) :
    next = cycle ∧ cycle.consumers[policyKey registration.policy]? = none := by
  unfold checkRegistration at hrun
  rw [get_bind_apply] at hrun
  by_cases hexists : cycle.consumers.contains (policyKey registration.policy) = true
  · simp [hexists, fail] at hrun
  · simp only [hexists] at hrun
    refine ⟨?_, by simpa using hexists⟩
    repeat' (split at hrun)
    all_goals first
      | (simp [fail] at hrun; done)
      | exact (by simpa using hrun.symm)

theorem follows_checkRegistration (habs : d.abs = Cycle.board) (raises : ∀ stop, d.raises stop)
    (registration : ConsumerRegistrationV1) :
    Follows d (checkRegistration host registration) cycle := by
  have hmeasured : ∀ (f : RuntimeMetricsV1 → RuntimeMetricsV1) (code detail : Text),
      Follows d (do modify fun cycle => cycle.measure f; fail code detail : RuntimeM Unit)
        cycle := by
    intro f code detail
    refine follows_bind (follows_modify ?_) fun _ _ _ => follows_throw (raises _)
    rw [habs]
    exact .refl
  unfold checkRegistration
  refine follows_get_bind (follows_ite (fun _ => follows_throw (raises _)) fun _ => ?_)
  refine follows_ite (fun _ => hmeasured _ _ _) fun _ => ?_
  refine follows_ite (fun _ => follows_throw (raises _)) fun _ => ?_
  refine follows_ite (fun _ => hmeasured _ _ _) fun _ => ?_
  refine follows_ite (fun _ => follows_throw (raises _)) fun _ => ?_
  exact follows_ite (fun _ => follows_throw (raises _)) fun _ => follows_pure _

theorem enrol_found (registration : ConsumerRegistrationV1) (evaluator : Evaluator) :
    (cycle.enrol host registration evaluator).consumers[policyKey registration.policy]? =
      some (initialState registration evaluator) := by
  simp [Cycle.enrol, Cycle.rememberActivation]

/-- Every call starts from an empty output. -/
theorem follows_beginCall {α : Type} {x : RuntimeM α}
    (h : Follows (turns step loss) x cycle.beginCall) :
    Follows (turns step loss) (modify Cycle.beginCall >>= fun _ => x) cycle := h

/-- The guards of a management operation: it goes on at its own time, before the history
is exhausted. -/
theorem follows_guarded {α : Type} (regresses : Regresses host step atMs cycle) (detail : Text)
    {x : RuntimeM α} (h : cycle.historyExhausted = false → Follows (turns step loss) x
      { cycle with currentMonotonicMs := atMs }) :
    Follows (turns step loss)
      (failIfExhausted detail >>= fun _ => ensureTimeNotRegressed host atMs >>= fun _ => x)
      cycle := by
  refine follows_bind (follows_failIfExhausted (fun _ => trivial) detail) fun _ opened hopened => ?_
  obtain ⟨rfl, hexhausted⟩ := failIfExhausted_eq_ok hopened
  refine follows_bind (follows_ensureTimeNotRegressed regresses) fun _ timed htimed => ?_
  obtain ⟨rfl, -⟩ := ensureTimeNotRegressed_eq_ok htimed
  exact h hexhausted

theorem follows_registerConsumer (handles : Handles host step loss)
    (registration : ConsumerRegistrationV1) (atMs : Nat) :
    Follows (turns step loss) (registerConsumer host registration atMs) cycle := by
  have admits := handles.toAdmits
  unfold registerConsumer registerInTime
  refine follows_beginCall (follows_guarded (admits.regresses _ _) _ fun hexhausted => ?_)
  refine follows_bind (follows_turns (follows_orFail _)) fun _ valid hvalid => ?_
  obtain ⟨-, rfl⟩ := orFail_eq_ok hvalid
  refine follows_bind (follows_checkRegistration rfl (fun _ => trivial) registration)
    fun _ checked hchecked => ?_
  obtain ⟨rfl, habsent⟩ := checkRegistration_eq_ok hchecked
  refine follows_get_bind ?_
  cases hmade : ({ cycle.beginCall with currentMonotonicMs := atMs } : Cycle).newEvaluator
      registration with
  | error error => exact follows_throw trivial
  | ok evaluator =>
    refine follows_bind (follows_modify (.single (.step (admits.calm _ _
      (.enrolled registration evaluator habsent hexhausted hmade))))) fun _ enrolled henrolled => ?_
    obtain rfl : Cycle.enrol host registration evaluator _ = enrolled := by
      simpa using henrolled
    refine follows_bind (follows_turns (follows_visit (admits.serves _).toAttends
      (discreet_after host _ _ fun cycle =>
        .of_noted (cycle.noted_recordContextTransition host _ _ _ _ _ _))
      (enrol_found registration evaluator) trivial le_rfl)) fun _ _ _ => ?_
    exact follows_get_bind (follows_pure _)

/-- A binding barrier, after work on the side for its consumer. -/
theorem followsFrom_barBinding {key : ConsumerKey} (serves : Serves host key step loss)
    (lead : Aside key start cycle.board) (detail : Text)
    (timely : cycle.currentMonotonicMs ≤ atMs) :
    FollowsFrom (discipline step loss) start (barBinding host key detail atMs) cycle := by
  unfold barBinding
  refine followsFrom_get_bind ?_
  cases hfound : cycle.consumers[key]? with
  | none =>
    refine followsFrom_pure _ (.single (serves.beside _ _ ?_ lead))
    rw [← lead.consumers]
    exact hfound
  | some state =>
    exact followsFrom_visit serves.toAttends lead (discreet_after host key state fun _ => .refl _)
      hfound trivial timely

/-- Verifying an activation only probes the operating system. -/
theorem attemptActivation_cases (registration : ConsumerRegistrationV1) (package : PackageBytes)
    (acceptance : LocalActivationAcceptanceV1) (atMs : Nat) :
    (∃ attempt next, attemptActivation host registration package acceptance atMs cycle =
      .ok attempt next ∧ next.board = cycle.board) ∨
    ∃ error next, attemptActivation host registration package acceptance atMs cycle =
      .error (.error error) next ∧ next.board = cycle.board := by
  unfold attemptActivation
  rw [get_bind_apply]
  split
  · exact .inr ⟨_, cycle, rfl, rfl⟩
  · split
    · exact .inr ⟨_, cycle, rfl, rfl⟩
    · cases activeRuntimeMeasurements host cycle.config registration with
      | error error => exact .inr ⟨_, cycle, rfl, rfl⟩
      | ok measurements =>
        simp only [modify_bind_apply]
        cases host.verifyLocalActivation package.manifest package.certificate package.report
            acceptance (cycle.activationContext host registration atMs measurements)
            cycle.probes with
        | error error => exact .inr ⟨_, _, rfl, rfl⟩
        | ok attempt => exact .inl ⟨attempt, _, rfl, rfl⟩

theorem follows_attemptActivation (habs : d.abs = Cycle.board) (raises : ∀ stop, d.raises stop)
    (registration : ConsumerRegistrationV1) (package : PackageBytes)
    (acceptance : LocalActivationAcceptanceV1) (atMs : Nat) :
    Follows d (attemptActivation host registration package acceptance atMs) cycle := by
  unfold Follows FollowsFrom
  rw [habs]
  rcases @attemptActivation_cases host cycle registration package acceptance atMs with
    ⟨attempt, next, hrun, hboard⟩ | ⟨error, next, hrun, hboard⟩
  · rw [hrun]
    dsimp only
    rw [hboard]
  · rw [hrun]
    refine ⟨raises _, cycle.board, .refl, ?_⟩
    rw [hboard]

/-- The slot of a verified attempt is installed on the side. -/
theorem aside_insertSlot (key : ConsumerKey) (slot : QualifiedBindingSlot) : Aside key cycle.board
    ({ cycle with qualifiedBindings := cycle.qualifiedBindings.insert key slot } : Cycle).board :=
  cycle.aside_slots key fun other h => by simp [getElem?_insert_iff, h.symm]

theorem aside_installSlot (key : ConsumerKey) (slot : QualifiedBindingSlot) (atMs : Nat)
    (event : SparseDurableEventKindV1) : Aside key cycle.board
      (((({ cycle with qualifiedBindings := cycle.qualifiedBindings.insert key slot } :
        Cycle).takePendingOutput).recordSparse host atMs event).cancelSchedule key).board :=
  ((aside_insertSlot key slot).trans (.of_noted (Cycle.noted_recordSparse host
    (Cycle.takePendingOutput _) atMs event))).trans (Cycle.aside_cancelSchedule _ key)

theorem follows_activateQualifiedBinding
    (serves : Serves host (policyKey registration.policy) step loss)
    (regresses : Regresses host step atMs cycle.beginCall) (package : PackageBytes)
    (acceptance : LocalActivationAcceptanceV1) : Follows (turns step loss)
      (activateQualifiedBinding host registration package acceptance atMs) cycle := by
  unfold activateQualifiedBinding
  refine follows_beginCall (follows_guarded regresses _ fun _ => ?_)
  refine follows_bind (follows_turns (follows_orFail _)) fun _ valid hvalid => ?_
  obtain ⟨-, rfl⟩ := orFail_eq_ok hvalid
  refine follows_bind (follows_attemptActivation rfl (fun _ => trivial) registration package
    acceptance atMs) fun attempt attempted hattempted => ?_
  have hclock : attempted.currentMonotonicMs = atMs := by
    rcases @attemptActivation_cases host _ registration package acceptance atMs with
      ⟨_, _, hrun, hboard⟩ | ⟨_, _, hrun, _⟩
    · rw [hrun] at hattempted
      obtain ⟨-, rfl⟩ : _ ∧ _ = attempted := by simpa using hattempted
      exact congrArg (fun board : Board => board.currentMonotonicMs) hboard
    · rw [hrun] at hattempted
      cases hattempted
  have hlead := @aside_installSlot host attempted (policyKey registration.policy)
    ⟨attempt.receipt.body.state, attempt.receipt, acceptance, attempt.accepted⟩ atMs
    (.qualifiedGenerationBindingChanged attempt.receipt)
  refine followsFrom_modify_bind (followsFrom_bind (followsFrom_turns (followsFrom_barBinding serves
    hlead _ ?_)) fun _ barred _ => ?_)
  · exact hlead.currentMonotonicMs.le.trans hclock.le
  · exact follows_bind (follows_modify .refl) fun _ _ _ => follows_get_bind (follows_pure _)

/-- The slot of an accepted lifecycle fact is retired on the side. -/
theorem aside_retireSlot (key : ConsumerKey) (slot : QualifiedBindingSlot) (atMs : Nat)
    (event : SparseDurableEventKindV1) : Aside key cycle.board
      ((({ cycle with qualifiedBindings := cycle.qualifiedBindings.insert key slot } :
        Cycle).cancelSchedule key).takePendingOutput.recordSparse host atMs event).board :=
  ((aside_insertSlot key slot).trans (Cycle.aside_cancelSchedule _ key)).trans
    (.of_noted (Cycle.noted_recordSparse host (Cycle.takePendingOutput _) atMs event))

theorem follows_applyGenerationLifecycleFact {key : ConsumerKey}
    (serves : Serves host key step loss) (regresses : Regresses host step atMs cycle.beginCall)
    (fact : GenerationLifecycleFactV1) :
    Follows (turns step loss) (applyGenerationLifecycleFact host key fact atMs) cycle := by
  unfold applyGenerationLifecycleFact
  refine follows_beginCall (follows_guarded regresses _ fun _ => ?_)
  refine follows_bind (follows_turns (follows_orFail _)) fun _ valid hvalid => ?_
  obtain ⟨-, rfl⟩ := orFail_eq_ok hvalid
  refine follows_get_bind ?_
  cases ({ cycle.beginCall with currentMonotonicMs := atMs } : Cycle).qualifiedBindings[key]? with
  | none => exact follows_throw trivial
  | some slot =>
    refine follows_bind (follows_turns (follows_orFail _)) fun _ accepted haccepted => ?_
    obtain ⟨-, rfl⟩ := orFail_eq_ok haccepted
    have hlead := @aside_retireSlot host
      { cycle.beginCall with currentMonotonicMs := atMs } key (slot.retire fact) atMs
      (.qualifiedGenerationLifecycleApplied key.consumer fact (lifecycleState fact.body.kind)
        false)
    refine followsFrom_modify_bind (followsFrom_bind (followsFrom_turns (followsFrom_barBinding
      serves hlead _ hlead.currentMonotonicMs.le)) fun _ barred _ => ?_)
    exact follows_bind (follows_modify .refl) fun _ _ _ => follows_get_bind (follows_pure _)

theorem follows_declareExternalMonitorBlindness (handles : Handles host step loss) (atMs : Nat)
    (state detail : Text) :
    Follows (turns step loss) (declareExternalMonitorBlindness host atMs state detail) cycle := by
  have admits := handles.toAdmits
  unfold declareExternalMonitorBlindness
  refine follows_beginCall (follows_bind (follows_ensureTimeNotRegressed (admits.regresses atMs _))
    fun _ timed _ => follows_bind (follows_modify (turns_steps ?_)) fun _ _ _ =>
      follows_get_bind (follows_pure _))
  exact (admits.noted (Cycle.noted_recordSparse host timed.takePendingOutput atMs _)).trans
    (admits.visits (latches_latchBlindAll host atMs detail _).visits)

/-- Every public operation takes turns. -/
theorem follows_perform (handles : Handles host step loss) (operation : Operation) :
    Follows (turns step loss) (operation.perform host) cycle := by
  cases operation with
  | registerConsumer registration atMs =>
    exact follows_discard (follows_registerConsumer handles registration atMs)
  | activateQualifiedBinding registration package acceptance atMs =>
    exact follows_discard (follows_activateQualifiedBinding (handles.serves _)
      (handles.regresses atMs _) package acceptance)
  | applyGenerationLifecycleFact subject consumer fact atMs =>
    exact follows_discard (follows_applyGenerationLifecycleFact (handles.serves _)
      (handles.regresses atMs _) fact)
  | enqueue atMs input => exact follows_discard (follows_enqueue handles atMs input)
  | declareExternalMonitorBlindness atMs state detail =>
    exact follows_discard (follows_declareExternalMonitorBlindness handles atMs state detail)
  | runUntil now => exact follows_discard (follows_runUntil handles now)

end Calls

end ConstellationMonitor.Runtime

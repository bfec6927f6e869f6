/-
  The loop of `run_until`: it ends, it leaves nothing due, and so no stale positive.

  Each round takes one pending input or one due deadline away, and no step adds either: a
  certificate issued at `now` expires after `now`.
-/
import ConstellationMonitor.Runtime.Deadlines

namespace ConstellationMonitor.Runtime

open Foundation Foundation.Program ConstellationMonitor.Types Evaluation
open Std (ExtTreeMap ExtTreeSet)
open Relation (ReflTransGen)

/-! ## The work left to do -/

/-- The deadlines that are due at a time. -/
def RuntimeCore.dueSchedules (core : RuntimeCore) (now : Nat) : Finset ScheduleKey :=
  (core.schedules.toList.filter fun schedule =>
    decide (schedule.deadlineMonotonicMs ≤ now)).toFinset

@[simp] theorem RuntimeCore.mem_dueSchedules (core : RuntimeCore) (now : Nat)
    (schedule : ScheduleKey) : schedule ∈ core.dueSchedules now ↔
      schedule ∈ core.schedules ∧ schedule.deadlineMonotonicMs ≤ now := by
  simp [RuntimeCore.dueSchedules, ExtTreeSet.mem_toList]

/-- How much the loop has left to do. -/
def RuntimeCore.workload (core : RuntimeCore) (now : Nat) : Nat :=
  core.pending.size + (core.dueSchedules now).card

theorem RuntimeCore.workload_le_loopBound (core : RuntimeCore) (now : Nat) :
    core.workload now ≤ core.loopBound := by
  have hlist : (core.dueSchedules now).card ≤ core.schedules.toList.length :=
    (List.toFinset_card_le _).trans (List.length_filter_le _ _)
  rw [ExtTreeSet.length_toList] at hlist
  unfold RuntimeCore.workload RuntimeCore.loopBound
  omega

/-- Nothing was added to what is due. -/
structure Dwindles (now : Nat) (before after : Board) : Prop where
  pending : after.pending = before.pending
  schedules : ∀ schedule ∈ after.schedules, schedule.deadlineMonotonicMs ≤ now →
    schedule ∈ before.schedules
  clock : after.currentMonotonicMs = before.currentMonotonicMs

namespace Dwindles

variable {now : Nat} {first second third : Board}

theorem refl (board : Board) : Dwindles now board board := ⟨rfl, fun _ h _ => h, rfl⟩

theorem trans (left : Dwindles now first second) (right : Dwindles now second third) :
    Dwindles now first third where
  pending := right.pending.trans left.pending
  schedules schedule hin hdue := left.schedules schedule (right.schedules schedule hin hdue) hdue
  clock := right.clock.trans left.clock

theorem workload_le (dwindles : Dwindles now first second) :
    second.workload now ≤ first.workload now := by
  have hcard : (second.dueSchedules now).card ≤ (first.dueSchedules now).card := by
    refine Finset.card_le_card fun schedule hin => ?_
    rw [RuntimeCore.mem_dueSchedules] at hin ⊢
    exact ⟨dwindles.schedules schedule hin.1 hin.2, hin.2⟩
  have hpending := congrArg ExtTreeMap.size dwindles.pending
  unfold RuntimeCore.workload
  omega

end Dwindles

section Dwindling

variable {host : Host} {now : Nat} {before after : Board}

theorem Visited.dwindles {visit : Visit} (visited : Visited host visit before after)
    (timely : now ≤ before.currentMonotonicMs) : Dwindles now before after where
  pending := visited.frame_start.pending
  schedules schedule hin hdue := by
    by_cases howner : schedule.owner = visit.key
    · -- the visited consumer's deadline lies in the future
      have hfuture := (visited.scheduled_iff howner).2 hin
      have hvisit := visited.timely
      have hclock := visited.lead.currentMonotonicMs
      omega
    · exact (visited.schedules_start howner).mp hin
  clock := visited.frame_start.currentMonotonicMs

theorem visits_dwindles (visits : ReflTransGen (Visits host) before after)
    (timely : now ≤ before.currentMonotonicMs) : Dwindles now before after := by
  induction visits with
  | refl => exact .refl _
  | tail _ hlast ih =>
    obtain ⟨visit, ⟨visited⟩⟩ := hlast
    exact ih.trans (visited.dwindles (timely.trans ih.clock.ge))

theorem calm_dwindles (calm : Calm host before after) (timely : now ≤ before.currentMonotonicMs) :
    Dwindles now before after := by
  cases calm with
  | noted noted =>
    obtain ⟨full, rfl⟩ := noted
    exact ⟨rfl, fun _ h _ => h, rfl⟩
  | beside absent aside =>
    exact ⟨aside.pending, fun schedule h _ => aside.shrinks schedule h,
      aside.currentMonotonicMs⟩
  | released schedule stale => exact ⟨rfl, fun _ h _ => ExtTreeSet.mem_of_mem_erase h, rfl⟩
  | surveyed subjects same => exact ⟨rfl, fun _ h _ => h, rfl⟩
  | visited visit visited => exact visited.dwindles timely
  | enrolled registration evaluator absent unexhausted made => exact ⟨rfl, fun _ h _ => h, rfl⟩
  | reinstated key state records evaluator found made => exact ⟨rfl, fun _ h _ => h, rfl⟩

theorem step_dwindles (step : Step host before after)
    (timely : now ≤ before.currentMonotonicMs) : Dwindles now before after := by
  cases step with
  | calm calm => exact calm_dwindles calm timely
  | pulsed delivery due fits => exact ⟨rfl, fun _ h _ => h, rfl⟩
  | annotated receiver => exact ⟨rfl, fun _ h _ => h, rfl⟩
  | replaced subject replacement receiver => exact ⟨rfl, fun _ h _ => h, rfl⟩
  | latched exhausted visits all =>
    have hflag : Dwindles now before { before with historyBlindnessLatched := true } :=
      ⟨rfl, fun _ h _ => h, rfl⟩
    exact hflag.trans (visits_dwindles visits timely)

theorem steps_dwindle (steps : ReflTransGen (Step host) before after)
    (timely : now ≤ before.currentMonotonicMs) : Dwindles now before after := by
  induction steps with
  | refl => exact .refl _
  | tail _ hlast ih => exact ih.trans (step_dwindles hlast (timely.trans ih.clock.ge))

end Dwindling

/-! ## The loop -/

section Loop

variable {host : Host} {now : Nat} {cycle next : Cycle}

/-- One round of the loop: take what is due off its queue and process it. -/
def takeUp (host : Host) (now : Nat) : Due → RuntimeM Unit
  | .pending key input => do
    modify (Cycle.take key input)
    processInput host key.atMonotonicMs key.ingressOrdinal input now
  | .deadline schedule => do
    modify fun cycle => { cycle with schedules := cycle.schedules.erase schedule }
    processDeadline host schedule now

theorem runLoop_idle (fuel : Nat) (idle : cycle.nextDue now = none) :
    runLoop host now (fuel + 1) cycle = .ok () cycle := by
  unfold runLoop
  rw [get_bind_apply, idle]
  rfl

variable {due : Due} {schedule : ScheduleKey} {fuel : Nat}

theorem runLoop_busy (fuel : Nat) (busy : cycle.nextDue now = some due) :
    runLoop host now (fuel + 1) cycle =
      (takeUp host now due >>= fun _ => runLoop host now fuel) cycle := by
  conv_lhs => unfold runLoop
  rw [get_bind_apply, busy]
  cases due <;> simp only [takeUp, bind_assoc]

theorem runLoop_ok (fuel : Nat) (busy : cycle.nextDue now = some due)
    (hrun : takeUp host now due cycle = .ok () next) :
    runLoop host now (fuel + 1) cycle = runLoop host now fuel next := by
  rw [runLoop_busy fuel busy, bind_apply, hrun]

theorem runLoop_error (fuel : Nat) {stop : Stop} (busy : cycle.nextDue now = some due)
    (hrun : takeUp host now due cycle = .error stop next) :
    runLoop host now (fuel + 1) cycle = .error stop next := by
  rw [runLoop_busy fuel busy, bind_apply, hrun]

/-- Processing a deadline that was taken off adds nothing to what is due. -/
theorem processDeadline_dwindles (hrun : processDeadline host schedule now cycle = .ok () next)
    (clock : cycle.currentMonotonicMs = now) : Dwindles now cycle.board next.board := by
  unfold processDeadline at hrun
  rw [get_bind_apply] at hrun
  cases hfound : cycle.consumers[schedule.owner]? with
  | none =>
    obtain rfl : cycle = next := by simpa [hfound] using hrun
    exact .refl _
  | some state =>
    simp only [hfound] at hrun
    split at hrun
    · obtain rfl : cycle = next := by simpa using hrun
      exact .refl _
    · obtain ⟨visited⟩ := visited_of_ok hrun
        (discreet_after host _ state fun _ => .of_noted (noted_noteDeadline schedule _))
        hfound trivial clock.le
      exact visited.dwindles clock.ge

/-- Taking an input off the queue is progress. -/
theorem workload_take_pending {core : RuntimeCore} {key : PendingKey} {input : RuntimeInputV1}
    (found : core.pending[key]? = some input) :
    ({ core with pending := core.pending.erase key } : RuntimeCore).workload now <
      core.workload now := by
  have hmem : core.pending.contains key = true := by
    rw [ExtTreeMap.contains_iff_mem, ExtTreeMap.mem_iff_isSome_getElem?, found]
    rfl
  have hpos : 0 < core.pending.size := by
    rw [Nat.pos_iff_ne_zero]
    intro hzero
    rw [← ExtTreeMap.eq_empty_iff_size_eq_zero] at hzero
    simp [hzero] at hmem
  have hsize : (core.pending.erase key).size = core.pending.size - 1 := by
    rw [ExtTreeMap.size_erase, if_pos hmem]
  show (core.pending.erase key).size + _ < core.pending.size + _
  rw [hsize]
  exact Nat.add_lt_add_right (Nat.sub_lt hpos Nat.one_pos) _

/-- Taking a due deadline off the schedule is progress. -/
theorem workload_take_deadline {core : RuntimeCore} (found : schedule ∈ core.schedules)
    (due : schedule.deadlineMonotonicMs ≤ now) :
    ({ core with schedules := core.schedules.erase schedule } : RuntimeCore).workload now <
      core.workload now := by
  refine Nat.add_lt_add_left (Finset.card_lt_card ?_) _
  rw [Finset.ssubset_iff_of_subset]
  · refine ⟨schedule, (core.mem_dueSchedules now schedule).mpr ⟨found, due⟩, ?_⟩
    simp
  · intro other hother
    rw [RuntimeCore.mem_dueSchedules] at hother ⊢
    exact ⟨ExtTreeSet.mem_of_mem_erase hother.1, hother.2⟩

/-- A round leaves less to do, at the same clock. -/
theorem takeUp_progress (taken : cycle.nextDue now = some due)
    (clock : cycle.currentMonotonicMs = now) (hrun : takeUp host now due cycle = .ok () next) :
    next.workload now < cycle.workload now ∧ next.currentMonotonicMs = now := by
  have hdue := nextDue_eq_some taken
  cases due with
  | pending key input =>
    have hinput : Follows (discipline (Step host) (Loses host)) (processInput host
        key.atMonotonicMs key.ingressOrdinal input now) (cycle.take key input) :=
      follows_taken handles_step clock.le
    have hdwindles : Dwindles now _ next.board := steps_dwindle (hinput.of_ok hrun) clock.ge
    exact ⟨hdwindles.workload_le.trans_lt (workload_take_pending hdue.1),
      hdwindles.clock.trans clock⟩
  | deadline schedule =>
    have hdwindles := processDeadline_dwindles hrun clock
    exact ⟨hdwindles.workload_le.trans_lt (workload_take_deadline hdue.1 hdue.2),
      hdwindles.clock.trans clock⟩

/-- A round does not run out of rounds. -/
theorem takeUp_fuel {stop : Stop} (clock : cycle.currentMonotonicMs = now)
    (hrun : takeUp host now due cycle = .error stop next) : stop ≠ .outOfFuel := by
  cases due with
  | pending key input =>
    have hinput : Follows (discipline (Step host) (Loses host)) (processInput host
        key.atMonotonicMs key.ingressOrdinal input now) (cycle.take key input) :=
      follows_taken handles_step clock.le
    exact (hinput.of_error hrun).1
  | deadline schedule =>
    exact ((@followsFrom_processDeadline host _ _ cycle admits_step schedule now
      clock.le).of_error hrun).1

/-- With more rounds than there is work, the loop never runs out of them. -/
theorem runLoop_ends (clock : cycle.currentMonotonicMs = now) (enough : cycle.workload now < fuel) :
    runLoop host now fuel cycle ≠ .error .outOfFuel next := by
  -- by induction on the rounds: each one leaves less work and the same clock
  induction fuel generalizing cycle with
  | zero => omega
  | succ fuel ih =>
    cases hdue : cycle.nextDue now with
    | none => simp [runLoop_idle fuel hdue]
    | some due =>
      cases hrun : takeUp host now due cycle with
      | error stop last =>
        have hstop := takeUp_fuel clock hrun
        simp [runLoop_error fuel hdue hrun, hstop]
      | ok value last =>
        obtain ⟨hless, hclock⟩ := takeUp_progress hdue clock hrun
        rw [runLoop_ok fuel hdue hrun]
        exact ih hclock (by omega)

/-- Rounds beyond the work to be done change nothing. -/
theorem runLoop_more {more : Nat} (clock : cycle.currentMonotonicMs = now)
    (enough : cycle.workload now < fuel) (hmore : fuel ≤ more) :
    runLoop host now more cycle = runLoop host now fuel cycle := by
  induction fuel generalizing cycle more with
  | zero => omega
  | succ fuel ih =>
    obtain ⟨rest, rfl⟩ : ∃ rest, more = rest + 1 := ⟨more - 1, by omega⟩
    cases hdue : cycle.nextDue now with
    | none => rw [runLoop_idle fuel hdue, runLoop_idle rest hdue]
    | some due =>
      cases hrun : takeUp host now due cycle with
      | error stop last => rw [runLoop_error fuel hdue hrun, runLoop_error rest hdue hrun]
      | ok value last =>
        obtain ⟨hless, hclock⟩ := takeUp_progress hdue clock hrun
        rw [runLoop_ok fuel hdue hrun, runLoop_ok rest hdue hrun]
        exact ih hclock (by omega) (by omega)

/-- A loop that returned has nothing left that is due. -/
theorem runLoop_settles (hrun : runLoop host now fuel cycle = .ok () next) :
    next.nextDue now = none := by
  induction fuel generalizing cycle with
  | zero => cases hrun
  | succ fuel ih =>
    cases hdue : cycle.nextDue now with
    | none =>
      rw [runLoop_idle fuel hdue] at hrun
      cases hrun
      exact hdue
    | some due =>
      cases htaken : takeUp host now due cycle with
      | error stop last =>
        rw [runLoop_error fuel hdue htaken] at hrun
        cases hrun
      | ok value last =>
        rw [runLoop_ok fuel hdue htaken] at hrun
        exact ih hrun

/-! ## `run_until` -/

/-- The state the loop of `run_until` starts in. -/
def Cycle.loopStart (now : Nat) (cycle : Cycle) : Cycle :=
  (cycle.beginCall.advance now).takePendingOutput

/-- The end of `run_until` leaves the board alone or latches every consumer. -/
theorem latchIfExhausted_cases (looped : Cycle) :
    (looped.latchIfExhausted host now).board = looped.board ∨
      ∃ start : Board, start.pending = looped.pending ∧ start.schedules = looped.schedules ∧
        Latches host (start.consumerKeys none) start (looped.latchIfExhausted host now).board := by
  unfold Cycle.latchIfExhausted
  split
  · unfold Cycle.latchHistoryBlindness
    split
    · exact .inl rfl
    · exact .inr ⟨_, rfl, rfl, latches_latchBlindAll host now _
        { looped with historyBlindnessLatched := true }⟩
  · exact .inl rfl

/-- A refusal that blinds is noted, and then every consumer is latched. -/
theorem latches_refuseBlind (report : RefusalReport) (atMs : Nat) (detail : Text) (cycle : Cycle) :
    ∃ start : Board, Noted cycle.board start ∧ Latches host (start.consumerKeys none) start
      (cycle.refuseBlind host report atMs detail).2.board :=
  ⟨_, Cycle.noted_stageRefusal host (cycle.refusal report).2 (cycle.refusal report).1,
    latches_latchBlindAll host atMs detail _⟩

/-- A call that returned either found its time regressed and latched every consumer, or
ran the loop to its end. -/
theorem runUntil_ok {output : RuntimeCycleOutputV1}
    (hrun : runUntil host now cycle = .ok output next) :
    (now < cycle.currentMonotonicMs ∧ ∃ start : Board, Noted cycle.board start ∧
      Latches host (start.consumerKeys none) start next.board) ∨
    cycle.currentMonotonicMs ≤ now ∧ ∃ looped,
      runLoop host now (cycle.loopBound + 1) (cycle.loopStart now) = .ok () looped ∧
        next = looped.latchIfExhausted host now := by
  unfold runUntil at hrun
  simp only [modify_bind_apply, get_bind_apply] at hrun
  split at hrun
  · rename_i hregressed
    left
    simp only [modify_bind_apply, get_bind_apply, pure_apply] at hrun
    obtain ⟨-, rfl⟩ : _ ∧ _ = next := by simpa using hrun
    exact ⟨hregressed, latches_refuseBlind _ _ _ cycle.beginCall⟩
  · rename_i hlater
    right
    refine ⟨not_lt.mp hlater, ?_⟩
    simp only [modify_bind_apply] at hrun
    obtain ⟨_, looped, hloop, hrun⟩ := (bind_eq_ok _ _ _ _ _).mp hrun
    simp only [modify_bind_apply, get_bind_apply, pure_apply] at hrun
    obtain ⟨-, rfl⟩ : _ ∧ _ = next := by simpa using hrun
    exact ⟨looped, hloop, rfl⟩

/-- After a loop that returned, nothing is due, whether or not history was latched. -/
theorem nothing_due {looped : Cycle}
    (hloop : runLoop host now fuel (cycle.loopStart now) = .ok () looped) :
    (∀ (key : PendingKey) (input : RuntimeInputV1),
      (looped.latchIfExhausted host now).board.pending[key]? = some input →
        now < key.atMonotonicMs) ∧ ∀ schedule ∈ (looped.latchIfExhausted host now).board.schedules,
        now < schedule.deadlineMonotonicMs := by
  obtain ⟨hpending, hschedules⟩ := nextDue_eq_none (runLoop_settles hloop)
  rcases @latchIfExhausted_cases host now looped with hboard | ⟨start, hstart, hkept, latches⟩
  · rw [hboard]
    exact ⟨hpending, hschedules⟩
  · have hqueue := (visits_frame latches.visits).pending
    refine ⟨fun key input hfound => ?_, fun schedule hin => ?_⟩
    · rw [hqueue, hstart] at hfound
      exact hpending key input hfound
    · have hstill := ((latches.schedules schedule).mp hin).1
      rw [hkept] at hstill
      exact hschedules schedule hstill

end Loop

/-- The state a well-returned `run_until` leaves is reachable. -/
theorem reachable_runUntil {host : Host} {now : Nat} {cycle next : Cycle}
    {output : RuntimeCycleOutputV1} (reachable : Reachable host cycle)
    (hrun : runUntil host now cycle = .ok output next) : Reachable host next := by
  refine reachable.next (.runUntil now) ?_
  have hdiscard := discard_apply (runUntil host now) cycle
  rw [hrun] at hdiscard
  exact Succeeds.returns hdiscard

/-- The deadlines a regressed `run_until` leaves are those of keys without a consumer. -/
theorem mem_schedules_of_regressed {host : Host} {cycle next : Cycle} {start : Board}
    (noted : Noted cycle.board start)
    (latches : Latches host (start.consumerKeys none) start next.board) (schedule : ScheduleKey) :
    schedule ∈ next.schedules ↔
      schedule ∈ cycle.schedules ∧ cycle.consumers[schedule.owner]? = none := by
  obtain ⟨full, rfl⟩ := noted
  have hkept := latches.schedules schedule
  rw [RuntimeCore.mem_consumerKeys_none] at hkept
  have hboard : schedule ∈ next.schedules ↔ schedule ∈ cycle.schedules ∧
      (cycle.consumers[schedule.owner]?.isSome = true →
        cycle.consumers[schedule.owner]? = none) := hkept
  rw [hboard]
  cases hfound : cycle.consumers[schedule.owner]? <;> simp

/-- `run_until` ends; when it returns `Ok` no CURRENT certificate has expired and, unless
time regressed, no input is left that is due.  Nor is a deadline, unless time regressed and
a deadline of a key without a consumer was there before. -/
theorem run_until_leaves_no_stale_positive (host : Host) (cycle : Cycle) (now : Nat)
    (reachable : Reachable host cycle) :
    (cycle.currentMonotonicMs ≤ now → ∀ fuel, cycle.loopBound < fuel →
      runLoop host now fuel (cycle.loopStart now) =
          runLoop host now (cycle.loopBound + 1) (cycle.loopStart now) ∧
        ∀ next, runLoop host now fuel (cycle.loopStart now) ≠ .error .outOfFuel next) ∧
    ∀ output next, runUntil host now cycle = .ok output next →
      (∀ (key : ConsumerKey) (state : ConsumerState) certificate,
        next.consumers[key]? = some state → state.certificate = some certificate →
        certificate.judgment = .current →
        ∃ deadline, certificate.earliestSupportExpiryMonotonicMs = some deadline ∧ now < deadline) ∧
      (cycle.currentMonotonicMs ≤ now → ∀ (key : PendingKey) (input : RuntimeInputV1),
        next.pending[key]? = some input → now < key.atMonotonicMs) ∧
      ((∀ schedule ∈ next.schedules, now < schedule.deadlineMonotonicMs) ↔
        ¬ (now < cycle.currentMonotonicMs ∧ ∃ schedule ∈ cycle.schedules,
          schedule.deadlineMonotonicMs ≤ now ∧ cycle.consumers[schedule.owner]? = none)) := by
  refine ⟨fun _ fuel hfuel => ?_, fun output next hrun => ?_⟩
  · have hwork : (cycle.loopStart now).workload now ≤ cycle.loopBound :=
      cycle.workload_le_loopBound now
    exact ⟨runLoop_more rfl (Nat.lt_succ_of_le hwork) hfuel,
      fun next => runLoop_ends rfl (hwork.trans_lt hfuel)⟩
  · rcases runUntil_ok hrun with ⟨hregressed, start, hnoted, latches⟩ |
      ⟨hlater, looped, hloop, rfl⟩
    · refine ⟨fun key state certificate hfound hstored hcurrent => ?_, fun hlater => ?_, ?_⟩
      · -- every consumer that is left was latched
        have hwithdrawn := (latches.all hfound).withdrawn
        simp [ConsumerState.holdsCurrent, hstored, hcurrent] at hwithdrawn
      · omega
      · simp only [mem_schedules_of_regressed hnoted latches, hregressed, true_and, not_exists,
          not_and, and_imp]
        refine forall_congr' fun schedule => ⟨fun h hin hdue habsent => ?_, fun h hin habsent => ?_⟩
        · exact absurd (h hin habsent) (not_lt.mpr hdue)
        · exact not_le.mp fun hdue => h hin hdue habsent
    · obtain ⟨hpending, hschedules⟩ := nothing_due hloop
      refine ⟨fun key state certificate hfound hstored hcurrent => ?_,
        fun _ key input hfound => hpending key input hfound, ?_⟩
      · -- the deadline of a CURRENT certificate is scheduled, and nothing scheduled is due
        have hbacked := backed_of_reachable (reachable_runUntil reachable hrun) key
        obtain ⟨deadline, hdeadline⟩ :=
          (hbacked.holds state certificate hfound hstored).deadline.mp hcurrent
        refine ⟨deadline, hdeadline, ?_⟩
        exact hschedules _ (hbacked.scheduled state
          ⟨deadline, key.subject, key.consumer, state.context.activationId⟩ hfound rfl
          ⟨⟨certificate, hstored, hdeadline⟩, rfl⟩)
      · refine iff_of_true hschedules fun hregressed => ?_
        omega

open Reference

theorem run_until_leaves_no_stale_positive_reference : Reachable host current ∧
      ∀ output next, runUntil host 100 current = .ok output next →
        ∀ (key : ConsumerKey) (state : ConsumerState) certificate,
          next.consumers[key]? = some state → state.certificate = some certificate →
          certificate.judgment = .current →
          ∃ deadline, certificate.earliestSupportExpiryMonotonicMs = some deadline ∧
            100 < deadline :=
  ⟨reachableOk_current.reachable, fun output next hrun =>
    ((run_until_leaves_no_stale_positive host current 100
      reachableOk_current.reachable).2 output next hrun).1⟩

/-- Whether `run_until` returns and leaves a deadline that is due. -/
def leavesDeadline (now : Nat) (cycle : Cycle) : Bool :=
  match runUntil host now cycle with
  | .ok _ next => next.schedules.toList.any fun schedule =>
    decide (schedule.deadlineMonotonicMs ≤ now)
  | .error _ _ => false

/-- A pulse its evaluator refuses loses the consumer and leaves its deadline behind; a later
`run_until` whose time regressed returns `Ok` with the deadline still there. -/
theorem run_until_leaves_lost_deadline : ∃ cycle, Reachable host cycle ∧ ∃ output next,
      runUntil host 150 cycle = .ok output next ∧
        ∃ schedule ∈ next.schedules, schedule.deadlineMonotonicMs ≤ 150 := by
  obtain ⟨cycle, hreachable, htest⟩ := exists_reachable host
    config (opening ++
      [.enqueue 50 (.pulse { ingress (frame "a" 2) with transportPath := "" }),
        .runUntil 200])
    (leavesDeadline 150) (by decide +kernel)
  refine ⟨cycle, hreachable, ?_⟩
  unfold leavesDeadline at htest
  cases hrun : runUntil host 150 cycle with
  | error stop next => simp [hrun] at htest
  | ok output next =>
    simp only [hrun, List.any_eq_true, decide_eq_true_eq, ExtTreeSet.mem_toList] at htest
    exact ⟨output, next, rfl, htest⟩

end ConstellationMonitor.Runtime

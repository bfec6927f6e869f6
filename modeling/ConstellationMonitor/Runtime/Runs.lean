/-
  Runs of the runtime: how a runtime comes to be, and the induction over everything that
  can happen to it.
-/
import ConstellationMonitor.Runtime.Refinement

namespace ConstellationMonitor.Runtime

open Foundation Foundation.Program ConstellationMonitor.Types Evaluation
open Std (ExtTreeSet)
open Relation (ReflTransGen)

/-! ## Registration -/

/-- The barrier a registration raises. -/
def registrationBarrier : ReevaluationBarrierV1 :=
  .generationTransition "initial exact reliance context activated; no prior standing exists"

/-- A registration that succeeded. -/
structure Registers (host : Host) (registration : ConsumerRegistrationV1) (atMs : Nat)
    (start last : Board) where
  evaluator : Evaluator
  absent : start.consumers[policyKey registration.policy]? = none
  unexhausted : start.historyExhausted = false
  later : start.currentMonotonicMs ≤ atMs
  valid : registration.validate host.sha256 = .ok ()
  made : start.newEvaluator registration = .ok evaluator
  visited : Visited host
    (.at (policyKey registration.policy) (.barrier registrationBarrier) atMs)
    (({ start with currentMonotonicMs := atMs } : Board).enrolled registration evaluator) last

section Registration

variable {host : Host} {cycle : Cycle}

variable {registration : ConsumerRegistrationV1}

theorem registers_of_ok {atMs : Nat} {output : RuntimeCycleOutputV1} {next : Cycle}
    (hrun : registerConsumer host registration atMs cycle = .ok output next) :
    Nonempty (Registers host registration atMs cycle.board next.board) := by
  unfold registerConsumer registerInTime at hrun
  rw [modify_bind_apply] at hrun
  obtain ⟨_, opened, hopened, hrun⟩ := (bind_eq_ok _ _ _ _ _).mp hrun
  obtain ⟨rfl, hexhausted⟩ := failIfExhausted_eq_ok hopened
  obtain ⟨_, timed, htimed, hrun⟩ := (bind_eq_ok _ _ _ _ _).mp hrun
  obtain ⟨rfl, hlater⟩ := ensureTimeNotRegressed_eq_ok htimed
  obtain ⟨_, valid, hvalid, hrun⟩ := (bind_eq_ok _ _ _ _ _).mp hrun
  obtain ⟨hregistration, rfl⟩ := orFail_eq_ok hvalid
  obtain ⟨_, checked, hchecked, hrun⟩ := (bind_eq_ok _ _ _ _ _).mp hrun
  obtain ⟨rfl, habsent⟩ := checkRegistration_eq_ok hchecked
  rw [get_bind_apply] at hrun
  cases hmade : ({ cycle.beginCall with currentMonotonicMs := atMs } : Cycle).newEvaluator
      registration with
  | error error => rw [hmade] at hrun; cases hrun
  | ok evaluator =>
    rw [hmade] at hrun
    simp only [modify_bind_apply] at hrun
    obtain ⟨_, visited, hvisited, hrun⟩ := (bind_eq_ok _ _ _ _ _).mp hrun
    obtain ⟨-, rfl⟩ : _ ∧ visited = next := by simpa using hrun
    obtain ⟨visited⟩ := visited_of_ok hvisited (discreet_after host _ _ fun cycle =>
      .of_noted (cycle.noted_recordContextTransition host _ _ _ _ _ _))
      (enrol_found registration evaluator) trivial le_rfl
    exact ⟨⟨evaluator, habsent, hexhausted, hlater, hregistration, hmade, visited⟩⟩

/-- A registration takes turns and sets the clock. -/
theorem Registers.turns {step loss : Board → Board → Prop} (admits : Admits host step loss)
    {atMs : Nat} {start last : Board} (registers : Registers host registration atMs start last) :
    ReflTransGen (Turn step) start last ∧ last.currentMonotonicMs = atMs := by
  refine ⟨?_, registers.visited.frame_start.currentMonotonicMs⟩
  have hticked : Turn step start { start with currentMonotonicMs := atMs } :=
    .ticked atMs registers.later
  have henrolled : step { start with currentMonotonicMs := atMs }
      (({ start with currentMonotonicMs := atMs } : Board).enrolled registration
        registers.evaluator) :=
    admits.calm _ _ (.enrolled registration registers.evaluator registers.absent
      registers.unexhausted registers.made)
  exact ((ReflTransGen.single hticked).tail (.step henrolled)).tail
    (.step (admits.visit _ _ ⟨_, ⟨registers.visited⟩⟩))

end Registration

/-! ## Recovery -/

section Recovery

variable {host : Host} {step loss : Board → Board → Prop} {cycle next : Cycle}

variable {atMs : Nat} {custodies : List ContradictionCustodyV1}
  {registrations : List ConsumerRegistrationV1}

theorem recoverConsumer_ok {prior : ExtTreeSet ContextActivationId}
    {registration : ConsumerRegistrationV1}
    (hrun : recoverConsumer host prior atMs registration cycle = .ok () next) :
    prior.contains registration.context.activationId = false ∧
      Nonempty (Registers host registration atMs cycle.board next.board) := by
  unfold recoverConsumer at hrun
  split at hrun
  · cases hrun
  · rename_i hfresh
    rw [get_bind_apply] at hrun
    obtain ⟨output, registered, hregistered, hrun⟩ := (bind_eq_ok _ _ _ _ _).mp hrun
    obtain rfl : _ = next := by simpa using hrun
    have hregisters := registers_of_ok hregistered
    exact ⟨Bool.eq_false_iff.mpr hfresh, hregisters⟩

theorem reinstateRecords_ok {entry : ConsumerKey × List ContradictionRecordV1}
    (hrun : reinstateRecords entry cycle = .ok () next) :
    ∃ state evaluator, cycle.consumers[entry.1]? = some state ∧
      state.evaluator.importContradictions entry.2 = .ok evaluator ∧
      next = cycle.putConsumer entry.1 { state with evaluator := evaluator } := by
  unfold reinstateRecords at hrun
  rw [get_bind_apply] at hrun
  cases hfound : cycle.consumers[entry.1]? with
  | none => rw [hfound] at hrun; cases hrun
  | some state =>
    rw [hfound] at hrun
    dsimp only at hrun
    cases hmade : state.evaluator.importContradictions entry.2 with
    | error error => rw [hmade] at hrun; cases hrun
    | ok evaluator =>
      rw [hmade] at hrun
      exact ⟨state, evaluator, rfl, hmade, by simpa using hrun.symm⟩

/-- The barrier recovery raises for every consumer. -/
def restartBarrier : ReevaluationBarrierV1 :=
  .receiverRestart "historical custody was recovered without hot evidence or current standing"

theorem barRestart_ok {key : ConsumerKey} (timely : cycle.currentMonotonicMs ≤ atMs)
    (hrun : barRestart host atMs key cycle = .ok () next) :
    Nonempty (Visited host (.at key (.barrier restartBarrier) atMs) cycle.board next.board) := by
  unfold barRestart at hrun
  rw [get_bind_apply] at hrun
  cases hfound : cycle.consumers[key]? with
  | none => rw [hfound] at hrun; cases hrun
  | some state =>
    rw [hfound] at hrun
    exact visited_of_ok hrun (discreet_after host key state fun _ => .refl _) hfound trivial
      timely

/-- The stages of a recovery: registrations, records, barriers, bookkeeping. -/
theorem recoverInto_ok (hrun : recoverInto host registrations custodies atMs cycle = .ok () next) :
    ∃ registered reinstated barred,
      forM registrations (recoverConsumer host cycle.historicalActivationIds atMs) cycle =
        .ok () registered ∧
      forM (groupBlocking custodies).toList reinstateRecords registered = .ok () reinstated ∧
      forM (reinstated.consumerKeys none) (barRestart host atMs) reinstated = .ok () barred ∧
      Noted barred.board next.board := by
  unfold recoverInto at hrun
  rw [get_bind_apply] at hrun
  obtain ⟨_, registered, hregistered, hrun⟩ := (bind_eq_ok _ _ _ _ _).mp hrun
  obtain ⟨_, reinstated, hreinstated, hrun⟩ := (bind_eq_ok _ _ _ _ _).mp hrun
  rw [get_bind_apply] at hrun
  obtain ⟨_, barred, hbarred, hrun⟩ := (bind_eq_ok _ _ _ _ _).mp hrun
  simp only [get_bind_apply, modify_bind_apply, modify_apply] at hrun
  refine ⟨registered, reinstated, barred, hregistered, hreinstated, hbarred, ?_⟩
  cases hrun
  exact barred.noted_recordSparse host atMs _

theorem turns_recoverInto (handles : Handles host step loss)
    (hrun : recoverInto host registrations custodies atMs cycle = .ok () next)
    (timely : cycle.currentMonotonicMs ≤ atMs) :
    ReflTransGen (Turn step) cycle.board next.board := by
  have admits := handles.toAdmits
  obtain ⟨registered, reinstated, barred, hregistered, hreinstated, hbarred, hnoted⟩ :=
    recoverInto_ok hrun
  -- each stage takes turns and leaves the clock no later than the restart
  let reached : Cycle → Prop := fun state =>
    ReflTransGen (Turn step) cycle.board state.board ∧ state.currentMonotonicMs ≤ atMs
  have hfirst : reached registered := by
    refine forM_keeps_ok reached (fun registration _ state next hround hstate => ?_) hregistered
      ⟨.refl, timely⟩
    obtain ⟨-, ⟨registers⟩⟩ := recoverConsumer_ok hround
    obtain ⟨hturns, hclock⟩ := registers.turns admits
    exact ⟨hstate.1.trans hturns, hclock.le⟩
  have hsecond : reached reinstated := by
    refine forM_keeps_ok reached (fun entry _ state next hround hstate => ?_) hreinstated hfirst
    obtain ⟨found, evaluator, hfound, hmade, rfl⟩ := reinstateRecords_ok hround
    exact ⟨hstate.1.tail (.step (admits.calm _ _ (.reinstated entry.1 found entry.2 evaluator
      hfound hmade))), hstate.2⟩
  have hthird : reached barred := by
    refine forM_keeps_ok reached (fun key _ state next hround hstate => ?_) hbarred hsecond
    obtain ⟨visited⟩ := barRestart_ok hstate.2 hround
    refine ⟨hstate.1.tail (.step (admits.visit _ _ ⟨_, ⟨visited⟩⟩)), ?_⟩
    exact visited.frame_start.currentMonotonicMs.le.trans hstate.2
  exact hthird.1.trans (turns_steps (admits.noted hnoted))

end Recovery

/-! ## Reachable runtimes -/

variable {config : RuntimeConfigV1} {runtime : ReceiverSchedulerRuntime}

/-- A new runtime has done nothing yet. -/
theorem fresh_new (made : ReceiverSchedulerRuntime.new config = .ok runtime) :
    Fresh ({ toReceiverSchedulerRuntime := runtime } : Cycle).board ∧
      runtime.currentMonotonicMs = 0 := by
  simp only [ReceiverSchedulerRuntime.new, check_bind_eq_ok] at made
  obtain ⟨-, made⟩ := made
  cases made
  exact ⟨by constructor <;> rfl, rfl⟩

theorem rememberTransition_core {next : ReceiverSchedulerRuntime} {event : SparseDurableEventV1}
    (hrun : rememberTransition runtime event = .ok next) :
    next.toRuntimeCore = runtime.toRuntimeCore := by
  unfold rememberTransition at hrun
  split at hrun
  · simp only [check_bind_eq_ok] at hrun
    obtain ⟨-, hrun⟩ := hrun
    cases hrun
    rfl
  · cases hrun
    rfl

/-- A restored runtime is fresh but for the history it holds. -/
theorem fresh_restored {history : RuntimeHistoricalStateV1}
    (made : restoredRuntime config history = .ok runtime) :
    Fresh ({ toReceiverSchedulerRuntime := runtime } : Cycle).board ∧
      runtime.currentMonotonicMs = 0 := by
  simp only [restoredRuntime, except_bind_eq_ok] at made
  obtain ⟨_, -, _, -, _, -, first, hfirst, hrest⟩ := made
  obtain ⟨hfresh, hclock⟩ := fresh_new hfirst
  have hcore : runtime.toRuntimeCore =
      { first.toRuntimeCore with historicalContradictions := history.contradictions } :=
    foldlM_keeps_ok (fun runtime : ReceiverSchedulerRuntime => runtime.toRuntimeCore =
        { first.toRuntimeCore with historicalContradictions := history.contradictions })
      (fun _ _ _ hround hkept => (rememberTransition_core hround).trans hkept) hrest rfl
  have hboard : ({ toReceiverSchedulerRuntime := runtime } : Cycle).board =
      { ({ toReceiverSchedulerRuntime := first } : Cycle).board with
        historicalContradictions := history.contradictions } :=
    congrArg (fun core : RuntimeCore => (⟨core, []⟩ : Board)) hcore
  rw [hboard]
  refine ⟨?_, (congrArg RuntimeCore.currentMonotonicMs hcore).trans hclock⟩
  exact ⟨hfresh.subjects, hfresh.consumers, hfresh.remoteObservationCustody, hfresh.pending,
    hfresh.schedules, hfresh.requestOwners, hfresh.historyExhausted,
    hfresh.historyBlindnessLatched, hfresh.receiver, hfresh.trail⟩

section Reachable

variable {host : Host} {step loss : Board → Board → Prop} {cycle : Cycle}

/-- Every runtime starts on a fresh board and takes turns from there. -/
theorem turns_of_starts (handles : Handles host step loss) (starts : Starts host cycle) :
    ∃ board, Fresh board ∧ ReflTransGen (Turn step) board cycle.board := by
  cases starts with
  | new made => exact ⟨_, (fresh_new made).1, .refl⟩
  | @recover config registrations history atMs _ made =>
    unfold recover at made
    rw [except_bind_eq_ok] at made
    obtain ⟨runtime, hrestored, made⟩ := made
    rw [mapError_eq_ok] at hrestored
    obtain ⟨hfresh, hclock⟩ := fresh_restored hrestored
    cases hrun : recoverInto host registrations history.contradictions atMs
        { toReceiverSchedulerRuntime := runtime } with
    | error stop next => rw [hrun] at made; cases made
    | ok value next =>
      rw [hrun] at made
      obtain rfl : next = cycle := by simpa [pure, Except.pure] using made
      exact ⟨_, hfresh, turns_recoverInto handles hrun (hclock.le.trans (Nat.zero_le _))⟩

variable {invariant : Board → Prop} {operation : Operation}

/-- An invariant of turns holds after calls that all returned well. -/
theorem reachableOk_induction (handles : Handles host step loss)
    (fresh : ∀ board, Fresh board → invariant board)
    (turn : ∀ before after, Turn step before after → invariant before → invariant after)
    (reachable : ReachableOk host cycle) : invariant cycle.board := by
  obtain ⟨start, hstarts, hreaches⟩ := reachable
  obtain ⟨board, hfresh, hturns⟩ := turns_of_starts handles hstarts
  have hstart : invariant start.board := keeps_along turn hturns (fresh board hfresh)
  induction hreaches with
  | refl => exact hstart
  | tail _ hlast ih =>
    obtain ⟨operation, hrun⟩ := hlast
    exact (follows_perform handles operation).keeps_ok turn hrun ih

/-- What turns and losses keep, a call keeps however it ended. -/
theorem returns_keeps (handles : Handles host step loss)
    (turn : ∀ before after, Turn step before after → invariant before → invariant after)
    (lose : ∀ before after, loss before after → invariant before → invariant after)
    {before after : Cycle} (returns : Returns host operation before after)
    (h : invariant before.board) : invariant after.board := by
  have hfinal := (@follows_perform host step loss before handles operation).keeps_final turn lose h
  unfold Returns at returns
  cases hrun : operation.perform host before with
  | ok value next =>
    rw [hrun] at returns hfinal
    rwa [returns]
  | error stop next =>
    rw [hrun] at returns hfinal
    rwa [returns.2]

/-- An invariant of turns and losses holds in every later state of a runtime. -/
theorem reaches_keeps (handles : Handles host step loss)
    (turn : ∀ before after, Turn step before after → invariant before → invariant after)
    (lose : ∀ before after, loss before after → invariant before → invariant after)
    {first last : Cycle} (reaches : Reaches host first last) (h : invariant first.board) :
    invariant last.board := by
  induction reaches with
  | refl => exact h
  | tail _ hlast ih =>
    obtain ⟨operation, hreturns⟩ := hlast
    exact returns_keeps handles turn lose hreturns ih

/-- An invariant of turns and losses holds in every reachable state. -/
theorem reachable_induction (handles : Handles host step loss)
    (fresh : ∀ board, Fresh board → invariant board)
    (turn : ∀ before after, Turn step before after → invariant before → invariant after)
    (lose : ∀ before after, loss before after → invariant before → invariant after)
    (reachable : Reachable host cycle) : invariant cycle.board := by
  obtain ⟨start, hstarts, hreaches⟩ := reachable
  obtain ⟨board, hfresh, hturns⟩ := turns_of_starts handles hstarts
  exact reaches_keeps handles turn lose hreaches (keeps_along turn hturns (fresh board hfresh))

/-- A call keeps a runtime reachable. -/
theorem Reachable.next {before after : Cycle} (reachable : Reachable host before)
    (operation : Operation) (returns : Returns host operation before after) :
    Reachable host after := by
  obtain ⟨start, hstarts, hreaches⟩ := reachable
  exact ⟨start, hstarts, hreaches.tail ⟨operation, returns⟩⟩

theorem Succeeds.returns {before after : Cycle} (succeeds : Succeeds host operation before after) :
    Returns host operation before after := by
  unfold Succeeds at succeeds
  simp [Returns, succeeds]

theorem ReachableOk.reachable (reachable : ReachableOk host cycle) : Reachable host cycle := by
  obtain ⟨start, hstarts, hreaches⟩ := reachable
  refine ⟨start, hstarts, Relation.ReflTransGen.mono ?_ _ _ hreaches⟩
  rintro before after ⟨operation, hsucceeds⟩
  exact ⟨operation, hsucceeds.returns⟩

end Reachable

end ConstellationMonitor.Runtime

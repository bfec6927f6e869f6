/-
  The board: what invariants of the runtime are stated over, and what bookkeeping does
  to it.

  `Noted` is the effect of bookkeeping, at most the history is found full.  `Aside` is
  what a handler may do on the side while it works for one consumer: also change that
  consumer's binding slot and deadlines.
-/
import ConstellationMonitor.Runtime.History
import ConstellationMonitor.Foundation.Program

namespace ConstellationMonitor.Runtime

open Foundation ConstellationMonitor.Types Evaluation
open Std (ExtTreeMap ExtTreeSet)

/-- A core together with the trail that led to it. -/
structure Board extends RuntimeCore where
  trail : List Moment

/-- The board of a cycle. -/
def Cycle.board (cycle : Cycle) : Board := ⟨cycle.toRuntimeCore, cycle.trail⟩

@[simp] theorem Cycle.board_toRuntimeCore (cycle : Cycle) :
    cycle.board.toRuntimeCore = cycle.toRuntimeCore := rfl

/-! ## Bookkeeping -/

/-- The board with its history found full, or not. -/
def Board.exhaust (full : Bool) (board : Board) : Board :=
  { board with historyExhausted := full || board.historyExhausted }

@[simp] theorem Board.exhaust_false (board : Board) : board.exhaust false = board := rfl

@[simp] theorem Board.exhaust_exhaust (first second : Bool) (board : Board) :
    (board.exhaust first).exhaust second = board.exhaust (second || first) := by
  simp [Board.exhaust, Bool.or_assoc]

/-- Only bookkeeping happened. -/
def Noted (before after : Board) : Prop := ∃ full, after = before.exhaust full

namespace Noted

variable {first second third : Board}

theorem refl (board : Board) : Noted board board := ⟨false, rfl⟩

theorem trans (left : Noted first second) (right : Noted second third) : Noted first third := by
  obtain ⟨full, rfl⟩ := left
  obtain ⟨later, rfl⟩ := right
  exact ⟨later || full, by simp⟩

end Noted

namespace Cycle

variable (host : Host) (cycle : Cycle)

@[simp] theorem trace_board (atMs : Nat) (text : Text) :
    (cycle.trace atMs text).board = cycle.board := rfl

@[simp] theorem measure_board (f : RuntimeMetricsV1 → RuntimeMetricsV1) :
    (cycle.measure f).board = cycle.board := rfl

@[simp] theorem accountLateness_board (deadline evaluatedAt : Nat) :
    (cycle.accountLateness deadline evaluatedAt).board = cycle.board := rfl

@[simp] theorem accountDueScheduleBeforeCancellation_board (key : ConsumerKey) (evaluatedAt : Nat) :
    (cycle.accountDueScheduleBeforeCancellation key evaluatedAt).board = cycle.board := by
  unfold accountDueScheduleBeforeCancellation
  dsimp only
  split <;> simp

theorem recordSparse_board (atMs : Nat) (event : SparseDurableEventKindV1) :
    (cycle.recordSparse host atMs event).board = cycle.board.exhaust cycle.historyFull := by
  unfold recordSparse
  by_cases hfull : cycle.historyFull = true
  · have hrefused : (cycle.refuseSparse atMs).board = cycle.board.exhaust true := by
      unfold refuseSparse
      dsimp only
      split <;> rfl
    simp [hfull, hrefused]
  · simp only [Bool.not_eq_true] at hfull
    simp only [hfull, Bool.false_eq_true, if_false, Board.exhaust_false]
    rfl

theorem noted_recordSparse (atMs : Nat) (event : SparseDurableEventKindV1) :
    Noted cycle.board (cycle.recordSparse host atMs event).board :=
  ⟨_, cycle.recordSparse_board host atMs event⟩

theorem noted_pushRefusal (report : RefusalReport) :
    Noted cycle.board (cycle.pushRefusal host report).board := by
  unfold pushRefusal
  exact (cycle.refusal report).2.noted_recordSparse host _ _

theorem noted_stageRefusal (refusal : RuntimeRefusalV1) :
    Noted cycle.board (cycle.stageRefusal host refusal).board := by
  unfold stageRefusal
  exact ({ cycle with output := {} } : Cycle).noted_recordSparse host _ _

theorem noted_recordEvents (events : List SparseDurableEventV1) :
    Noted cycle.board (cycle.recordEvents host events).board :=
  List.foldlRecOn (motive := fun next : Cycle => Noted cycle.board next.board) _ _ (.refl _)
    fun next h _ _ => h.trans (next.noted_recordSparse host _ _)

theorem noted_recordContextTransition (key : ConsumerKey) (prior : Option RelianceContextV1)
    (next : RelianceContextV1) (cause : GenerationTransitionCauseV1)
    (incarnation : IncarnationId) (atMs : Nat) : Noted cycle.board
      (cycle.recordContextTransition host key prior next cause incarnation atMs).board :=
  cycle.noted_recordSparse host _ _

end Cycle

/-! ## Work on the side -/

/-- What no visit of a consumer changes. -/
structure Frame (before after : Board) : Prop where
  config : after.config = before.config := by rfl
  receiver : after.receiver = before.receiver := by rfl
  subjects : after.subjects = before.subjects := by rfl
  remoteObservationCustody : after.remoteObservationCustody = before.remoteObservationCustody := by
    rfl
  pending : after.pending = before.pending := by rfl
  historicalContradictions : after.historicalContradictions = before.historicalContradictions := by
    rfl
  currentMonotonicMs : after.currentMonotonicMs = before.currentMonotonicMs := by rfl
  ingressCounter : after.ingressCounter = before.ingressCounter := by rfl
  historyBlindnessLatched : after.historyBlindnessLatched = before.historyBlindnessLatched := by rfl
  exhausted : before.historyExhausted = true → after.historyExhausted = true := by
    exact id

theorem Frame.refl (board : Board) : Frame board board :=
  {}

theorem Frame.trans {first second third : Board} (left : Frame first second)
    (right : Frame second third) : Frame first third := by
  cases left
  cases right
  constructor <;> simp_all

/-- Only the binding slot and the deadlines of one consumer may have changed. -/
structure Aside (key : ConsumerKey) (before after : Board) : Prop extends
    Frame before after where
  consumers : after.consumers = before.consumers := by rfl
  requestOwners : after.requestOwners = before.requestOwners := by rfl
  trail : after.trail = before.trail := by rfl
  schedules : ∀ schedule : ScheduleKey, schedule.owner ≠ key →
    (schedule ∈ after.schedules ↔ schedule ∈ before.schedules)
  shrinks : ∀ schedule ∈ after.schedules, schedule ∈ before.schedules
  qualifiedBindings : ∀ other, other ≠ key →
    after.qualifiedBindings[other]? = before.qualifiedBindings[other]?

namespace Aside

variable {key : ConsumerKey} {first second third : Board}

theorem trans (left : Aside key first second) (right : Aside key second third) :
    Aside key first third where
  toFrame := left.toFrame.trans right.toFrame
  consumers := right.consumers.trans left.consumers
  requestOwners := right.requestOwners.trans left.requestOwners
  trail := right.trail.trans left.trail
  schedules schedule h := (right.schedules schedule h).trans (left.schedules schedule h)
  shrinks schedule h := left.shrinks schedule (right.shrinks schedule h)
  qualifiedBindings other h :=
    (right.qualifiedBindings other h).trans (left.qualifiedBindings other h)

theorem of_noted (h : Noted first second) : Aside key first second := by
  obtain ⟨full, rfl⟩ := h
  constructor <;> simp [Board.exhaust]
  constructor <;> simp +contextual

theorem refl (board : Board) : Aside key board board := of_noted (.refl board)

end Aside

namespace Cycle

variable (cycle : Cycle) (key : ConsumerKey)

theorem mem_cancelSchedule (schedule : ScheduleKey) :
    schedule ∈ (cycle.cancelSchedule key).schedules ↔
      schedule ∈ cycle.schedules ∧ schedule.owner ≠ key := by
  simp [cancelSchedule]

theorem aside_cancelSchedule : Aside key cycle.board (cycle.cancelSchedule key).board where
  schedules schedule h := by
    show schedule ∈ (cycle.cancelSchedule key).schedules ↔ schedule ∈ cycle.schedules
    simp [mem_cancelSchedule, h]
  shrinks schedule h := ((cycle.mem_cancelSchedule key schedule).mp h).1
  qualifiedBindings _ _ := rfl

/-- Writing one consumer's slot is work on the side. -/
theorem aside_slots {slots : ExtTreeMap ConsumerKey QualifiedBindingSlot}
    (h : ∀ other, other ≠ key → slots[other]? = cycle.qualifiedBindings[other]?) :
    Aside key cycle.board ({ cycle with qualifiedBindings := slots } : Cycle).board where
  schedules _ _ := Iff.rfl
  shrinks _ := id
  qualifiedBindings := h

/-- Dropping a deadline of one consumer is work on the side for it. -/
theorem aside_dropSchedule {schedule : ScheduleKey} (h : schedule.owner = key) :
    Aside key cycle.board
      ({ cycle with schedules := cycle.schedules.erase schedule } : Cycle).board where
  schedules other hother := by
    have hne : schedule ≠ other := fun heq => hother (heq ▸ h)
    show other ∈ cycle.schedules.erase schedule ↔ other ∈ cycle.schedules
    simp [hne]
  shrinks other hother := ExtTreeSet.mem_of_mem_erase hother
  qualifiedBindings _ _ := rfl

end Cycle

end ConstellationMonitor.Runtime

/-
  Concerns/Termination.lean --- whether `run_producer` returns
  (`monitor-project-concerns/src/lib.rs`).

  The loop kills the child alone.  The processes the child started inherit its outputs, may
  write to them after its end and keep them open, and a thread of `read_limited` stops only at
  the end of its output, so the joins after the loop wait for every holder of the outputs.

  Runs are endless and fair to the loop and to the two readers; a thread that waits at an
  empty output which somebody still holds is not ready.
-/
import ConstellationMonitor.Concerns.Threads

namespace ConstellationMonitor.Concerns

open Foundation

/-- A run of `run_producer` after the child was spawned. -/
structure Run (limits : AcquisitionLimits) extends FairRun (threads limits) where
  start : state 0 = {}

/-! ## The loop -/

/-- The place of a question in a turn of the loop. -/
def Point.place : Point → Nat
  | .exceeded => 1
  | .timeout => 2
  | .wait => 3
  | _ => 0

section Loop

variable {limits : AcquisitionLimits} {before after state : State}

/-- A turn of the loop goes through its questions in order. -/
theorem poll_place (h : ¬state.point.Left) :
    (state.poll limits).Left ∨ (state.poll limits).place = (state.point.place + 1) % 4 := by
  unfold State.poll
  split <;> rename_i hpoint
  · split <;> simp [hpoint, Point.Left, Point.place]
  · split <;> simp [hpoint, Point.Left, Point.place]
  · split <;> simp [hpoint, Point.Left, Point.place]
  · cases state.child <;> simp [afterWait, hpoint, Point.Left, Point.place]
  · simp [hpoint, Point.Left] at h
  · simp [hpoint, Point.Left] at h

theorem place_lt (point : Point) : point.place < 4 := by
  cases point <;> simp [Point.place]

theorem poll_left (h : state.point.Left) : (state.poll limits).Left := by
  unfold Point.Left at h
  split at h
  · rename_i hpoint
    simp [State.poll, hpoint, Point.Left]
  · rename_i hpoint
    simp [State.poll, hpoint, Point.Left]
  · exact h.elim

theorem State.Turns.left (hturns : before.Turns limits after) (h : before.point.Left) :
    after.point.Left := by
  rcases hturns.point with heq | ⟨-, rfl⟩ | ⟨error, -, rfl⟩ | ⟨disposition, -, rfl⟩
  · rwa [heq]
  · exact poll_left h
  · trivial
  · trivial

theorem State.Turns.joins (hturns : before.Turns limits after) (h : before.point.Joins) :
    after.point.Joins := by
  rcases hturns.point with heq | ⟨hready, rfl⟩ | ⟨error, hpoint, rfl⟩ | ⟨disposition, -, rfl⟩
  · rwa [heq]
  · unfold Point.Joins at h
    split at h
    · rename_i hpoint
      simp [Ready, hpoint] at hready
    · exact h.elim
  · simp [hpoint, Point.Joins] at h
  · trivial

/-- One of the questions, once its answer is to leave, ends the loop. -/
theorem leaves_loop (run : FairRun (threads limits)) (holds : State → Prop) (place : Nat) {n : Nat}
    (hplace : place < 4)
    (hholds : ∀ {before after : State}, before.Turns limits after → holds before → holds after)
    (hdecides : ∀ {state : State}, holds state → ¬state.point.Left → state.point.place = place →
      (state.poll limits).Left)
    (h : holds (run.state n)) : ∃ m, n ≤ m ∧ (run.state m).point.Left := by
  have hlower : ∀ {state : State}, holds state → ¬state.point.Left →
      (state.poll limits).Left ∨ (place + 4 - (state.poll limits).place) % 4 <
        (place + 4 - state.point.place) % 4 := by
    intro state hstate hleft
    by_cases heq : state.point.place = place
    · exact .inl (hdecides hstate hleft heq)
    · refine (poll_place hleft).imp_right fun hnext => ?_
      have hlt := place_lt state.point
      omega
  refine run.leads_to .loop holds (fun state => state.point.Left)
    (fun state => (place + 4 - state.point.place) % 4) ?_ ?_ ?_ h
  · intro state _ hleft
    show Ready .loop state
    cases hpoint : state.point <;> simp_all [Ready, Point.Left]
  · intro before after hstep hbefore hleft
    have hturns := turns_of_step hstep
    rcases hturns.point with heq | ⟨-, rfl⟩ | ⟨error, -, rfl⟩ | ⟨disposition, -, rfl⟩
    · exact .inr ⟨hholds hturns hbefore, by simp [heq]⟩
    · exact (hlower hbefore hleft).imp_right fun hless => ⟨hholds hturns hbefore, hless.le⟩
    · exact .inl trivial
    · exact .inl trivial
  · intro before after hacts hbefore hleft
    cases hacts with
    | poll hready => exact hlower hbefore hleft

end Loop

/-! ## Whole runs -/

namespace Run

variable {limits : AcquisitionLimits} (run : Run limits)

/-- The timeout has elapsed, or cancellation was requested. -/
def Stopped (n : Nat) : Prop :=
  limits.timeout ≤ (run.state n).elapsed ∨ (run.state n).cancelled = true

/-- A killed child is reaped. -/
def Reaped : Prop :=
  ∀ n disposition, (run.state n).point = .reap disposition → ∃ m, n ≤ m ∧ (run.state m).child ≠ none

/-- Every holder of an output lets go of it, or a read of it fails. -/
def Released (output : Output) : Prop :=
  ∃ n, ((run.state n).streams output).closed = true ∨
    ((run.state n).streams output).Fails ((run.state (n + 1)).streams output)

variable {run} {n : Nat}

theorem left_of_stopped (h : run.Stopped n) : ∃ m, n ≤ m ∧ (run.state m).point.Left := by
  rcases h with htime | hcancelled
  · refine leaves_loop run.toFairRun (fun state => limits.timeout ≤ state.elapsed) 2 (by omega)
      (fun hturns hbefore => le_trans hbefore hturns.elapsed) ?_ htime
    intro state htime hleft hplace
    cases hpoint : state.point <;> simp_all [Point.Left, Point.place, State.poll]
  · refine leaves_loop run.toFairRun (fun state => state.cancelled = true) 0 (by omega)
      (fun hturns => hturns.cancelled) ?_ hcancelled
    intro state hcancelled hleft hplace
    cases hpoint : state.point <;> simp_all [Point.Left, Point.place, State.poll]

theorem joins_of_left (hreaped : run.Reaped) (h : (run.state n).point.Left) :
    ∃ m, n ≤ m ∧ (run.state m).point.Joins := by
  cases hpoint : (run.state n).point with
  | reap disposition =>
    obtain ⟨m, hle, hchild⟩ := hreaped n disposition hpoint
    have hleft : (run.state m).point.Left :=
      run.stays (fun state => state.point.Left) (fun hstep => (turns_of_step hstep).left) hle h
    have hjoins := run.leads_to .loop (fun state => state.point.Left ∧ state.child ≠ none)
      (fun state => state.point.Joins) (fun _ => 0) ?_ ?_ ?_ ⟨hleft, hchild⟩
    · obtain ⟨k, hk, hjoins⟩ := hjoins
      exact ⟨k, hle.trans hk, hjoins⟩
    · rintro state ⟨hleft, hchild⟩ hjoins
      show Ready .loop state
      cases hpoint : state.point <;> simp_all [Ready, Point.Left, Point.Joins]
    · rintro before after hstep ⟨hleft, hchild⟩ _
      exact .inr ⟨⟨(turns_of_step hstep).left hleft, (turns_of_step hstep).child hchild⟩, le_rfl⟩
    · rintro before after hacts ⟨hleft, hchild⟩ hjoins
      cases hacts with
      | poll hready =>
        left
        cases hpoint : before.point <;> simp_all [Point.Left, Point.Joins, State.poll]
  | join disposition status => exact ⟨n, le_rfl, by simp [hpoint, Point.Joins]⟩
  | cancelled => simp [hpoint, Point.Left] at h
  | exceeded => simp [hpoint, Point.Left] at h
  | timeout => simp [hpoint, Point.Left] at h
  | wait => simp [hpoint, Point.Left] at h

/-- A reader whose output is closed comes to its end. -/
theorem ended_of_closed {output : Output} (h : ((run.state n).streams output).closed = true) :
    ∃ m, n ≤ m ∧ ((run.state m).streams output).Ended := by
  refine run.leads_to (.reader output) (fun state => (state.streams output).closed = true)
    (fun state => (state.streams output).Ended) (fun state => (state.streams output).left)
    ?_ ?_ ?_ h
  · intro state hclosed hended
    show Ready (.reader output) state
    cases hreader : (state.streams output).reader with
    | reading => simp [Ready, hreader, hclosed]
    | storing => simp [Ready, hreader]
    | done captured => exact absurd ⟨captured, hreader⟩ hended
  · intro before after hstep hclosed _
    have hmoves := moves_of_step hstep output
    exact .inr ⟨hmoves.closed hclosed, hmoves.left hclosed⟩
  · exact fun hacts _ _ => .inr (left_of_acts hacts)

theorem ended_of_released {output : Output} (h : run.Released output) :
    ∃ m, ((run.state m).streams output).Ended := by
  obtain ⟨n, hclosed | hfails⟩ := h
  · obtain ⟨m, -, hended⟩ := ended_of_closed hclosed
    exact ⟨m, hended⟩
  · exact ⟨n + 1, [], by rw [hfails.2]⟩

theorem released_of_ended {output : Output} (h : ((run.state n).streams output).Ended) :
    run.Released output := by
  induction n with
  | zero =>
    obtain ⟨captured, hreader⟩ := h
    rw [run.start] at hreader
    cases hreader
  | succ n ih =>
    rcases (moves_of_step (run.next n) output).ends h with hended | hclosed | hfails
    · exact ih hended
    · exact ⟨n, .inl hclosed⟩
    · exact ⟨n, .inr hfails⟩

theorem capture_isSome_iff {state : State} :
    state.capture ≠ none ↔ state.point.Joins ∧ ∀ output, (state.streams output).Ended := by
  unfold State.capture
  split
  · rename_i disposition status stdout stderr hpoint hstdout hstderr
    refine ⟨fun _ => ⟨by simp [hpoint, Point.Joins], fun output => ?_⟩, fun _ => by simp⟩
    cases output
    · exact ⟨stdout, hstdout⟩
    · exact ⟨stderr, hstderr⟩
  · rename_i hother
    refine ⟨fun h => absurd rfl h, ?_⟩
    rintro ⟨hjoins, hended⟩
    obtain ⟨stdout, hstdout⟩ := hended .stdout
    obtain ⟨stderr, hstderr⟩ := hended .stderr
    unfold Point.Joins at hjoins
    split at hjoins
    · rename_i disposition status hpoint
      exact absurd hstderr (hother _ _ _ _ hpoint hstdout)
    · exact hjoins.elim

/-- Once the timeout has elapsed or cancellation was requested, `run_producer` returns exactly
if every holder of each output lets go of it, or a read of it fails. -/
theorem returns_iff_released (run : Run limits) (hstopped : ∃ n, run.Stopped n)
    (hreaped : run.Reaped) :
    (∃ n, (run.state n).capture ≠ none) ↔ ∀ output, run.Released output := by
  simp only [capture_isSome_iff]
  constructor
  · rintro ⟨n, -, hended⟩ output
    exact released_of_ended (hended output)
  · intro hreleased
    obtain ⟨n, hstopped⟩ := hstopped
    obtain ⟨m, -, hleft⟩ := left_of_stopped hstopped
    obtain ⟨k, -, hjoins⟩ := joins_of_left hreaped hleft
    obtain ⟨a, hstdout⟩ := ended_of_released (hreleased .stdout)
    obtain ⟨b, hstderr⟩ := ended_of_released (hreleased .stderr)
    -- The loop and the readers stay where they ended, so the last of the three times will do.
    have hlater : ∀ output i, ((run.state i).streams output).Ended →
        i ≤ k + a + b → ((run.state (k + a + b)).streams output).Ended :=
      fun output i hended hle => run.stays (fun state => (state.streams output).Ended)
        (fun hstep => (moves_of_step hstep output).ended) hle hended
    refine ⟨k + a + b, ?_, fun output => ?_⟩
    · exact run.stays (fun state => state.point.Joins)
        (fun hstep => (turns_of_step hstep).joins) (by omega) hjoins
    · cases output
      · exact hlater .stdout a hstdout (by omega)
      · exact hlater .stderr b hstderr (by omega)

end Run

namespace Reference

/-- Cancellation is requested, the child is killed and reaped, and a process it had started
keeps both outputs open for ever. -/
def heldOpen : Nat → State
  | 0 => {}
  | 1 => { cancelled := true }
  | 2 => { cancelled := true, point := .reap .cancelled }
  | 3 => { cancelled := true, point := .reap .cancelled, child := some ⟨none⟩ }
  | _ + 4 =>
    { cancelled := true, point := .join .cancelled (some ⟨none⟩), child := some ⟨none⟩ }

theorem heldOpen_streams (n : Nat) : (heldOpen n).streams = fun _ => {} := by
  rcases n with _ | _ | _ | _ | n <;> rfl

def heldOpenRun : Run limits where
  state := heldOpen
  start := rfl
  next := by
    rintro (_ | _ | _ | _ | n)
    · exact .inl .cancel
    · exact .inr ⟨.loop, .poll trivial⟩
    · exact .inl (.exit ⟨none⟩ rfl)
    · exact .inr ⟨.loop, .poll (Option.some_ne_none _)⟩
    · exact .inl (.elapse 0)
  fair := by
    rintro (_ | output) n hready
    · rcases n with _ | _ | _ | _ | n
      all_goals first
        | exact ⟨3, by omega, .poll (Option.some_ne_none _)⟩
        | exact hready.elim
    · have hblocked : ¬Ready (.reader output) (heldOpen n) := by
        simp [Ready, heldOpen_streams]
      exact absurd hready hblocked

/-- `run_producer` never returns although cancellation was requested and the child reaped. -/
theorem held_open_never_returns : heldOpenRun.Stopped 1 ∧ heldOpenRun.Reaped ∧
      ∀ n, (heldOpenRun.state n).capture = none := by
  refine ⟨.inr rfl, fun n _ _ => ⟨n + 4, by omega, ?_⟩, fun n => ?_⟩
  · exact Option.some_ne_none _
  · rcases n with _ | _ | _ | _ | n <;> rfl

def shut (output : Output) (state : State) : State :=
  state.on output fun s => { s with closed := true }

def finished (output : Output) (state : State) : State :=
  state.on output fun s => { s with reader := .done s.kept }

/-- The same, but the outputs are let go of. -/
def letGo : Nat → State
  | 0 => heldOpen 0
  | 1 => heldOpen 1
  | 2 => heldOpen 2
  | 3 => heldOpen 3
  | 4 => heldOpen 4
  | 5 => shut .stdout (heldOpen 4)
  | 6 => shut .stderr (shut .stdout (heldOpen 4))
  | 7 => finished .stdout (shut .stderr (shut .stdout (heldOpen 4)))
  | _ + 8 => finished .stderr (finished .stdout (shut .stderr (shut .stdout (heldOpen 4))))

def letGoRun : Run limits where
  state := letGo
  start := rfl
  next := by
    rintro (_ | _ | _ | _ | _ | _ | _ | _ | n)
    · exact .inl .cancel
    · exact .inr ⟨.loop, .poll trivial⟩
    · exact .inl (.exit ⟨none⟩ rfl)
    · exact .inr ⟨.loop, .poll (Option.some_ne_none _)⟩
    · exact .inl (.close .stdout)
    · exact .inl (.close .stderr)
    · exact .inr ⟨.reader .stdout, .endOfFile rfl rfl rfl⟩
    · exact .inr ⟨.reader .stderr, .endOfFile rfl rfl rfl⟩
    · exact .inl (.elapse 0)
  fair := by
    rintro (_ | _ | _) n hready <;> rcases n with _ | _ | _ | _ | _ | _ | _ | _ | n
    all_goals first
      | exact absurd hready id
      | exact ⟨3, by omega, .poll (Option.some_ne_none _)⟩
      | exact ⟨6, by omega, .endOfFile rfl rfl rfl⟩
      | exact ⟨7, by omega, .endOfFile rfl rfl rfl⟩

theorem returns_iff_released_let_go : (∃ n, letGoRun.Stopped n) ∧ letGoRun.Reaped ∧
      ∃ n, (letGoRun.state n).capture ≠ none := by
  have hstopped : ∃ n, letGoRun.Stopped n := ⟨1, .inr rfl⟩
  have hreaped : letGoRun.Reaped := by
    intro n disposition _
    exact ⟨n + 8, by omega, Option.some_ne_none _⟩
  refine ⟨hstopped, hreaped, (letGoRun.returns_iff_released hstopped hreaped).mpr ?_⟩
  intro output
  refine ⟨6, .inl ?_⟩
  cases output <;> rfl

end Reference

end ConstellationMonitor.Concerns

/-
  Concerns/Threads.lean --- the threads of `run_producer`
  (`monitor-project-concerns/src/lib.rs`).

  Two reader threads take the producer's outputs, keep at most the limit of each and raise a
  flag beyond it; the polling loop looks at the flag, at the clock and at the child in turn.
  Around them the child and the processes it started write to the outputs and hold them open.
-/
import ConstellationMonitor.Foundation.Fairness
import ConstellationMonitor.Foundation.Text

namespace ConstellationMonitor.Concerns

open Foundation

/-! ## The parties -/

/-- `AcquisitionLimits`; times are milliseconds. -/
structure AcquisitionLimits where
  timeout : Nat
  outputLimitBytes : Nat

inductive Output where
  | stdout
  | stderr
  deriving DecidableEq

/-- Where a thread of `read_limited` is. -/
inductive Reader where
  | reading
  /-- it has read beyond the limit and has yet to raise the flag -/
  | storing
  /-- what `join` gives, nothing if a read failed -/
  | done (captured : List UInt8)
  deriving DecidableEq

/-- An output of the producer: what was written, how much of it was read and what is kept. -/
structure Stream where
  written : List UInt8 := []
  taken : Nat := 0
  kept : List UInt8 := []
  reader : Reader := .reading
  /-- no process holds the writing end any more -/
  closed : Bool := false

/-- One turn of the loop of `read_limited` that reads `count` bytes. -/
def Stream.read (limit count : Nat) (stream : Stream) : Stream :=
  let remaining := limit - stream.kept.length
  { stream with
    taken := stream.taken + count
    kept := stream.kept ++ ((stream.written.drop stream.taken).take count).take remaining
    reader := if count > remaining then .storing else .reading }

/-- `ExitStatus`: no code if a signal ended the process. -/
structure ExitStatus where
  code : Option Int
  deriving DecidableEq

/-- How `run_producer` ends. -/
inductive Disposition where
  | spawnFailed (error : Text)
  | cancelled
  | outputLimitExceeded
  | timeout
  | succeeded
  | exitNonzero
  | waitFailed (error : Text)
  deriving DecidableEq

/-- Where `run_producer` is: at one of the four questions of the polling loop, waiting for the
killed child, or joining the readers. -/
inductive Point where
  | cancelled
  | exceeded
  | timeout
  | wait
  | reap (disposition : Disposition)
  | join (disposition : Disposition) (status : Option ExitStatus)
  deriving DecidableEq

structure State where
  streams : Output → Stream := fun _ => {}
  exceeded : Bool := false
  cancelled : Bool := false
  elapsed : Nat := 0
  /-- the child's status once it has exited -/
  child : Option ExitStatus := none
  point : Point := .cancelled

/-- Change one output. -/
def State.on (state : State) (output : Output) (change : Stream → Stream) : State :=
  { state with streams := Function.update state.streams output (change (state.streams output)) }

/-- What the loop does with the answer of `try_wait`. -/
def afterWait : Option ExitStatus → Point
  | none => .cancelled
  | some status => .join (if status.code = some 0 then .succeeded else .exitNonzero) (some status)

/-- `ProcessCapture`. -/
structure ProcessCapture where
  disposition : Disposition
  exitCode : Option Int
  stdout : List UInt8
  stderr : List UInt8
  deriving DecidableEq

/-- What `run_producer` returns, once both readers have ended. -/
def State.capture (state : State) : Option ProcessCapture :=
  match state.point, (state.streams .stdout).reader, (state.streams .stderr).reader with
  | .join disposition status, .done stdout, .done stderr =>
    some ⟨disposition, status.bind ExitStatus.code, stdout, stderr⟩
  | _, _, _ => none

/-! ## The threads and the world around them -/

/-- The threads of `run_producer`. -/
inductive Thread where
  | loop
  | reader (output : Output)

/-- The next point of the polling loop. -/
def State.poll (limits : AcquisitionLimits) (state : State) : Point :=
  match state.point with
  | .cancelled => if state.cancelled then .reap .cancelled else .exceeded
  | .exceeded => if state.exceeded then .reap .outputLimitExceeded else .timeout
  | .timeout => if limits.timeout ≤ state.elapsed then .reap .timeout else .wait
  | .wait => afterWait state.child
  | .reap disposition => .join disposition state.child
  | .join disposition status => .join disposition status

/-- A thread can go on: `wait` needs the end of the child, `read` something to read or the end
of the output. -/
def Ready : Thread → State → Prop
  | .loop, state =>
    match state.point with
    | .reap _ => state.child ≠ none
    | .join _ _ => False
    | _ => True
  | .reader output, state =>
    match (state.streams output).reader with
    | .reading => (state.streams output).closed = true ∨
        (state.streams output).taken < (state.streams output).written.length
    | .storing => True
    | .done _ => False

/-- One step of a thread. -/
inductive Acts (limits : AcquisitionLimits) : Thread → State → State → Prop
  | poll {state : State} (hready : Ready .loop state) :
      Acts limits .loop state { state with point := state.poll limits }
  | read {state : State} {output : Output} (count : Nat)
      (hreader : (state.streams output).reader = .reading) (hpositive : 0 < count)
      (hbuffer : count ≤ 8192)
      (hthere : (state.streams output).taken + count ≤ (state.streams output).written.length) :
      Acts limits (.reader output) state
        (state.on output (Stream.read limits.outputLimitBytes count))
  | store {state : State} {output : Output}
      (hreader : (state.streams output).reader = .storing) :
      Acts limits (.reader output) state
        { state.on output (fun s => { s with reader := .reading }) with exceeded := true }
  | endOfFile {state : State} {output : Output}
      (hreader : (state.streams output).reader = .reading)
      (hclosed : (state.streams output).closed = true)
      (hall : (state.streams output).taken = (state.streams output).written.length) :
      Acts limits (.reader output) state
        (state.on output fun s => { s with reader := .done s.kept })

/-- What happens around the threads.  Whoever holds an output, the child or a process it
started, may write to it; `close` is the last holder letting go. -/
inductive World : State → State → Prop
  | write {state : State} (output : Output) (bytes : List UInt8)
      (hopen : (state.streams output).closed = false) :
      World state (state.on output fun s => { s with written := s.written ++ bytes })
  | close {state : State} (output : Output) :
      World state (state.on output fun s => { s with closed := true })
  | exit {state : State} (status : ExitStatus) (hchild : state.child = none) :
      World state { state with child := some status }
  | cancel {state : State} : World state { state with cancelled := true }
  | elapse {state : State} (time : Nat) :
      World state { state with elapsed := state.elapsed + time }
  | readFails {state : State} (output : Output)
      (hreader : (state.streams output).reader = .reading) :
      World state (state.on output fun s => { s with reader := .done [] })
  | tryWaitFails {state : State} (error : Text) (hpoint : state.point = .wait) :
      World state { state with point := .reap (.waitFailed error) }
  | reapFails {state : State} {disposition : Disposition}
      (hpoint : state.point = .reap disposition) :
      World state { state with point := .join disposition none }

def threads (limits : AcquisitionLimits) : Agents State Thread where
  acts := Acts limits
  world := World
  ready := Ready

/-! ## What a step does to an output -/

/-- The reader has ended. -/
def Stream.Ended (stream : Stream) : Prop := ∃ captured, stream.reader = .done captured

/-- A read fails between two states of an output. -/
def Stream.Fails (before after : Stream) : Prop :=
  before.reader = .reading ∧ after = { before with reader := .done [] }

/-- What is kept is what was read, cut at the limit. -/
structure Stream.Kept (limit : Nat) (stream : Stream) : Prop where
  taken : stream.taken ≤ stream.written.length
  kept : stream.kept = (stream.written.take stream.taken).take limit

/-- How many steps the reader still has to make, at most, once nobody writes any more. -/
def Stream.left (stream : Stream) : Nat :=
  match stream.reader with
  | .reading => 2 * (stream.written.length - stream.taken) + 1
  | .storing => 2 * (stream.written.length - stream.taken) + 2
  | .done _ => 0

/-- What a step may do to an output. -/
structure Stream.Moves (limit : Nat) (before after : Stream) : Prop where
  kept : before.Kept limit → after.Kept limit
  closed : before.closed = true → after.closed = true
  left : before.closed = true → after.left ≤ before.left
  ended : before.Ended → after.Ended
  ends : after.Ended → before.Ended ∨ before.closed = true ∨ before.Fails after

section Steps

variable {limits : AcquisitionLimits} {limit count : Nat} {before after state : State}
  {output : Output} {stream : Stream} {change : Stream → Stream}

theorem Stream.Kept.write (h : stream.Kept limit) (bytes : List UInt8) :
    Stream.Kept limit { stream with written := stream.written ++ bytes } := by
  refine ⟨h.taken.trans (by simp), ?_⟩
  rw [List.take_append_of_le_length h.taken]
  exact h.kept

theorem Stream.Kept.read (h : stream.Kept limit)
    (hthere : stream.taken + count ≤ stream.written.length) :
    (stream.read limit count).Kept limit := by
  refine ⟨hthere, ?_⟩
  have hlength :
      limit - stream.kept.length = limit - (stream.written.take stream.taken).length := by
    rw [h.kept, List.length_take]
    omega
  show stream.kept ++ _ = _
  rw [hlength, h.kept]
  simp only [Stream.read, List.take_add, List.take_append]

theorem Stream.Moves.refl (limit : Nat) (stream : Stream) : stream.Moves limit stream :=
  ⟨id, id, fun _ => le_rfl, id, .inl⟩

theorem moves_on (h : (state.streams output).Moves limit (change (state.streams output)))
    (other : Output) :
    (state.streams other).Moves limit ((state.on output change).streams other) := by
  by_cases heq : other = output
  · subst heq
    simpa [State.on] using h
  · simpa [State.on, heq] using Stream.Moves.refl _ _

theorem left_read (hreader : stream.reader = .reading)
    (hpositive : 0 < count) (hthere : stream.taken + count ≤ stream.written.length) :
    (stream.read limit count).left < stream.left := by
  unfold Stream.left Stream.read
  rw [hreader]
  dsimp only
  by_cases hmore : count > limit - stream.kept.length
  · rw [if_pos hmore]
    dsimp only
    omega
  · rw [if_neg hmore]
    dsimp only
    omega

theorem not_ended_read : ¬(stream.read limit count).Ended := by
  rintro ⟨captured, h⟩
  unfold Stream.read at h
  dsimp only at h
  split at h <;> cases h

theorem Acts.moves {thread : Thread} (h : Acts limits thread before after) (output : Output) :
    (before.streams output).Moves limits.outputLimitBytes (after.streams output) := by
  cases h with
  | poll hready => exact .refl _ _
  | read count hreader hpositive hbuffer hthere =>
    refine moves_on ⟨fun h => h.read hthere, id,
      fun _ => (left_read hreader hpositive hthere).le, ?_, ?_⟩ output
    · rintro ⟨captured, hended⟩
      rw [hreader] at hended
      cases hended
    · exact fun hended => absurd hended not_ended_read
  | store hreader =>
    refine @moves_on _ before _ (fun s => { s with reader := .reading })
      ⟨fun h => ⟨h.1, h.2⟩, id, ?_, ?_, ?_⟩ output
    · intro _
      simp [Stream.left, hreader]
    · rintro ⟨captured, hended⟩
      rw [hreader] at hended
      cases hended
    · rintro ⟨captured, hended⟩
      cases hended
  | endOfFile hreader hclosed hall =>
    exact moves_on ⟨fun h => ⟨h.1, h.2⟩, id, fun _ => Nat.zero_le _, fun _ => ⟨_, rfl⟩,
      fun _ => .inr (.inl hclosed)⟩ output

theorem World.moves (h : World before after) (output : Output) :
    (before.streams output).Moves limit (after.streams output) := by
  cases h with
  | write other bytes hopen =>
    refine moves_on ⟨fun h => h.write bytes, id, fun hclosed => ?_, id, .inl⟩ output
    rw [hopen] at hclosed
    cases hclosed
  | close other =>
    exact moves_on ⟨fun h => ⟨h.1, h.2⟩, fun _ => rfl, fun _ => le_rfl, id, .inl⟩ output
  | readFails other hreader =>
    exact moves_on ⟨fun h => ⟨h.1, h.2⟩, id, fun _ => Nat.zero_le _, fun _ => ⟨_, rfl⟩,
      fun _ => .inr (.inr ⟨hreader, rfl⟩)⟩ output
  | exit status hchild => exact .refl _ _
  | cancel => exact .refl _ _
  | elapse time => exact .refl _ _
  | tryWaitFails error hpoint => exact .refl _ _
  | reapFails hpoint => exact .refl _ _

theorem moves_of_step (h : (threads limits).Step before after) (output : Output) :
    (before.streams output).Moves limits.outputLimitBytes (after.streams output) := by
  rcases h with hworld | ⟨thread, hacts⟩
  · exact World.moves hworld output
  · exact Acts.moves hacts output

theorem left_of_acts (h : Acts limits (.reader output) before after) :
    (after.streams output).left < (before.streams output).left := by
  cases h with
  | read count hreader hpositive hbuffer hthere =>
    simpa [State.on] using left_read hreader hpositive hthere
  | store hreader => simp [State.on, Stream.left, hreader]
  | endOfFile hreader hclosed hall => simp [State.on, Stream.left, hreader]

end Steps

/-! ## What a step does to the loop -/

/-- The loop is over. -/
def Point.Left : Point → Prop
  | .reap _ | .join _ _ => True
  | _ => False

/-- The loop is over and the child was waited for. -/
def Point.Joins : Point → Prop
  | .join _ _ => True
  | _ => False

/-- What a step may do to the loop and to what the loop asks. -/
structure State.Turns (limits : AcquisitionLimits) (before after : State) : Prop where
  point : after.point = before.point ∨
    Ready .loop before ∧ after = { before with point := before.poll limits } ∨
    (∃ error, before.point = .wait ∧
      after = { before with point := .reap (.waitFailed error) }) ∨
    ∃ disposition, before.point = .reap disposition ∧
      after = { before with point := .join disposition none }
  exceeded : before.exceeded = true → after.exceeded = true
  cancelled : before.cancelled = true → after.cancelled = true
  elapsed : before.elapsed ≤ after.elapsed
  child : before.child ≠ none → after.child ≠ none

theorem turns_of_step {limits : AcquisitionLimits} {before after : State}
    (h : (threads limits).Step before after) : before.Turns limits after := by
  rcases h with hworld | ⟨thread, hacts⟩
  · cases hworld with
    | write output bytes hopen => exact ⟨.inl rfl, id, id, le_rfl, id⟩
    | close output => exact ⟨.inl rfl, id, id, le_rfl, id⟩
    | exit status hchild => exact ⟨.inl rfl, id, id, le_rfl, fun h => absurd hchild h⟩
    | cancel => exact ⟨.inl rfl, id, fun _ => rfl, le_rfl, id⟩
    | elapse time => exact ⟨.inl rfl, id, id, Nat.le_add_right _ _, id⟩
    | readFails output hreader => exact ⟨.inl rfl, id, id, le_rfl, id⟩
    | tryWaitFails error hpoint =>
      exact ⟨.inr (.inr (.inl ⟨error, hpoint, rfl⟩)), id, id, le_rfl, id⟩
    | reapFails hpoint => exact ⟨.inr (.inr (.inr ⟨_, hpoint, rfl⟩)), id, id, le_rfl, id⟩
  · cases hacts with
    | poll hready => exact ⟨.inr (.inl ⟨hready, rfl⟩), id, id, le_rfl, id⟩
    | read count hreader hpositive hbuffer hthere => exact ⟨.inl rfl, id, id, le_rfl, id⟩
    | store hreader => exact ⟨.inl rfl, fun _ => rfl, id, le_rfl, id⟩
    | endOfFile hreader hclosed hall => exact ⟨.inl rfl, id, id, le_rfl, id⟩

namespace Reference

/-- A limit of two bytes. -/
def limits : AcquisitionLimits := ⟨1000, 2⟩

end Reference

end ConstellationMonitor.Concerns

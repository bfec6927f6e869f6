/-
  Concerns/Producer.lean --- running a producer and collecting its status
  (`monitor-project-concerns/src/lib.rs`).

  A run is any interleaving of the readers, the polling loop, the child and the processes it
  started.  The flag is looked at before the child is, and never after the loop has ended.
-/
import ConstellationMonitor.Concerns.Threads

namespace ConstellationMonitor.Concerns

open Foundation Relation

/-! ## Collecting -/

/-- The disposition of an acquisition. -/
inductive Acquisition where
  | process (disposition : Disposition)
  | emittedNothing
  | malformedStatus (error : Text)
  | acquiredAndValidated
  | statusRejected
  deriving DecidableEq

inductive MonitorState where
  | observed
  | missingRequired
  | missingOptional
  deriving DecidableEq

/-- A concern of the manifest. -/
structure ConcernDeclaration where
  id : Text
  required : Bool
  deriving DecidableEq

/-- A status as far as the inventory reads it: which concern has its observation present. -/
structure StatusEnvelope where
  concerns : List (Text × Bool)

/-- The JSON decoder and `validate_status` for the project. -/
structure Contract where
  decode : List UInt8 → Except Text StatusEnvelope
  validate : StatusEnvelope → List Text

def missing (declaration : ConcernDeclaration) : MonitorState :=
  if declaration.required then .missingRequired else .missingOptional

/-- The state of a concern in a status; of two entries of one id the map keeps the later. -/
def StatusEnvelope.stateOf (status : StatusEnvelope) (declaration : ConcernDeclaration) :
    MonitorState :=
  match status.concerns.reverse.find? fun concern => concern.1 = declaration.id with
  | some (_, true) => .observed
  | _ => missing declaration

/-- What `collect_cancellable` reports of a run of the producer. -/
def collect (contract : Contract) (manifest : List ConcernDeclaration) (process : ProcessCapture) :
    Acquisition × List MonitorState :=
  if process.disposition = .succeeded then
    if process.stdout = [] then (.emittedNothing, manifest.map missing)
    else match contract.decode process.stdout with
    | .error error => (.malformedStatus error, manifest.map missing)
    | .ok status =>
      if contract.validate status = [] then
        (.acquiredAndValidated, manifest.map status.stateOf)
      else (.statusRejected, manifest.map missing)
  else (.process process.disposition, manifest.map missing)

/-- Something is reported from the output. -/
def Accepted (report : Acquisition × List MonitorState) : Prop :=
  report.1 = .acquiredAndValidated ∨ .observed ∈ report.2

theorem not_observed_missing (manifest : List ConcernDeclaration) :
    MonitorState.observed ∉ manifest.map missing := by
  intro h
  obtain ⟨declaration, _, hstate⟩ := List.mem_map.mp h
  unfold missing at hstate
  split at hstate <;> cases hstate

theorem not_accepted {contract : Contract} {manifest : List ConcernDeclaration}
    {process : ProcessCapture} (h : process.disposition ≠ .succeeded) :
    ¬Accepted (collect contract manifest process) := by
  rw [collect, if_neg h]
  rintro (hacquired | hobserved)
  · cases hacquired
  · exact not_observed_missing manifest hobserved

/-! ## Oversized output -/

/-- The producer has written more than the limit to one of its outputs. -/
def Oversized (limits : AcquisitionLimits) (state : State) : Prop :=
  ∃ output, limits.outputLimitBytes < (state.streams output).written.length

/-- The child has exited and one of its outputs is over the limit. -/
def Spent (limits : AcquisitionLimits) (state : State) : Prop :=
  state.child ≠ none ∧ Oversized limits state

/-- The overrun cannot be missed: the loop has ended otherwise than in success, or the flag is
up and will be looked at before the child is. -/
def Noticed (state : State) : Prop :=
  match state.point with
  | .cancelled | .exceeded => state.exceeded = true
  | .timeout | .wait => False
  | .reap _ => True
  | .join disposition _ => disposition ≠ .succeeded

/-- A step, and if from here on the child has exited and an output is over the limit, then the
overrun was noticed before it. -/
def NoticedStep (limits : AcquisitionLimits) (before after : State) : Prop :=
  (threads limits).Step before after ∧ (Spent limits after → ¬Spent limits before → Noticed before)

/-- The loop does not end in success before the child has exited, nor on an overrun. -/
structure Sound (limits : AcquisitionLimits) (state : State) : Prop where
  reap : state.point ≠ .reap .succeeded
  running : state.child = none → ∀ status, state.point ≠ .join .succeeded status
  noticed : Spent limits state → Noticed state

section Runs

variable {limits : AcquisitionLimits} {before after state : State}

theorem Noticed.mono (h : Noticed before) (hpoint : after.point = before.point)
    (hflag : before.exceeded = true → after.exceeded = true) : Noticed after := by
  unfold Noticed at *
  rw [hpoint]
  split <;> simp_all

/-- Where an overrun is noticed, the next question of the loop notices it too. -/
theorem Noticed.poll (h : Noticed state) (hreap : state.point ≠ .reap .succeeded) :
    Noticed { state with point := state.poll limits } := by
  unfold State.poll
  cases hpoint : state.point with
  | cancelled => cases state.cancelled <;> simp_all [Noticed]
  | exceeded => simp_all [Noticed]
  | timeout => simp [Noticed, hpoint] at h
  | wait => simp [Noticed, hpoint] at h
  | reap disposition => simp_all [Noticed]
  | join disposition status => simpa [Noticed, hpoint] using h

theorem Sound.poll (hsound : Sound limits state) (hready : Ready .loop state) :
    Sound limits { state with point := state.poll limits } := by
  refine ⟨?_, fun hnone status => ?_, fun hspent => (hsound.noticed hspent).poll hsound.reap⟩
  all_goals
    have hreap := hsound.reap
    unfold State.poll afterWait
    cases hpoint : state.point <;> simp_all [Ready] <;> split <;> simp

theorem Sound.step (hsound : Sound limits before) (h : NoticedStep limits before after) :
    Sound limits after := by
  have hturns := turns_of_step h.1
  rcases hturns.point with
    hpoint | ⟨hready, rfl⟩ | ⟨error, hpoint, rfl⟩ | ⟨disposition, hpoint, rfl⟩
  · refine ⟨hpoint ▸ hsound.reap, fun hnone => ?_, fun hspent => ?_⟩
    · rw [hpoint]
      exact hsound.running (not_not.mp fun hsome => hturns.child hsome hnone)
    · by_cases hbefore : Spent limits before
      · exact (hsound.noticed hbefore).mono hpoint hturns.exceeded
      · exact (h.2 hspent hbefore).mono hpoint hturns.exceeded
  · exact hsound.poll hready
  · exact ⟨by simp, by simp, fun _ => trivial⟩
  · have hother : disposition ≠ .succeeded := fun heq => hsound.reap (heq ▸ hpoint)
    exact ⟨by simp, by simp [hother], fun _ => hother⟩

/-- A run in which every overrun is noticed in time. -/
def Runs (limits : AcquisitionLimits) : State → State → Prop := ReflTransGen (NoticedStep limits)

theorem Runs.sound (h : Runs limits {} state) : Sound limits state := by
  induction h with
  | refl => exact ⟨by simp, by simp, by simp [Spent]⟩
  | tail _ hstep ih => exact ih.step hstep

/-! ## Overruns that are missed -/

/-- No read of the output has failed: a reader that has ended gives what was written, cut at
the limit. -/
def Stream.Whole (limit : Nat) (stream : Stream) : Prop :=
  ∀ captured, stream.reader = .done captured → captured = stream.written.take limit

/-- Steps that concern one output alone and leave what was written to it. -/
structure Drains (limits : AcquisitionLimits) (output : Output) (before after : State) : Prop where
  run : ReflTransGen (threads limits).Step before after
  point : after.point = before.point
  written : (after.streams output).written = (before.streams output).written
  others : ∀ other ≠ output, after.streams other = before.streams other

theorem drains_on {output : Output} {next : State} (change : Stream → Stream)
    (hstep : (threads limits).Step state next)
    (hstreams : next.streams = (state.on output change).streams) (hpoint : next.point = state.point)
    (hwritten : (change (state.streams output)).written = (state.streams output).written) :
    Drains limits output state next := by
  refine ⟨.single hstep, hpoint, ?_, fun other hother => ?_⟩
  · rw [hstreams]
    simpa [State.on] using hwritten
  · rw [hstreams]
    simp [State.on, hother]

theorem Drains.trans {output : Output} {middle : State} (left : Drains limits output before middle)
    (right : Drains limits output middle after) : Drains limits output before after :=
  ⟨left.run.trans right.run, right.point.trans left.point, right.written.trans left.written,
    fun other hother => (right.others other hother).trans (left.others other hother)⟩

/-- A reader can be given the time to take all of its output. -/
theorem exists_drains (output : Output)
    (hkept : (state.streams output).Kept limits.outputLimitBytes)
    (hwhole : (state.streams output).Whole limits.outputLimitBytes) :
    ∃ last, Drains limits output state last ∧ (last.streams output).reader =
      .done ((last.streams output).written.take limits.outputLimitBytes) := by
  -- The induction is on the steps the reader has left; it reads one byte at a time.
  induction hleft : (state.streams output).left using Nat.strongRecOn generalizing state with
  | ind left ih =>
  have hnext : ∀ {next}, Acts limits (.reader output) state next → Drains limits output state next →
      ¬(next.streams output).Ended → ∃ last, Drains limits output state last ∧
        (last.streams output).reader =
          .done ((last.streams output).written.take limits.outputLimitBytes) := by
    intro next hacts hdrains hended
    obtain ⟨last, hlast, hdone⟩ := ih _ (hleft ▸ left_of_acts hacts)
      ((hacts.moves output).kept hkept) (fun captured h => absurd ⟨captured, h⟩ hended) rfl
    exact ⟨last, hdrains.trans hlast, hdone⟩
  cases hreader : (state.streams output).reader with
  | done captured =>
    exact ⟨state, ⟨.refl, rfl, rfl, fun _ _ => rfl⟩, hwhole captured hreader ▸ hreader⟩
  | storing =>
    have hacts : Acts limits (.reader output) state _ := .store hreader
    refine hnext hacts
      (drains_on (fun s => { s with reader := .reading }) (.inr ⟨_, hacts⟩) rfl rfl rfl) ?_
    rintro ⟨captured, h⟩
    simp [State.on] at h
  | reading =>
    by_cases hmore : (state.streams output).taken < (state.streams output).written.length
    · have hacts : Acts limits (.reader output) state _ :=
        .read 1 hreader one_pos (by decide) hmore
      refine hnext hacts (drains_on _ (.inr ⟨_, hacts⟩) rfl rfl rfl) ?_
      simpa [State.on] using not_ended_read
    · have hall := hkept.taken.antisymm (not_lt.mp hmore)
      have hclosed : (threads limits).Step state _ := .inl (.close output)
      have hended : (threads limits).Step (state.on output fun s => { s with closed := true }) _ :=
        .inr ⟨.reader output, .endOfFile (by simpa [State.on] using hreader)
          (by simp [State.on]) (by simpa [State.on] using hall)⟩
      refine ⟨_, (drains_on _ hclosed rfl rfl rfl).trans (drains_on _ hended rfl rfl rfl), ?_⟩
      simp [State.on, hkept.kept, hall]

theorem kept_of_run (h : ReflTransGen (threads limits).Step {} state) (output : Output) :
    (state.streams output).Kept limits.outputLimitBytes := by
  induction h with
  | refl => exact ⟨le_rfl, by simp⟩
  | tail _ hstep ih => exact (moves_of_step hstep output).kept ih

/-- The loop can miss an overrun that is not noticed once the child has exited. -/
theorem missed_of_not_noticed (hchild : state.child = some ⟨some 0⟩)
    (hcancelled : state.cancelled = false) (htime : state.elapsed < limits.timeout)
    (h : ¬Noticed state) :
    ∃ status, ReflTransGen (threads limits).Step state
      { state with point := .join .succeeded status } := by
  let ends (point : Point) := ∃ status, ReflTransGen (threads limits).Step
    { state with point := point } { state with point := .join .succeeded status }
  have hnext : ∀ point, Ready .loop { state with point := point } →
      ends (State.poll limits { state with point := point }) → ends point :=
    fun point hready ⟨status, hrun⟩ => ⟨status, .head (.inr ⟨.loop, .poll hready⟩) hrun⟩
  have hwait : ends .wait :=
    hnext _ trivial ⟨_, by simpa [State.poll, afterWait, hchild] using .refl⟩
  have htimeout : ends .timeout :=
    hnext _ trivial (by simpa [State.poll, not_le.mpr htime] using hwait)
  have hexceeded : state.exceeded = false → ends .exceeded :=
    fun hflag => hnext _ trivial (by simpa [State.poll, hflag] using htimeout)
  have hfirst : state.exceeded = false → ends .cancelled :=
    fun hflag => hnext _ trivial (by simpa [State.poll, hcancelled] using hexceeded hflag)
  show ends state.point
  cases hpoint : state.point with
  | cancelled => exact hfirst (by simpa [Noticed, hpoint] using h)
  | exceeded => exact hexceeded (by simpa [Noticed, hpoint] using h)
  | timeout => exact htimeout
  | wait => exact hwait
  | reap disposition => exact absurd (by simp [Noticed, hpoint]) h
  | join disposition status =>
    simp only [Noticed, hpoint, ne_eq, not_not] at h
    exact ⟨status, h ▸ .refl⟩

end Runs

/-- Oversized output is not accepted in any run in which every overrun is noticed by the time
the child has exited; and where one is not, with the clock and the canceller leaving the loop
alone, the run can go on to succeed with the output cut at the limit. -/
theorem oversized_output_refused (limits : AcquisitionLimits) :
    (∀ state process, Runs limits {} state → state.capture = some process →
      Oversized limits state → process.disposition ≠ .succeeded ∧
        ∀ contract manifest, ¬Accepted (collect contract manifest process)) ∧
      ∀ state, ReflTransGen (threads limits).Step {} state → state.child = some ⟨some 0⟩ →
        Oversized limits state → ¬Noticed state → state.cancelled = false →
        state.elapsed < limits.timeout →
        (∀ output, (state.streams output).Whole limits.outputLimitBytes) →
        ∃ last process, ReflTransGen (threads limits).Step state last ∧
          last.capture = some process ∧ Oversized limits last ∧ process.disposition = .succeeded ∧
          process.stdout = (last.streams .stdout).written.take limits.outputLimitBytes ∧
          process.stderr = (last.streams .stderr).written.take limits.outputLimitBytes := by
  constructor
  · intro state process hrun hcapture hover
    have hother : process.disposition ≠ .succeeded := by
      intro hsucceeded
      unfold State.capture at hcapture
      split at hcapture
      · rename_i disposition status _ _ hpoint _ _
        cases hcapture
        subst hsucceeded
        have hchild : state.child ≠ none := fun hnone => hrun.sound.running hnone status hpoint
        have hnoticed := hrun.sound.noticed ⟨hchild, hover⟩
        simp [Noticed, hpoint] at hnoticed
      · cases hcapture
    exact ⟨hother, fun contract manifest => not_accepted hother⟩
  · intro state hrun hchild hover hnoticed hcancelled htime hwhole
    obtain ⟨status, hjoined⟩ := missed_of_not_noticed hchild hcancelled htime hnoticed
    obtain ⟨middle, hout, hstdout⟩ := exists_drains .stdout
      (kept_of_run (hrun.trans hjoined) .stdout) (hwhole .stdout)
    have hafter := hjoined.trans hout.run
    obtain ⟨last, herr, hstderr⟩ := exists_drains .stderr (kept_of_run (hrun.trans hafter) .stderr)
      (hout.others .stderr (by decide) ▸ hwhole .stderr)
    rw [← herr.others .stdout (by decide)] at hstdout
    have hpoint : last.point = .join .succeeded status := herr.point.trans hout.point
    have hwritten : ∀ output, (last.streams output).written = (state.streams output).written := by
      rintro (_ | _)
      · rw [herr.others .stdout (by decide), hout.written]
      · rw [herr.written, hout.others .stderr (by decide)]
    refine ⟨last, ⟨.succeeded, status.bind ExitStatus.code, _, _⟩, hafter.trans herr.run, ?_, ?_,
      rfl, rfl, rfl⟩
    · rw [State.capture, hpoint, hstdout, hstderr]
    · simpa only [Oversized, hwritten] using hover

namespace Reference

/-- A contract whose status is two bytes long. -/
def contract : Contract where
  decode bytes := if bytes = [1, 2] then .ok ⟨[("disk", true)]⟩ else .error "expected value"
  validate _ := []

/-- The overrun is seen while the producer still runs. -/
theorem oversized_output_refused_noticed :
    ∃ state process, Runs limits {} state ∧ state.capture = some process ∧
      Oversized limits state ∧ process.disposition ≠ .succeeded := by
  have calm : ∀ {before after : State}, (threads limits).Step before after →
      (Spent limits after → Spent limits before) → NoticedStep limits before after :=
    fun hstep hsame => ⟨hstep, fun hafter hbefore => absurd (hsame hafter) hbefore⟩
  have running : ∀ {before after : State}, (threads limits).Step before after →
      after.child = none → NoticedStep limits before after :=
    fun hstep hnone => calm hstep fun hafter => absurd hnone hafter.1
  have hwritten : Runs limits {} _ := .single (running (.inl (.write .stdout [1, 2, 3] rfl)) rfl)
  have hread := hwritten.tail (running
    (.inr ⟨.reader .stdout, .read 3 rfl (by decide) (by decide) (by decide)⟩) rfl)
  have hstored := hread.tail (running (.inr ⟨.reader .stdout, .store rfl⟩) rfl)
  have hcancelled := hstored.tail (running (.inr ⟨.loop, .poll trivial⟩) rfl)
  have hexceeded := hcancelled.tail (running (.inr ⟨.loop, .poll trivial⟩) rfl)
  have hexited := hexceeded.tail ⟨.inl (.exit ⟨none⟩ rfl), fun _ _ => trivial⟩
  have hreaped := hexited.tail (calm (.inr ⟨.loop, .poll (Option.some_ne_none _)⟩) id)
  have hclosed := hreaped.tail (calm (.inl (.close .stdout))
    fun _ => ⟨Option.some_ne_none _, .stdout, by decide⟩)
  have hclosed' := hclosed.tail (calm (.inl (.close .stderr))
    fun _ => ⟨Option.some_ne_none _, .stdout, by decide⟩)
  have hended := hclosed'.tail (calm (.inr ⟨.reader .stdout, .endOfFile rfl rfl rfl⟩)
    fun _ => ⟨Option.some_ne_none _, .stdout, by decide⟩)
  have hrun := hended.tail (calm (.inr ⟨.reader .stderr, .endOfFile rfl rfl rfl⟩)
    fun _ => ⟨Option.some_ne_none _, .stdout, by decide⟩)
  exact ⟨_, ⟨.outputLimitExceeded, none, [1, 2], []⟩, hrun, rfl, ⟨.stdout, by decide⟩,
    ((oversized_output_refused limits).1 _ _ hrun rfl ⟨.stdout, by decide⟩).1⟩

/-- The producer writes three bytes and exits; the loop asks for the child before the reader
has looked at them.  The first two bytes are accepted as its status. -/
theorem truncated_output_accepted :
    ∃ state process, ReflTransGen (threads limits).Step {} state ∧ state.capture = some process ∧
      Oversized limits state ∧
      collect contract [⟨"disk", true⟩] process = (.acquiredAndValidated, [.observed]) := by
  have hwritten : ReflTransGen (threads limits).Step {} _ :=
    .single (.inl (.write .stdout [1, 2, 3] rfl))
  have hexited := hwritten.tail (.inl (.exit ⟨some 0⟩ rfl))
  have hcancelled := hexited.tail (.inr ⟨.loop, .poll trivial⟩)
  have hexceeded := hcancelled.tail (.inr ⟨.loop, .poll trivial⟩)
  have htimeout := hexceeded.tail (.inr ⟨.loop, .poll trivial⟩)
  have hwaited := htimeout.tail (.inr ⟨.loop, .poll trivial⟩)
  have hread := hwaited.tail
    (.inr ⟨.reader .stdout, .read 3 rfl (by decide) (by decide) (by decide)⟩)
  have hstored := hread.tail (.inr ⟨.reader .stdout, .store rfl⟩)
  have hclosed := hstored.tail (.inl (.close .stdout))
  have hclosed' := hclosed.tail (.inl (.close .stderr))
  have hended := hclosed'.tail (.inr ⟨.reader .stdout, .endOfFile rfl rfl rfl⟩)
  have hrun := hended.tail (.inr ⟨.reader .stderr, .endOfFile rfl rfl rfl⟩)
  exact ⟨_, ⟨.succeeded, some 0, [1, 2], []⟩, hrun, rfl, ⟨.stdout, by decide⟩, by decide⟩

end Reference

end ConstellationMonitor.Concerns

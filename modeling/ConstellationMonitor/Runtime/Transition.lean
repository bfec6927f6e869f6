/-
  What the runtime can do to its board, said once.

  Every invariant of whole runs is a case analysis over the relations of this file.
  `Visited` is a handler's work for one consumer: take the state out, call the evaluator,
  put the state back, apply the evaluation.  `Loss` is the same work cut short by an error
  while the state was out.  `Calm` collects what leaves tracker and custody alone, `Step`
  all that one input can do, and `Turn` adds the queue and the clock.
-/
import ConstellationMonitor.Runtime.Board

namespace ConstellationMonitor.Runtime

open Foundation ConstellationMonitor.Types Evaluation
open Std (ExtTreeMap)
open Relation (ReflTransGen)

/-! ## Applying an evaluation -/

/-- Two cores from which the same certificates are drafted, but for their bindings. -/
structure SameGround (core other : RuntimeCore) : Prop where
  config : other.config = core.config
  remoteObservationCustody : other.remoteObservationCustody = core.remoteObservationCustody

/-- The slot of a consumer holds this binding, qualified and matched for a context. -/
def RuntimeCore.Binds (core : RuntimeCore) (key : ConsumerKey) (context : RelianceContextV1)
    (binding : QualifiedGenerationBindingV1) : Prop :=
  ∃ slot accepted, core.qualifiedBindings[key]? = some slot ∧
    slot.state = .qualifiedAndMatched ∧ slot.accepted = some accepted ∧
    accepted.binding = binding ∧ bindingMatches binding key context = true

/-- The owners of requests after a dispatch decision. -/
def RuntimeCore.ownersAfter (core : RuntimeCore) (key : ConsumerKey) :
    Dispatch → ExtTreeMap EscalationRequestId (ConsumerKey × Nat)
  | .pushed request =>
    core.requestOwners.insert request.requestId (key, request.expiresAtMonotonicMs)
  | _ => core.requestOwners

/-- The ways in which an evaluation may be applied to a consumer whose state was put
back. -/
inductive Outcome (host : Host) (key : ConsumerKey) (core : RuntimeCore)
    (state : ConsumerState) (evaluation : EvaluationOutput) (atMs : Nat) (last : Board) :
    Prop where
  /-- the certificate would be over its bounds -/
  | withheld
      (stored : last.consumers[key]? = some { state with certificate := none })
      (clear : ∀ schedule ∈ last.schedules, schedule.owner ≠ key)
  /-- a valid certificate is stored, and its deadline is the consumer's only one -/
  | issued (ground : RuntimeCore) (binding : Option QualifiedGenerationBindingV1)
      (same : SameGround core ground)
      (valid : (ground.supportCertificate host.toPlatform key state evaluation atMs
        binding).validate host.toPlatform = .ok ())
      (stored : last.consumers[key]? = some
        { state with
          certificate := some
            (ground.supportCertificate host.toPlatform key state evaluation atMs binding) })
      (scheduled : ∀ schedule : ScheduleKey, schedule.owner = key →
        (schedule ∈ last.schedules ↔
          (ground.supportCertificate host.toPlatform key state evaluation atMs
              binding).earliestSupportExpiryMonotonicMs = some schedule.deadlineMonotonicMs ∧
            schedule.activationId = state.context.activationId))
      (bound : certifiedJudgment evaluation binding = .current → ∀ generation ∈ binding,
        last.Binds key state.context generation)
  /-- the active artifacts could not be measured for a CURRENT evaluation -/
  | unmeasured (error : QualificationError) (current : evaluation.judgment.category = .current)
      (refused : activeRuntimeMeasurements host core.config state.registration = .error error)
      (gone : last.consumers[key]? = none)
      (clear : ∀ schedule ∈ last.schedules, schedule.owner ≠ key)
  /-- the certificate failed its validation -/
  | invalid (ground : RuntimeCore) (binding : Option QualifiedGenerationBindingV1)
      (error : RuntimeTypeError) (same : SameGround core ground)
      (refused : (ground.supportCertificate host.toPlatform key state evaluation atMs
        binding).validate host.toPlatform = .error error)
      (gone : last.consumers[key]? = none)
      (clear : ∀ schedule ∈ last.schedules, schedule.owner ≠ key)

/-- What applying an evaluation does besides its outcome. -/
structure Settled (key : ConsumerKey) (evaluation : EvaluationOutput) (entry last : Board) :
    Prop extends Frame entry last where
  trail : last.trail = entry.trail
  others : ∀ other, other ≠ key → last.consumers[other]? = entry.consumers[other]?
  schedules : ∀ schedule : ScheduleKey, schedule.owner ≠ key →
    (schedule ∈ last.schedules ↔ schedule ∈ entry.schedules)
  requestOwners : last.requestOwners = entry.ownersAfter key (entry.dispatch key evaluation)
  qualifiedBindings : ∀ other, other ≠ key →
    last.qualifiedBindings[other]? = entry.qualifiedBindings[other]?

/-- What applying an evaluation does to the board it is applied on. -/
structure Applied (host : Host) (key : ConsumerKey) (state : ConsumerState)
    (evaluation : EvaluationOutput) (atMs : Nat) (entry last : Board) : Prop extends
    Settled key evaluation entry last where
  outcome : Outcome host key entry.toRuntimeCore state evaluation atMs last

/-! ## Visits -/

/-- A custody reference that fits the frame it arrived with. -/
structure CustodyFits (frame : PulseFrameV1) (custody : RemoteObservationCustodyReferenceV1) :
    Prop where
  subject : custody.subjectScope.subject = frame.subject
  subjectIncarnation : custody.subjectScope.subjectIncarnation = frame.subjectIncarnation
  evidence : custody.supportingEvidenceId = evidenceRef frame

/-- The pulse the input last taken off the queue has brought, with the core it came to. -/
def pulseUnderway : List Moment → Option (RuntimeCore × Delivery)
  | [] => none
  | .taken _ _ _ :: _ => none
  | .pulse before delivery :: _ => some (before, delivery)
  | _ :: rest => pulseUnderway rest

/-- An annotated pulse is under delivery: the tracker has annotated the pulse underway, and
the table holds the custody it came with. -/
structure Delivered (host : Host) (received : ReceivedPulseV1)
    (origin : Option RemoteObservationCustodyReferenceV1)
    (pulsed : RuntimeCore) (delivery : Delivery) (board : Board) : Prop where
  underway : pulseUnderway board.trail = some (pulsed, delivery)
  frame : delivery.ingress.frame = received.frame
  custody : delivery.custody = origin
  annotated : pulsed.receiver.annotate host.sha256 received.frame delivery.arrivalAt
    delivery.ingress.transportPath delivery.ingress.transportObservedDelayMs
    delivery.ingress.authentication = .ok (received.receiver, board.receiver)
  named : board.remoteObservationCustody[(received.frame.subject, received.frame.observer)]? =
    origin
  fits : ∀ reference ∈ origin, CustodyFits received.frame reference

/-- Where the arguments of a call come from: dispositions and receipts go to the owner of
their request, and a pulse is the one under delivery. -/
def Visit.Lawful (host : Host) (visit : Visit) (board : Board) : Prop :=
  match visit.call with
  | .disposition disposition =>
    ∃ expiry, board.requestOwners[disposition.requestId]? = some (visit.key, expiry)
  | .receipt receipt =>
    ∃ expiry, board.requestOwners[receipt.requestId]? = some (visit.key, expiry)
  | .ingest received =>
    received.frame.subject = visit.key.subject ∧
      ∃ pulsed delivery, Delivered host received visit.origin pulsed delivery board
  | _ => True

/-- A visit has begun: after some work on the side the consumer's state was found. -/
structure Begun (host : Host) (visit : Visit) (start : Board) where
  before : Board
  lead : Aside visit.key start before
  state : ConsumerState
  found : before.consumers[visit.key]? = some state
  lawful : visit.Lawful host before
  timely : before.currentMonotonicMs ≤ visit.appliedAtMs

/-- A visit was made. -/
structure Visited (host : Host) (visit : Visit) (start last : Board) extends
    Begun host visit start where
  evaluation : EvaluationOutput
  evaluator : Evaluator
  performed : state.evaluator.perform host.toPlatform visit.call visit.atMs =
    .ok (evaluation, evaluator)
  /-- the state that was put back -/
  updated : ConsumerState
  updated_evaluator : updated.evaluator = evaluator
  updated_certificate : updated.certificate = state.certificate
  frame : Frame before last
  trail : last.trail = .visit before.toRuntimeCore visit :: before.trail
  others : ∀ other, other ≠ visit.key → last.consumers[other]? = before.consumers[other]?
  schedules : ∀ schedule : ScheduleKey, schedule.owner ≠ visit.key →
    (schedule ∈ last.schedules ↔ schedule ∈ before.schedules)
  requestOwners : last.requestOwners =
    before.ownersAfter visit.key (before.dispatch visit.key evaluation)
  qualifiedBindings : ∀ other, other ≠ visit.key →
    last.qualifiedBindings[other]? = before.qualifiedBindings[other]?
  outcome : Outcome host visit.key before.toRuntimeCore updated evaluation visit.appliedAtMs last

/-- The board while a visited consumer's state is out. -/
def Board.takenOut (visit : Visit) (board : Board) : Board :=
  { board with
    consumers := board.consumers.erase visit.key
    trail := .visit board.toRuntimeCore visit :: board.trail }

/-- A visit was cut short while the consumer's state was out. -/
structure Loss (host : Host) (visit : Visit) (start last : Board) extends
    Begun host visit start where
  rest : Aside visit.key (before.takenOut visit) last
  reason :
    (∃ error, state.evaluator.perform host.toPlatform visit.call visit.atMs = .error error) ∨
    ∃ error, activeRuntimeMeasurements host before.config state.registration = .error error

/-- Some consumer was visited. -/
def Visits (host : Host) (before after : Board) : Prop :=
  ∃ visit, Nonempty (Visited host visit before after)

/-- Some consumer was lost. -/
def Loses (host : Host) (before after : Board) : Prop :=
  ∃ visit, Nonempty (Loss host visit before after)

/-! ## Steps -/

/-- A consumer entered under a subject. -/
def Board.enrolled (board : Board) (registration : ConsumerRegistrationV1)
    (evaluator : Evaluator) : Board :=
  let key := policyKey registration.policy
  let subject := board.subjects[key.subject]?.getD {}
  { board with
    consumers := board.consumers.insert key (initialState registration evaluator)
    subjects := board.subjects.insert key.subject
      { subject with
        consumers := subject.consumers.insert key.consumer
        subjectIncarnations :=
          subject.subjectIncarnations.insert registration.subjectIncarnation }
    trail := .registered board.toRuntimeCore registration :: board.trail }

/-- What the runtime does between two changes of tracker or custody table. -/
inductive Calm (host : Host) : Board → Board → Prop where
  /-- bookkeeping -/
  | noted {before after : Board} (noted : Noted before after) : Calm host before after
  /-- the slot and deadlines of a key without a consumer change -/
  | beside {before after : Board} {key : ConsumerKey}
      (absent : before.consumers[key]? = none) (aside : Aside key before after) :
      Calm host before after
  /-- a deadline no consumer waits for is dropped -/
  | released {before : Board} (schedule : ScheduleKey)
      (stale : ∀ state, before.consumers[schedule.owner]? = some state →
        state.context.activationId ≠ schedule.activationId) :
      Calm host before { before with schedules := before.schedules.erase schedule }
  /-- the observers or incarnations noted for a subject change -/
  | surveyed {before : Board} (subjects : ExtTreeMap SubjectId SubjectState)
      (same : ∀ subject : SubjectId, subjects[subject]?.map SubjectState.consumers =
        before.subjects[subject]?.map SubjectState.consumers) :
      Calm host before { before with subjects := subjects }
  /-- a consumer is visited -/
  | visited {before after : Board} (visit : Visit) (visited : Visited host visit before after) :
      Calm host before after
  /-- a consumer is registered -/
  | enrolled {before : Board} (registration : ConsumerRegistrationV1) (evaluator : Evaluator)
      (absent : before.consumers[policyKey registration.policy]? = none)
      (unexhausted : before.historyExhausted = false)
      (made : before.newEvaluator registration = .ok evaluator) :
      Calm host before (before.enrolled registration evaluator)
  /-- recovery hands a consumer its contradiction records -/
  | reinstated {before : Board} (key : ConsumerKey) (state : ConsumerState)
      (records : List ContradictionRecordV1) (evaluator : Evaluator)
      (found : before.consumers[key]? = some state)
      (made : state.evaluator.importContradictions records = .ok evaluator) :
      Calm host before
        { before with
          consumers := before.consumers.insert key { state with evaluator := evaluator } }

/-- The custody table after a pulse. -/
def RuntimeCore.custodyAfter (core : RuntimeCore) (frame : PulseFrameV1) :
    Option RemoteObservationCustodyReferenceV1 →
      ExtTreeMap (SubjectId × ObserverId) RemoteObservationCustodyReferenceV1
  | some custody => core.remoteObservationCustody.insert (frame.subject, frame.observer) custody
  | none => core.remoteObservationCustody.erase (frame.subject, frame.observer)

/-- The input just taken off the queue is the pulse to deliver. -/
def Board.Delivers (board : Board) (delivery : Delivery) : Prop :=
  ∃ core key input rest, board.trail = .taken core key input :: rest ∧
    input.delivery key.atMonotonicMs = some delivery

/-- The board of a pulse that has passed the capacity checks. -/
def Board.pulsed (board : Board) (delivery : Delivery) : Board :=
  { board with
    remoteObservationCustody := board.custodyAfter delivery.ingress.frame delivery.custody
    trail := .pulse board.toRuntimeCore delivery :: board.trail }

/-- The board of an input taken off the queue. -/
def Board.taken (board : Board) (key : PendingKey) (input : RuntimeInputV1) : Board :=
  { board with
    pending := board.pending.erase key
    trail := .taken board.toRuntimeCore key input :: board.trail }

/-- The board of a subject replacement the tracker accepted. -/
def Board.replaced (board : Board) (subject : SubjectId) (replacement : IncarnationId)
    (receiver : ReceiverTracker) : Board :=
  { board with
    receiver := receiver
    trail := .replaced board.toRuntimeCore subject replacement :: board.trail }

/-- The standing of a latched consumer: its monitor is blind and its certificate is not
CURRENT. -/
structure ConsumerState.Latched (state : ConsumerState) : Prop where
  blind : ∃ detail, state.evaluator.monitorCapability = .blind detail
  withdrawn : state.holdsCurrent = false

/-- Everything one input or management operation can do. -/
inductive Step (host : Host) : Board → Board → Prop where
  | calm {before after : Board} (calm : Calm host before after) : Step host before after
  /-- a pulse passed the capacity checks -/
  | pulsed {before : Board} (delivery : Delivery) (due : before.Delivers delivery)
      (fits : ∀ reference ∈ delivery.custody, CustodyFits delivery.ingress.frame reference) :
      Step host before (before.pulsed delivery)
  /-- the tracker annotated an arrival -/
  | annotated {before : Board} (receiver : ReceiverTracker) :
      Step host before { before with receiver := receiver }
  /-- the tracker was told of a subject replacement -/
  | replaced {before : Board} (subject : SubjectId) (replacement : IncarnationId)
      (receiver : ReceiverTracker) :
      Step host before (before.replaced subject replacement receiver)
  /-- an exhausted history latched every consumer -/
  | latched {before after : Board} (exhausted : before.historyExhausted = true)
      (visits : ReflTransGen (Visits host)
        { before with historyBlindnessLatched := true } after)
      (all : ∀ (key : ConsumerKey) (state : ConsumerState),
        after.consumers[key]? = some state → state.Latched) :
      Step host before after

/-- Steps of a call, the queue and the clock. -/
inductive Turn (step : Board → Board → Prop) : Board → Board → Prop where
  | step {before after : Board} (stepped : step before after) : Turn step before after
  /-- an input is put into the queue -/
  | queued {before : Board} (key : PendingKey) (input : RuntimeInputV1)
      (timely : before.currentMonotonicMs ≤ key.atMonotonicMs)
      (next : key.ingressOrdinal = before.ingressCounter + 1) :
      Turn step before
        { before with
          ingressCounter := key.ingressOrdinal
          pending := before.pending.insert key input }
  /-- an input is taken off the queue -/
  | taken {before : Board} (key : PendingKey) (input : RuntimeInputV1)
      (found : before.pending[key]? = some input)
      (due : key.atMonotonicMs ≤ before.currentMonotonicMs)
      (first : ∀ other ∈ before.pending, key.atMonotonicMs ≤ other.atMonotonicMs) :
      Turn step before (before.taken key input)
  /-- a management operation sets the clock -/
  | ticked {before : Board} (now : Nat) (later : before.currentMonotonicMs ≤ now) :
      Turn step before { before with currentMonotonicMs := now }
  /-- `run_until` sets the clock and forgets the requests that expired -/
  | advanced {before : Board} (now : Nat) (later : before.currentMonotonicMs ≤ now) :
      Turn step before
        { before with
          currentMonotonicMs := now
          requestOwners := before.requestOwners.filter fun _ owner => decide (now < owner.2) }

/-- The board of a runtime that has done nothing yet. -/
structure Fresh (board : Board) : Prop where
  subjects : board.subjects = ∅
  consumers : board.consumers = ∅
  remoteObservationCustody : board.remoteObservationCustody = ∅
  pending : board.pending = ∅
  schedules : board.schedules = ∅
  requestOwners : board.requestOwners = ∅
  historyExhausted : board.historyExhausted = false
  historyBlindnessLatched : board.historyBlindnessLatched = false
  receiver : board.receiver =
    .new board.config.receiver board.config.receiverIncarnation board.config.clockId
  trail : board.trail = []

end ConstellationMonitor.Runtime

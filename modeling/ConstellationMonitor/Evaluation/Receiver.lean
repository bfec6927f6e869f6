/-
  The receiver tracker (`pulse-evaluator/src/receiver.rs`): the receiver's own view of
  which observer lineage each stream is in, from which it annotates an arrival.
-/
import ConstellationMonitor.Types.Pulse

namespace ConstellationMonitor.Evaluation

open Foundation ConstellationMonitor.Types
open Std (ExtTreeMap ExtTreeSet)

/-- `ReceiverStreamKey`. -/
structure ReceiverStreamKey where
  subject : SubjectId
  observer : ObserverId
  profile : ObservationProfileIdV1
  observationPolicyGeneration : ObservationPolicyGenerationId
  deriving DecidableEq

namespace ReceiverStreamKey

/-- The fields in declaration order, which the derived order compares. -/
def fields (key : ReceiverStreamKey) :
    SubjectId × ObserverId × ObservationProfileIdV1 × ObservationPolicyGenerationId :=
  (key.subject, key.observer, key.profile, key.observationPolicyGeneration)

theorem fields_injective : Function.Injective fields := by
  intro left right h
  cases left
  cases right
  simp_all [fields]

instance : Ord ReceiverStreamKey := ordOf fields

instance : Std.TransOrd ReceiverStreamKey := transOrd_ordOf _

instance : Std.LawfulEqOrd ReceiverStreamKey := lawfulEqOrd_ordOf fields_injective

instance transOrd_incarnation : Std.TransOrd (ReceiverStreamKey × IncarnationId) := inferInstance

end ReceiverStreamKey

/-- A lineage position: the receiver's `ReceiverStream` and the evaluator's
`ObserverLineage`, which have the same two fields. -/
structure Lineage where
  incarnation : IncarnationId
  sequence : Nat
  deriving DecidableEq

/-- How a sequence number continues a lineage position of the same incarnation. -/
def Lineage.classifySequence (lineage : Lineage) (sequence : Nat) :
    ArrivalDispositionV1 × Option SequenceGapV1 :=
  if sequence = lineage.sequence then (.duplicate, none)
  else if sequence < lineage.sequence then (.replay, none)
  else if sequence = satAdd lineage.sequence 1 then (.continuous, none)
  else
    let expectedNext := satAdd lineage.sequence 1
    (.gap, some ⟨expectedNext, sequence, sequence - expectedNext⟩)

/-- `ReceiverTracker`. -/
structure ReceiverTracker where
  receiver : ReceiverId
  receiverIncarnation : IncarnationId
  clockId : ClockId
  streams : ExtTreeMap ReceiverStreamKey Lineage
  retired : ExtTreeSet (ReceiverStreamKey × IncarnationId)
  subjectIncarnations : ExtTreeMap SubjectId IncarnationId
  retiredSubjectIncarnations : ExtTreeSet (SubjectId × IncarnationId)

namespace ReceiverTracker

/-- `ReceiverTracker::new`. -/
def new (receiver : ReceiverId) (receiverIncarnation : IncarnationId) (clockId : ClockId) :
    ReceiverTracker where
  receiver := receiver
  receiverIncarnation := receiverIncarnation
  clockId := clockId
  streams := ∅
  retired := ∅
  subjectIncarnations := ∅
  retiredSubjectIncarnations := ∅

/-- The stream a frame belongs to. -/
def streamKey (frame : PulseFrameV1) : ReceiverStreamKey where
  subject := frame.subject
  observer := frame.observer
  profile := frame.profile
  observationPolicyGeneration := frame.observationPolicyGeneration

/-- The subject part of `annotate`: a frame of an incarnation not yet retired makes that
incarnation the active one and retires the one before it. -/
def observeSubject (frame : PulseFrameV1) (tracker : ReceiverTracker) : ReceiverTracker :=
  match tracker.subjectIncarnations[frame.subject]? with
  | some prior =>
    if prior ≠ frame.subjectIncarnation then
      { tracker with
        retiredSubjectIncarnations :=
          tracker.retiredSubjectIncarnations.insert (frame.subject, prior)
        subjectIncarnations :=
          tracker.subjectIncarnations.insert frame.subject frame.subjectIncarnation }
    else tracker
  | none =>
    { tracker with
      subjectIncarnations :=
        tracker.subjectIncarnations.insert frame.subject frame.subjectIncarnation }

/-- The stream part of `annotate`: classify the frame and advance its stream. -/
def observeStream (frame : PulseFrameV1) (tracker : ReceiverTracker) :
    (ArrivalDispositionV1 × Option SequenceGapV1) × ReceiverTracker :=
  let key := streamKey frame
  let advanced : ReceiverTracker :=
    { tracker with
      streams := tracker.streams.insert key ⟨frame.observerIncarnation, frame.sequence⟩ }
  match tracker.streams[key]? with
  | some stream =>
    if stream.incarnation = frame.observerIncarnation then
      let classified := stream.classifySequence frame.sequence
      if frame.sequence ≤ stream.sequence then (classified, tracker)
      else (classified, advanced)
    else if tracker.retired.contains (key, frame.observerIncarnation) then
      ((.replay, none), tracker)
    else
      ((.restarted, none),
        { advanced with retired := tracker.retired.insert (key, stream.incarnation) })
  | none => ((.first, none), advanced)

/-- The annotation of an arrival under this tracker's identity. -/
def annotation (tracker : ReceiverTracker) (arrivalMonotonicMs : Nat)
    (disposition : ArrivalDispositionV1) (sequenceGap : Option SequenceGapV1)
    (transportPath : Text) (transportObservedDelayMs : Option Nat)
    (authentication : AuthenticationResultV1) : ReceiverAnnotationV1 where
  schemaVersion := schemaVersionV1
  receiver := tracker.receiver
  receiverIncarnation := tracker.receiverIncarnation
  clockId := tracker.clockId
  arrivalMonotonicMs := arrivalMonotonicMs
  disposition := disposition
  sequenceGap := sequenceGap
  transportPath := transportPath
  transportObservedDelayMs := transportObservedDelayMs
  authentication := authentication

/-- `ReceiverTracker::annotate`.  An error is raised before anything changes. -/
def annotate (sha256 : Sha256) (frame : PulseFrameV1) (arrivalMonotonicMs : Nat)
    (transportPath : Text) (transportObservedDelayMs : Option Nat)
    (authentication : AuthenticationResultV1) (tracker : ReceiverTracker) :
    Except PulseError (ReceiverAnnotationV1 × ReceiverTracker) := do
  frame.validate sha256
  let effectiveStale := transportObservedDelayMs.any fun delay =>
    decide (delay ≥ frame.validityMs)
  if effectiveStale then
    return (tracker.annotation arrivalMonotonicMs .stale none transportPath
      transportObservedDelayMs authentication, tracker)
  else if tracker.retiredSubjectIncarnations.contains
      (frame.subject, frame.subjectIncarnation) then
    return (tracker.annotation arrivalMonotonicMs .replay none transportPath
      transportObservedDelayMs authentication, tracker)
  else
    let ((disposition, sequenceGap), next) := (tracker.observeSubject frame).observeStream frame
    return (tracker.annotation arrivalMonotonicMs disposition sequenceGap transportPath
      transportObservedDelayMs authentication, next)

/-- An annotation names the arrival it was asked for. -/
theorem annotate_arrival {sha256 : Sha256} {frame : PulseFrameV1} {arrivalMonotonicMs : Nat}
    {transportPath : Text} {transportObservedDelayMs : Option Nat}
    {authentication : AuthenticationResultV1} {tracker next : ReceiverTracker}
    {annotated : ReceiverAnnotationV1}
    (h : tracker.annotate sha256 frame arrivalMonotonicMs transportPath transportObservedDelayMs
      authentication = .ok (annotated, next)) :
    annotated.arrivalMonotonicMs = arrivalMonotonicMs := by
  simp only [annotate, check_bind_eq_ok] at h
  obtain ⟨-, h⟩ := h
  repeat' split at h
  all_goals
    obtain ⟨rfl, -⟩ := Prod.mk.inj (Except.ok.inj h)
    rfl

/-- `ReceiverTracker::activate_subject_incarnation`. -/
def activateSubjectIncarnation (subject : SubjectId) (replacement : IncarnationId)
    (tracker : ReceiverTracker) : Except PulseError ReceiverTracker := do
  subject.validate.mapError fun error => ⟨"invalid", "subject", error.reason⟩
  replacement.validate.mapError fun error => ⟨"invalid", "subject_incarnation", error.reason⟩
  let retiredSubjects :=
    match tracker.subjectIncarnations[subject]? with
    | some prior => tracker.retiredSubjectIncarnations.insert (subject, prior)
    | none => tracker.retiredSubjectIncarnations
  let retiring := tracker.streams.toList.filter fun entry => decide (entry.1.subject = subject)
  return { tracker with
    subjectIncarnations := tracker.subjectIncarnations.insert subject replacement
    retiredSubjectIncarnations := retiredSubjects
    streams := retiring.foldl (fun streams entry => streams.erase entry.1) tracker.streams
    retired := retiring.foldl
      (fun retired entry => retired.insert (entry.1, entry.2.incarnation)) tracker.retired }

end ReceiverTracker

end ConstellationMonitor.Evaluation

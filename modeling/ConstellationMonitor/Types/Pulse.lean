/-
  Observation pulses and the receiver's annotation of their arrival
  (`pulse-types/src/pulse.rs`): the records, their validation, and the transcript that
  seals a frame.
-/
import ConstellationMonitor.Types.Identity
import ConstellationMonitor.Foundation.Float64

namespace ConstellationMonitor.Types

open Foundation

/-- `PulseError`. -/
structure PulseError where
  code : Text
  field : Text
  detail : Text
  deriving DecidableEq

namespace PulseError

def invalid (field detail : Text) : PulseError := ⟨"invalid", field, detail⟩

def bound (field : Text) : PulseError :=
  ⟨"bound_exceeded", field, "bounded field exceeds the v1 maximum"⟩

def unsupported (field : Text) : PulseError :=
  ⟨"unsupported", field, "unsupported v1 value"⟩

def truncated : PulseError := ⟨"malformed", "wire frame", "truncated binary frame"⟩

end PulseError

/-- `MAX_COVERAGE_TAGS`. -/
def maxCoverageTags : Nat := 64

/-- `MAX_SIGNALS`. -/
def maxSignals : Nat := 32

/-- `MAX_FIELD_BYTES`. -/
def maxFieldBytes : Nat := 256

/-- `MAX_VALIDITY_MS`. -/
def maxValidityMs : Nat := 60 * 60 * 1000

/-- `validate_field`. -/
def validateField (field value : Text) : Except PulseError Unit := do
  refuseIf value.isEmpty (.invalid field "field is empty")
  refuseIf (decide (value.length > maxFieldBytes)) (.bound field)
  refuseIf value.hasControl (.invalid field "field contains a control character")

/-- The tag loop of `validate_sorted_tags`: each tag is a field, and lies above the tag
before it. -/
def validateSortedTagsFrom (field : Text) : Option Text → List Text → Except PulseError Unit
  | _, [] => .ok ()
  | previous, value :: rest => do
    validateField field value
    refuseIf (previous.any fun prior => (compare prior value).isGE)
      (.invalid field "tags must be unique and sorted")
    validateSortedTagsFrom field (some value) rest

/-- `validate_sorted_tags`. -/
def validateSortedTags (field : Text) (values : List Text) : Except PulseError Unit := do
  refuseIf (decide (values.length > maxCoverageTags)) (.bound field)
  validateSortedTagsFrom field none values

/-! ## Frames -/

/-- `ObservationProfileIdV1`. -/
structure ObservationProfileIdV1 where
  name : Text
  version : Nat
  semanticDigest : DigestV1
  deriving DecidableEq

namespace ObservationProfileIdV1

/-- The fields in declaration order, which the derived order compares. -/
def fields (profile : ObservationProfileIdV1) : Text × Nat × DigestV1 :=
  (profile.name, profile.version, profile.semanticDigest)

theorem fields_injective : Function.Injective fields := by
  intro left right h
  cases left
  cases right
  simp_all [fields]

instance : Ord ObservationProfileIdV1 := ordOf fields

instance : Std.TransOrd ObservationProfileIdV1 := transOrd_ordOf _

instance : Std.LawfulEqOrd ObservationProfileIdV1 := lawfulEqOrd_ordOf fields_injective

/-- `ObservationProfileIdV1::validate`. -/
def validate (profile : ObservationProfileIdV1) : Except PulseError Unit := do
  validateField "profile.name" profile.name
  refuseIf (decide (profile.version = 0))
    (.invalid "profile.version" "version zero is unsupported")
  profile.semanticDigest.validate.mapError (.invalid "profile.semantic_digest")

end ObservationProfileIdV1

/-- `CoverageDescriptorV1`. -/
structure CoverageDescriptorV1 where
  /-- tags the profile expects from this occurrence -/
  expected : List Text
  /-- tags this occurrence supports -/
  observed : List Text
  deriving DecidableEq

/-- `CoverageDescriptorV1::validate`. -/
def CoverageDescriptorV1.validate (coverage : CoverageDescriptorV1) :
    Except PulseError Unit := do
  validateSortedTags "coverage.expected" coverage.expected
  validateSortedTags "coverage.observed" coverage.observed
  refuseIf (coverage.observed.any fun tag => !coverage.expected.contains tag)
    (.invalid "coverage.observed" "observed coverage is not declared in expected coverage")

/-- `SignalAssessmentV1`. -/
inductive SignalAssessmentV1 where
  | observed
  | withinDeclaredBound
  | outsideDeclaredBound
  | unavailable
  deriving DecidableEq

/-- `assessment_tag`. -/
def assessmentTag : SignalAssessmentV1 → UInt8
  | .observed => 0
  | .withinDeclaredBound => 1
  | .outsideDeclaredBound => 2
  | .unavailable => 3

/-- The variant name, as the derived `Debug` prints it. -/
def SignalAssessmentV1.debug : SignalAssessmentV1 → Text
  | .observed => "Observed"
  | .withinDeclaredBound => "WithinDeclaredBound"
  | .outsideDeclaredBound => "OutsideDeclaredBound"
  | .unavailable => "Unavailable"

/-- `BoundedSignalValueV1`. -/
structure BoundedSignalValueV1 where
  name : Text
  value : Float64
  unit : Text
  assessment : SignalAssessmentV1
  deriving DecidableEq

/-- `BoundedSignalValueV1::validate`. -/
def BoundedSignalValueV1.validate (signal : BoundedSignalValueV1) : Except PulseError Unit := do
  validateField "signal.name" signal.name
  validateField "signal.unit" signal.unit
  refuseIf (!signal.value.isFinite) (.invalid "signal.value" "value must be finite")

/-- `AuthenticationFieldV1`. -/
inductive AuthenticationFieldV1 where
  | placeholder (disclosure : Text)
  | mac (scheme keyId tag : Text)
  deriving DecidableEq

/-- `AuthenticationFieldV1::validate`. -/
def AuthenticationFieldV1.validate : AuthenticationFieldV1 → Except PulseError Unit
  | .placeholder disclosure => validateField "authentication.disclosure" disclosure
  | .mac scheme keyId tag => do
    validateField "authentication.scheme" scheme
    validateField "authentication.key_id" keyId
    validateField "authentication.tag" tag

/-- `PulseFrameV1`: one compact observation occurrence. -/
structure PulseFrameV1 where
  schemaVersion : Nat
  subject : SubjectId
  subjectIncarnation : IncarnationId
  observer : ObserverId
  observerIncarnation : IncarnationId
  sequence : Nat
  observerMonotonicNs : Nat
  validityMs : Nat
  profile : ObservationProfileIdV1
  observationPolicyGeneration : ObservationPolicyGenerationId
  coverage : CoverageDescriptorV1
  signals : List BoundedSignalValueV1
  observationDigest : DigestV1
  authentication : AuthenticationFieldV1
  deriving DecidableEq

namespace PulseFrameV1

/-- The parts of one coverage tag: its kind, then the tag. -/
def coverageParts (kind : Text) (tag : Text) : List (List UInt8) := [kind.bytes, tag.bytes]

/-- The parts of one signal. -/
def signalParts (signal : BoundedSignalValueV1) : List (List UInt8) :=
  [ signal.name.bytes, beBytes 8 signal.value.bits.toNat, signal.unit.bytes,
    [assessmentTag signal.assessment] ]

/-- The parts every frame has. -/
def fixedParts (frame : PulseFrameV1) : List (List UInt8) :=
  [ beBytes 2 frame.schemaVersion,
    frame.subject.text.bytes,
    frame.subjectIncarnation.text.bytes,
    frame.observer.text.bytes,
    frame.observerIncarnation.text.bytes,
    beBytes 8 frame.sequence,
    beBytes 8 frame.observerMonotonicNs,
    beBytes 8 frame.validityMs,
    frame.profile.name.bytes,
    beBytes 2 frame.profile.version,
    frame.profile.semanticDigest.text.bytes,
    frame.observationPolicyGeneration.text.bytes ]

/-- The parts `recompute_observation_digest` collects. -/
def observationParts (frame : PulseFrameV1) : List (List UInt8) :=
  fixedParts frame ++ (frame.coverage.expected.flatMap (coverageParts "expected") ++
    (frame.coverage.observed.flatMap (coverageParts "observed") ++
      frame.signals.flatMap signalParts))

/-- `PulseFrameV1::recompute_observation_digest`. -/
def recomputeObservationDigest (sha256 : Sha256) (frame : PulseFrameV1) : DigestV1 :=
  digestParts sha256 "pulse.observation.v1" frame.observationParts

/-- `PulseFrameV1::seal`. -/
def sealed (sha256 : Sha256) (frame : PulseFrameV1) : PulseFrameV1 :=
  { frame with observationDigest := frame.recomputeObservationDigest sha256 }

/-- The signal loop of `PulseFrameV1::validate`. -/
def validateSignalsFrom :
    Option Text → List BoundedSignalValueV1 → Except PulseError Unit
  | _, [] => .ok ()
  | previous, signal :: rest => do
    signal.validate
    refuseIf (previous.any fun name => (compare name signal.name).isGE)
      (.invalid "signals" "signal names must be unique and sorted")
    validateSignalsFrom (some signal.name) rest

/-- Every check of `PulseFrameV1::validate` but the last, the equality of the digests. -/
def validateUnsealed (frame : PulseFrameV1) : Except PulseError Unit := do
  refuseIf (decide (frame.schemaVersion ≠ schemaVersionV1))
    (.unsupported "pulse schema version")
  frame.subject.validate.mapError fun error => .invalid "subject" error.reason
  frame.subjectIncarnation.validate.mapError fun error =>
    .invalid "subject_incarnation" error.reason
  frame.observer.validate.mapError fun error => .invalid "observer" error.reason
  frame.observerIncarnation.validate.mapError fun error =>
    .invalid "observer_incarnation" error.reason
  frame.observationPolicyGeneration.validate.mapError fun error =>
    .invalid "observation_policy_generation" error.reason
  refuseIf (decide (frame.validityMs = 0) || decide (frame.validityMs > maxValidityMs))
    (.invalid "validity_ms" "validity must be nonzero and within the v1 maximum")
  frame.profile.validate
  frame.coverage.validate
  refuseIf (decide (frame.signals.length > maxSignals)) (.bound "signals")
  validateSignalsFrom none frame.signals
  frame.authentication.validate
  frame.observationDigest.validate.mapError (.invalid "observation_digest")

/-- `PulseFrameV1::validate`. -/
def validate (sha256 : Sha256) (frame : PulseFrameV1) : Except PulseError Unit := do
  frame.validateUnsealed
  refuseIf (decide (frame.observationDigest ≠ frame.recomputeObservationDigest sha256))
    (.invalid "observation_digest" "digest does not match the observation transcript")

theorem unsealed_of_validate {sha256 : Sha256} {frame : PulseFrameV1}
    (h : frame.validate sha256 = .ok ()) : frame.validateUnsealed = .ok () :=
  ((check_bind_eq_ok _ _ _).mp h).1

end PulseFrameV1

/-! ## Arrival annotations -/

/-- `ArrivalDispositionV1`. -/
inductive ArrivalDispositionV1 where
  | first
  | continuous
  | gap
  | duplicate
  | replay
  | restarted
  | stale
  deriving DecidableEq

/-- `SequenceGapV1`. -/
structure SequenceGapV1 where
  expectedNext : Nat
  received : Nat
  missingCount : Nat
  deriving DecidableEq

/-- `AuthenticationResultV1`. -/
inductive AuthenticationResultV1 where
  | notChecked
  | unauthenticated (disclosure : Text)
  | verified (method principal : Text)
  | failed (reason : Text)
  deriving DecidableEq

/-- `AuthenticationResultV1::validate`. -/
def AuthenticationResultV1.validate : AuthenticationResultV1 → Except PulseError Unit
  | .notChecked => .ok ()
  | .unauthenticated disclosure =>
    validateField "authentication_result.disclosure" disclosure
  | .verified method principal => do
    validateField "authentication_result.method" method
    validateField "authentication_result.principal" principal
  | .failed reason => validateField "authentication_result.reason" reason

/-- `ReceiverAnnotationV1`: the receiver's own facts about an arrival. -/
structure ReceiverAnnotationV1 where
  schemaVersion : Nat
  receiver : ReceiverId
  receiverIncarnation : IncarnationId
  clockId : ClockId
  arrivalMonotonicMs : Nat
  disposition : ArrivalDispositionV1
  sequenceGap : Option SequenceGapV1
  transportPath : Text
  transportObservedDelayMs : Option Nat
  authentication : AuthenticationResultV1
  deriving DecidableEq

/-- The gap rules at the end of `ReceiverAnnotationV1::validate`. -/
def validateGap : ArrivalDispositionV1 → Option SequenceGapV1 → Except PulseError Unit
  | .gap, some gap =>
    refuseIf (decide (gap.received ≤ gap.expectedNext) ||
        decide (gap.missingCount ≠ gap.received - gap.expectedNext))
      (.invalid "sequence_gap" "gap arithmetic is inconsistent")
  | .gap, none => .error (.invalid "sequence_gap" "gap disposition requires gap detail")
  | _, some _ =>
    .error (.invalid "sequence_gap" "gap detail is only valid for a gap disposition")
  | _, none => .ok ()

/-- `ReceiverAnnotationV1::validate`. -/
def ReceiverAnnotationV1.validate (arrival : ReceiverAnnotationV1) :
    Except PulseError Unit := do
  refuseIf (decide (arrival.schemaVersion ≠ schemaVersionV1))
    (.unsupported "receiver schema version")
  arrival.receiver.validate.mapError fun error => .invalid "receiver" error.reason
  arrival.receiverIncarnation.validate.mapError fun error =>
    .invalid "receiver_incarnation" error.reason
  arrival.clockId.validate.mapError fun error => .invalid "clock_id" error.reason
  validateField "transport_path" arrival.transportPath
  arrival.authentication.validate
  validateGap arrival.disposition arrival.sequenceGap

/-- `ReceivedPulseV1`. -/
structure ReceivedPulseV1 where
  frame : PulseFrameV1
  receiver : ReceiverAnnotationV1
  deriving DecidableEq

/-- `ReceivedPulseV1::validate`. -/
def ReceivedPulseV1.validate (sha256 : Sha256) (received : ReceivedPulseV1) :
    Except PulseError Unit := do
  received.frame.validate sha256
  received.receiver.validate

end ConstellationMonitor.Types

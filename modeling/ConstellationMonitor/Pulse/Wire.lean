/-
  The binary wire form of a pulse (`pulse-types/src/pulse.rs`): the writer's pieces, the
  reader's pieces, and `encode_wire` and `decode_wire` over them.

  The output vector is the writer's state and the part of the input that is left is the
  reader's.
-/
import ConstellationMonitor.Foundation.Wire
import ConstellationMonitor.Types.Pulse

namespace ConstellationMonitor.Pulse

open Foundation ConstellationMonitor.Types

/-- `MAX_WIRE_FRAME_BYTES`. -/
def maxWireFrameBytes : Nat := 64 * 1024

/-- `WIRE_MAGIC`: the bytes of `PLS1`. -/
def wireMagic : List UInt8 := [0x50, 0x4c, 0x53, 0x31]

/-! ## Writing -/

/-- A program that appends to the output. -/
abbrev WireWriter : Type → Type := Wire.Writer PulseError

/-- `extend_from_slice`. -/
def extend (bytes : List UInt8) : WireWriter PUnit := modify (· ++ bytes)

/-- `put_u16`. -/
def putU16 (value : Nat) : WireWriter PUnit := extend (beBytes 2 value)

/-- `put_u64`. -/
def putU64 (value : Nat) : WireWriter PUnit := extend (beBytes 8 value)

/-- `put_string`.  A length within the first bound always fits the `u16`. -/
def putString (value : Text) : WireWriter PUnit := do
  if value.length > maxFieldBytes then throw (.bound "wire string")
  else if value.length ≥ 256 ^ 2 then throw (.bound "wire string")
  else do
    putU16 value.length
    extend value.bytes

/-- `u16::try_from` of a count, and the count. -/
def putCount (count : Nat) (field : Text) : WireWriter PUnit := do
  if count ≥ 256 ^ 2 then throw (.bound field) else putU16 count

/-- `put_strings`. -/
def putStrings (values : List Text) : WireWriter PUnit := do
  putCount values.length "wire list"
  forM values putString

/-- One round of the signal loop of `encode_wire`. -/
def putSignal (signal : BoundedSignalValueV1) : WireWriter PUnit := do
  putString signal.name
  putU64 signal.value.bits.toNat
  putString signal.unit
  extend [assessmentTag signal.assessment]

/-- The authentication field in `encode_wire`. -/
def putAuthentication : AuthenticationFieldV1 → WireWriter PUnit
  | .placeholder disclosure => do
    extend [0]
    putString disclosure
  | .mac scheme keyId tag => do
    extend [1]
    putString scheme
    putString keyId
    putString tag

/-- What `encode_wire` writes once the frame has been validated. -/
def putFrame (frame : PulseFrameV1) : WireWriter PUnit := do
  extend wireMagic
  putU16 frame.schemaVersion
  putString frame.subject.text
  putString frame.subjectIncarnation.text
  putString frame.observer.text
  putString frame.observerIncarnation.text
  putU64 frame.sequence
  putU64 frame.observerMonotonicNs
  putU64 frame.validityMs
  putString frame.profile.name
  putU16 frame.profile.version
  putString frame.profile.semanticDigest.text
  putString frame.observationPolicyGeneration.text
  putStrings frame.coverage.expected
  putStrings frame.coverage.observed
  putCount frame.signals.length "signals"
  forM frame.signals putSignal
  putString frame.observationDigest.text
  putAuthentication frame.authentication

/-- `PulseFrameV1::encode_wire`. -/
def encodeWire (sha256 : Sha256) (frame : PulseFrameV1) : Except PulseError (List UInt8) := do
  frame.validate sha256
  let output ← (putFrame frame).finish
  if output.length > maxWireFrameBytes then throw (.bound "wire frame") else return output

/-! ## Reading -/

/-- `WireReader`. -/
abbrev WireReader : Type → Type := Wire.Reader PulseError

namespace WireReader

/-- `WireReader::take`. -/
def take (count : Nat) : WireReader (List UInt8) := Wire.take count .truncated

/-- `WireReader::byte`. -/
def byte : WireReader Nat := do return ofBe (← take 1)

/-- `WireReader::u16`. -/
def u16 : WireReader Nat := do return ofBe (← take 2)

/-- `WireReader::u64`. -/
def u64 : WireReader Nat := do return ofBe (← take 8)

/-- `WireReader::string`. -/
def string (field : Text) : WireReader Text := do
  let length ← u16
  if length > maxFieldBytes then throw (.bound field)
  else do
    let bytes ← take length
    let value : Text := ⟨bytes⟩
    if ¬value.isUtf8 then throw (.invalid field "string is not UTF-8") else return value

/-- The count before a list, and the list. -/
def counted {α : Type} (reader : WireReader α) (field : Text) (maximum : Nat) :
    WireReader (List α) := do
  let count ← u16
  if count > maximum then throw (.bound field) else Wire.readTimes reader count

/-- `WireReader::strings`. -/
def strings (field : Text) (maximum : Nat) : WireReader (List Text) :=
  counted (string field) field maximum

/-- `assessment_from_tag` of the byte that is read. -/
def assessment : WireReader SignalAssessmentV1 := do
  match ← byte with
  | 0 => return .observed
  | 1 => return .withinDeclaredBound
  | 2 => return .outsideDeclaredBound
  | 3 => return .unavailable
  | _ => throw (.unsupported "signal.assessment")

/-- One round of the signal loop of `decode_wire`. -/
def signal : WireReader BoundedSignalValueV1 := do
  return {
    name := ← string "signal.name"
    value := ⟨.ofNat (← u64)⟩
    unit := ← string "signal.unit"
    assessment := ← assessment }

/-- The authentication field in `decode_wire`. -/
def authentication : WireReader AuthenticationFieldV1 := do
  match ← byte with
  | 0 => do
    let disclosure ← string "authentication.disclosure"
    return .placeholder disclosure
  | 1 => do
    let scheme ← string "authentication.scheme"
    let keyId ← string "authentication.key_id"
    let tag ← string "authentication.tag"
    return .mac scheme keyId tag
  | _ => throw (.unsupported "authentication kind")

/-- The magic at the start of a frame. -/
def magic : WireReader PUnit := do
  let found ← take 4
  if found ≠ wireMagic then throw (.unsupported "wire magic") else return ⟨⟩

/-- What `decode_wire` reads, up to the check for trailing bytes. -/
def frame : WireReader PulseFrameV1 := do
  magic
  return {
    schemaVersion := ← u16
    subject := ⟨← string "subject"⟩
    subjectIncarnation := ⟨← string "subject_incarnation"⟩
    observer := ⟨← string "observer"⟩
    observerIncarnation := ⟨← string "observer_incarnation"⟩
    sequence := ← u64
    observerMonotonicNs := ← u64
    validityMs := ← u64
    profile := {
      name := ← string "profile.name"
      version := ← u16
      semanticDigest := ⟨← string "profile.semantic_digest"⟩ }
    observationPolicyGeneration := ⟨← string "observation_policy_generation"⟩
    coverage := {
      expected := ← strings "coverage.expected" maxCoverageTags
      observed := ← strings "coverage.observed" maxCoverageTags }
    signals := ← counted signal "signals" maxSignals
    observationDigest := ⟨← string "observation_digest"⟩
    authentication := ← authentication }

end WireReader

/-- `PulseFrameV1::decode_wire`. -/
def decodeWire (sha256 : Sha256) (bytes : List UInt8) : Except PulseError PulseFrameV1 := do
  if bytes.length > maxWireFrameBytes then throw (.bound "wire frame")
  else do
    let (frame, rest) ← WireReader.frame bytes
    if rest ≠ [] then throw (.invalid "wire frame" "trailing bytes are forbidden")
    else do
      frame.validate sha256
      return frame

/-! ## What the types of a frame say -/

/-- A number of a type of this many bytes. -/
def Fits (width value : Nat) : Prop := value < 256 ^ width

instance (width value : Nat) : Decidable (Fits width value) := inferInstanceAs (Decidable (_ < _))

/-- The texts of an authentication field. -/
def authenticationTexts : AuthenticationFieldV1 → List Text
  | .placeholder disclosure => [disclosure]
  | .mac scheme keyId tag => [scheme, keyId, tag]

/-- The texts of a frame. -/
def frameTexts (frame : PulseFrameV1) : List Text :=
  [ frame.subject.text, frame.subjectIncarnation.text, frame.observer.text,
    frame.observerIncarnation.text, frame.profile.name, frame.profile.semanticDigest.text,
    frame.observationPolicyGeneration.text, frame.observationDigest.text ] ++
  frame.coverage.expected ++ frame.coverage.observed ++
  frame.signals.flatMap (fun signal => [signal.name, signal.unit]) ++
  authenticationTexts frame.authentication

/-- What the source's types say of a frame and the embedding does not: every number is within
its type and every text is UTF-8. -/
@[mk_iff] structure WellTyped (frame : PulseFrameV1) : Prop where
  schemaVersion : Fits 2 frame.schemaVersion
  sequence : Fits 8 frame.sequence
  observerMonotonicNs : Fits 8 frame.observerMonotonicNs
  validityMs : Fits 8 frame.validityMs
  version : Fits 2 frame.profile.version
  texts : ∀ text ∈ frameTexts frame, text.isUtf8 = true

end ConstellationMonitor.Pulse

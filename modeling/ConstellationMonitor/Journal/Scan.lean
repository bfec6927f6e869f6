/-
  The journal scan (`scan_bytes` of `pulse-runtime/src/journal.rs`) and its report.

  The loop of the source is cut at its frame: `scanFrame` reads one frame at the current offset
  in five parts and has every early return of the source, with its damage class, offset and
  detail.  Every slice and index is checked, so that an access outside the bytes would show as
  `ScanStop.outOfRange`.
-/
import ConstellationMonitor.Journal.Records
import ConstellationMonitor.Foundation.Slices
import ConstellationMonitor.Foundation.Loop

namespace ConstellationMonitor.Journal

open Foundation ConstellationMonitor.Types
open Std (ExtTreeSet)

/-! ## Reports -/

/-- `JournalRecoveryOutcomeV1`. -/
inductive JournalRecoveryOutcomeV1 where
  | clean
  | recoveredThroughValidPrefix
  | refused
  deriving DecidableEq

/-- `JournalDamageClassV1`. -/
inductive JournalDamageClassV1 where
  | truncatedHeader
  | truncatedPayload
  | truncatedTrailer
  | uncommittedSuffix
  | truncatedCommitMarker
  | unexpectedTrailingBytes
  | interiorCorruption
  | unsupportedVersion
  | unsupportedRecordKind
  | sequenceDiscontinuity
  | duplicateRecord
  | priorLinkMismatch
  | oversizedDeclaredLength
  | boundExceeded
  | payloadInvalid
  | ioFailure
  deriving DecidableEq

/-- The variant name, as the derived `Debug` prints it. -/
def JournalDamageClassV1.debug : JournalDamageClassV1 → Text
  | .truncatedHeader => "TruncatedHeader"
  | .truncatedPayload => "TruncatedPayload"
  | .truncatedTrailer => "TruncatedTrailer"
  | .uncommittedSuffix => "UncommittedSuffix"
  | .truncatedCommitMarker => "TruncatedCommitMarker"
  | .unexpectedTrailingBytes => "UnexpectedTrailingBytes"
  | .interiorCorruption => "InteriorCorruption"
  | .unsupportedVersion => "UnsupportedVersion"
  | .unsupportedRecordKind => "UnsupportedRecordKind"
  | .sequenceDiscontinuity => "SequenceDiscontinuity"
  | .duplicateRecord => "DuplicateRecord"
  | .priorLinkMismatch => "PriorLinkMismatch"
  | .oversizedDeclaredLength => "OversizedDeclaredLength"
  | .boundExceeded => "BoundExceeded"
  | .payloadInvalid => "PayloadInvalid"
  | .ioFailure => "IoFailure"

/-- `Debug` of an optional value. -/
def debugOption : Option Text → Text
  | none => "None"
  | some text => "Some(" ++ text ++ ")"

/-- `JournalRecoveryReportV1`. -/
structure JournalRecoveryReportV1 where
  schemaVersion : Nat
  outcome : JournalRecoveryOutcomeV1
  damage : Option JournalDamageClassV1
  recordsRecovered : Nat
  firstDamagedOffset : Option Nat
  validPrefixBytes : Nat
  observedFileBytes : Nat
  historyComplete : Bool
  operatorActionRequired : Bool
  detail : Text
  journalId : Option Text
  lastCommittedFrameDigest : Option DigestV1
  records : List HistoricalJournalRecordV1

/-- `clean_report`. -/
def cleanReport (records : List HistoricalJournalRecordV1) (bytes : Nat) (journalId : Option Text)
    (lastDigest : Option DigestV1) : JournalRecoveryReportV1 where
  schemaVersion := schemaVersionV1
  outcome := .clean
  damage := none
  recordsRecovered := records.length
  firstDamagedOffset := none
  validPrefixBytes := bytes
  observedFileBytes := bytes
  historyComplete := true
  operatorActionRequired := false
  detail := "clean EOF follows the last committed record"
  journalId := journalId
  lastCommittedFrameDigest := lastDigest
  records := records

/-- The damage that a cut at the end of the file explains. -/
def JournalDamageClassV1.explainedByCut : JournalDamageClassV1 → Bool
  | .truncatedHeader => true
  | .truncatedPayload => true
  | .truncatedTrailer => true
  | .uncommittedSuffix => true
  | .truncatedCommitMarker => true
  | .unexpectedTrailingBytes => true
  | _ => false

/-- `damaged_report`. -/
def damagedReport (damage : JournalDamageClassV1) (records : List HistoricalJournalRecordV1)
    (firstDamage validPrefixBytes observedFileBytes : Nat) (detail : Text)
    (journalId : Option Text) (lastDigest : Option DigestV1) : JournalRecoveryReportV1 :=
  let suffixRecoverable := damage.explainedByCut && !records.isEmpty
  { schemaVersion := schemaVersionV1
    outcome := if suffixRecoverable then .recoveredThroughValidPrefix else .refused
    damage := some damage
    recordsRecovered := records.length
    firstDamagedOffset := some firstDamage
    validPrefixBytes := validPrefixBytes
    observedFileBytes := observedFileBytes
    historyComplete := false
    operatorActionRequired := true
    detail := detail
    journalId := journalId
    lastCommittedFrameDigest := lastDigest
    records := records }

/-- `checked_add` on the 64-bit word. -/
def checkedAdd (left right : Nat) : Option Nat :=
  if left + right ≤ u64Max then some (left + right) else none

/-- The size `damaged_at` takes a recovered record's frame to have: that of the record written
anew. -/
def rewrittenFrameBytes (json : JournalJson) (record : HistoricalJournalRecordV1) : Option Nat := do
  let payload ← (json.toVec record).toOption
  let written ← checkedAdd headerBytes payload.length
  checkedAdd written (trailerBytes + commitBytes)

/-- `damaged_at`. -/
def damagedAt (json : JournalJson) (config : JournalConfigV1) (damage : JournalDamageClassV1)
    (records : List HistoricalJournalRecordV1) (firstDamage observedBytes : Nat) (detail : Text)
    (lastDigest : Option DigestV1) : JournalRecoveryReportV1 :=
  let validPrefixBytes := (records.filterMap (rewrittenFrameBytes json)).foldl satAdd 0
  damagedReport damage records firstDamage validPrefixBytes observedBytes detail
    (some config.journalId) lastDigest

/-! ## One frame -/

/-- Why the scan of a frame ends. -/
inductive ScanStop where
  /-- an access outside the bytes -/
  | outOfRange
  /-- an early return -/
  | damaged (damage : JournalDamageClassV1) (firstDamage : Nat) (detail : Text)
  deriving DecidableEq

/-- The variables of the loop. -/
structure ScanState where
  offset : Nat
  records : List HistoricalJournalRecordV1
  expectedSequence : Nat
  expectedPrior : DigestV1
  lastDigest : Option DigestV1
  immutableIdentities : ExtTreeSet Text

/-- The variables before the first round. -/
def ScanState.initial (sha256 : Sha256) : ScanState where
  offset := 0
  records := []
  expectedSequence := 1
  expectedPrior := genesisDigest sha256
  lastDigest := none
  immutableIdentities := ∅

/-- `read_digest`. -/
def readDigest (bytes : List UInt8) : Option DigestV1 :=
  let digest : DigestV1 := ⟨⟨bytes⟩⟩
  if digest.text.isUtf8 then
    match digest.validate with
    | .ok _ => some digest
    | .error _ => none
  else none

/-- The `else` branch of a `let ... else`. -/
def orStop {α : Type} (value : Option α) (stop : ScanStop) : Except ScanStop α :=
  match value with
  | some found => .ok found
  | none => .error stop

/-- What the header of a frame says. -/
structure FrameHeader where
  header : List UInt8
  kind : JournalRecordKindV1
  sequence : Nat
  payloadLength : Nat

/-- The first part of a round: the bytes of the header. -/
def scanMagic (config : JournalConfigV1) (bytes : List UInt8) (state : ScanState) :
    Except ScanStop (List UInt8) := do
  let recordStart := state.offset
  refuseIf (decide (state.records.length ≥ config.bounds.maximumRecords))
    (.damaged .boundExceeded recordStart
      "journal contains more records than the configured bound")
  let remaining ← slice .outOfRange bytes recordStart bytes.length
  refuseIf (decide (remaining.length < dataMagic.length))
    (.damaged (if remaining.isPrefixOf dataMagic then .truncatedHeader
        else .unexpectedTrailingBytes) recordStart
      "EOF or trailing bytes occurred before a complete data-frame magic")
  let magic ← slice .outOfRange remaining 0 dataMagic.length
  refuseIf (decide (magic ≠ dataMagic))
    (.damaged (if remaining.length < headerBytes then .unexpectedTrailingBytes
        else .interiorCorruption) recordStart
      "next record does not begin with the exact data-frame magic")
  refuseIf (decide (remaining.length < headerBytes))
    (.damaged .truncatedHeader recordStart "data-frame header is incomplete")
  slice .outOfRange remaining 0 headerBytes

/-- The second part of a round: the fields of the header. -/
def scanHeader (config : JournalConfigV1) (state : ScanState) (header : List UInt8) :
    Except ScanStop FrameHeader := do
  let recordStart := state.offset
  let high ← byteAt .outOfRange header 8
  let low ← byteAt .outOfRange header 9
  refuseIf (decide (ofBe [high, low] ≠ journalFormatVersionV1))
    (.damaged .unsupportedVersion recordStart "journal frame version is unsupported")
  let tag ← byteAt .outOfRange header 10
  let kind ← orStop (JournalRecordKindV1.fromTag tag)
    (.damaged .unsupportedRecordKind recordStart "journal frame record-kind tag is unsupported")
  let reserved ← byteAt .outOfRange header 11
  refuseIf (decide (reserved ≠ 0))
    (.damaged .interiorCorruption recordStart "journal frame reserved byte is nonzero")
  let sequenceBytes ← slice .outOfRange header 12 20
  let sequence ← wordOf .outOfRange 8 sequenceBytes
  refuseIf (decide (sequence ≠ state.expectedSequence))
    (.damaged (if sequence < state.expectedSequence then .duplicateRecord
        else .sequenceDiscontinuity) recordStart
      "journal sequence is duplicated, reordered, stale, or skipped")
  let lengthBytes ← slice .outOfRange header 20 24
  let payloadLength ← wordOf .outOfRange 4 lengthBytes
  refuseIf (decide (payloadLength > config.bounds.maximumRecordPayloadBytes))
    (.damaged .oversizedDeclaredLength recordStart
      "journal frame declares a payload over the configured bound")
  let priorBytes ← slice .outOfRange header 24 (24 + digestBytes)
  let prior ← orStop (readDigest priorBytes)
    (.damaged .interiorCorruption recordStart "prior-frame digest is malformed")
  refuseIf (decide (prior ≠ state.expectedPrior))
    (.damaged .priorLinkMismatch recordStart
      "prior-frame digest does not bind the preceding committed record")
  return ⟨header, kind, sequence, payloadLength⟩

/-- A data frame whose trailer matches. -/
structure DataFrame where
  payloadStart : Nat
  payload : List UInt8
  computedDigest : DigestV1
  trailerEnd : Nat

/-- The third part of a round: payload and trailer. -/
def scanTrailer (sha256 : Sha256) (bytes : List UInt8) (recordStart : Nat) (front : FrameHeader) :
    Except ScanStop DataFrame := do
  let payloadStart := recordStart + headerBytes
  let payloadEnd ← orStop (checkedAdd payloadStart front.payloadLength)
    (.damaged .oversizedDeclaredLength recordStart "payload extent overflowed")
  refuseIf (decide (payloadEnd > bytes.length))
    (.damaged .truncatedPayload payloadStart "journal payload is incomplete")
  let trailerEnd := (checkedAdd payloadEnd trailerBytes).getD u64Max
  refuseIf (decide (trailerEnd > bytes.length))
    (.damaged .truncatedTrailer payloadEnd "journal frame trailer or checksum is incomplete")
  let trailer ← slice .outOfRange bytes payloadEnd trailerEnd
  let magic ← slice .outOfRange trailer 0 trailerMagic.length
  refuseIf (decide (magic ≠ trailerMagic))
    (.damaged .interiorCorruption payloadEnd "journal trailer magic is corrupted")
  let recordedBytes ← slice .outOfRange trailer trailerMagic.length trailer.length
  let recordedDigest ← orStop (readDigest recordedBytes)
    (.damaged .interiorCorruption payloadEnd "journal frame checksum is malformed")
  let payload ← slice .outOfRange bytes payloadStart payloadEnd
  let computedDigest := frameDigest sha256 front.header payload
  refuseIf (decide (recordedDigest ≠ computedDigest))
    (.damaged .interiorCorruption payloadStart
      "journal frame checksum does not match exact header and payload bytes")
  refuseIf (decide (trailerEnd = bytes.length))
    (.damaged .uncommittedSuffix recordStart "complete data frame has no committed marker")
  return ⟨payloadStart, payload, computedDigest, trailerEnd⟩

/-- The fourth part of a round: the commit marker, up to its end. -/
def scanCommit (sha256 : Sha256) (bytes : List UInt8) (sequence : Nat) (frame : DataFrame) :
    Except ScanStop Nat := do
  let trailerEnd := frame.trailerEnd
  let commitEnd := (checkedAdd trailerEnd commitBytes).getD u64Max
  refuseIf (decide (commitEnd > bytes.length))
    (.damaged .truncatedCommitMarker trailerEnd "journal commit marker is incomplete")
  let commit ← slice .outOfRange bytes trailerEnd commitEnd
  let magic ← slice .outOfRange commit 0 commitMagic.length
  refuseIf (decide (magic ≠ commitMagic))
    (.damaged .interiorCorruption trailerEnd "journal commit marker magic is corrupted")
  let sequenceBytes ← slice .outOfRange commit 8 16
  let commitSequence ← wordOf .outOfRange 8 sequenceBytes
  let digestField ← slice .outOfRange commit 16 (16 + digestBytes)
  let commitDigest ← orStop (readDigest digestField)
    (.damaged .interiorCorruption trailerEnd "journal commit marker digest is malformed")
  let checksumField ← slice .outOfRange commit (16 + digestBytes) commit.length
  let checksum ← orStop (readDigest checksumField)
    (.damaged .interiorCorruption trailerEnd "journal commit marker checksum is malformed")
  refuseIf (decide (commitSequence ≠ sequence) || decide (commitDigest ≠ frame.computedDigest) ||
      decide (checksum ≠ commitChecksum sha256 commitSequence commitDigest))
    (.damaged .interiorCorruption trailerEnd
      "journal commit marker does not bind the exact data frame")
  return commitEnd

/-- The damage a record that fails its validation stands for. -/
def recordDamage (error : JournalError) : JournalDamageClassV1 :=
  if error.errorClass = .unsupportedVersion then .unsupportedVersion else .payloadInvalid

/-- The last part of a round: the record in the payload. -/
def scanPayload (json : JournalJson) (config : JournalConfigV1) (state : ScanState)
    (front : FrameHeader) (frame : DataFrame) : Except ScanStop HistoricalJournalRecordV1 := do
  let record ← (json.fromSlice frame.payload).mapError fun error =>
    .damaged .payloadInvalid frame.payloadStart ("journal JSON payload is invalid: " ++ error)
  refuseIf (decide (record.schemaVersion ≠ schemaVersionV1))
    (.damaged .unsupportedVersion frame.payloadStart "journal payload schema is unsupported")
  refuseIf (decide (record.recordSequence ≠ front.sequence) ||
      decide (record.recordKind ≠ front.kind))
    (.damaged .payloadInvalid frame.payloadStart
      "journal payload does not bind frame sequence and kind")
  (record.validate config).mapError fun error =>
    .damaged (recordDamage error) frame.payloadStart error.detail
  refuseIf (record.body.immutableIdentity.any state.immutableIdentities.contains)
    (.damaged .duplicateRecord state.offset
      "immutable payload identity appears more than once")
  return record

/-- The identities known after a record. -/
def noteIdentity (record : HistoricalJournalRecordV1) (identities : ExtTreeSet Text) :
    ExtTreeSet Text :=
  record.body.immutableIdentity.elim identities identities.insert

/-- One round of the loop. -/
def scanFrame (sha256 : Sha256) (json : JournalJson) (config : JournalConfigV1)
    (bytes : List UInt8) (state : ScanState) : Except ScanStop ScanState := do
  let header ← scanMagic config bytes state
  let front ← scanHeader config state header
  let frame ← scanTrailer sha256 bytes state.offset front
  let commitEnd ← scanCommit sha256 bytes front.sequence frame
  let record ← scanPayload json config state front frame
  let expectedSequence ← orStop (checkedAdd state.expectedSequence 1)
    (.damaged .boundExceeded state.offset "journal sequence space is exhausted")
  return {
    offset := commitEnd
    records := state.records ++ [record]
    expectedSequence := expectedSequence
    expectedPrior := frame.computedDigest
    lastDigest := some frame.computedDigest
    immutableIdentities := noteIdentity record state.immutableIdentities }

/-! ## The scan -/

/-- What would keep a scan from returning a report. -/
inductive ScanFault where
  | outOfRange
  | unfinished
  deriving DecidableEq

/-- The loop of `scan_bytes`. -/
def scanLoop (sha256 : Sha256) (json : JournalJson) (config : JournalConfigV1)
    (bytes : List UInt8) : ScanState × Halt ScanStop :=
  runWhile (fun state : ScanState => decide (state.offset < bytes.length))
    (scanFrame sha256 json config bytes) (bytes.length + 1) (.initial sha256)

/-- `scan_bytes`. -/
def scanBytes (sha256 : Sha256) (json : JournalJson) (config : JournalConfigV1)
    (bytes : List UInt8) : Except ScanFault JournalRecoveryReportV1 :=
  if bytes.isEmpty then .ok (cleanReport [] 0 (some config.journalId) none)
  else
    match scanLoop sha256 json config bytes with
    | (state, .finished) =>
      .ok (cleanReport state.records bytes.length (some config.journalId) state.lastDigest)
    | (state, .stopped (.damaged damage firstDamage detail)) =>
      .ok (damagedAt json config damage state.records firstDamage bytes.length detail
        state.lastDigest)
    | (_, .stopped .outOfRange) => .error .outOfRange
    | (_, .unfinished) => .error .unfinished

end ConstellationMonitor.Journal

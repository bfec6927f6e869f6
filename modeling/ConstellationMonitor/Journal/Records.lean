/-
  Records of the history journal and their frames (`pulse-runtime/src/journal.rs`).

  A frame is a header with the digest of the frame before it, a JSON payload, a trailer with
  the digest of header and payload, and a commit marker.  The JSON codec is outside code and is
  given by its two functions.
-/
import ConstellationMonitor.Types.Records
import ConstellationMonitor.Foundation.Wire

namespace ConstellationMonitor.Journal

open Foundation ConstellationMonitor.Types

/-! ## Errors and configuration -/

/-- `JournalErrorClassV1`. -/
inductive JournalErrorClassV1 where
  | invalidConfig
  | invalidRecord
  | unsupportedVersion
  | boundExceeded
  | damagedJournal
  | ioFailure
  deriving DecidableEq

/-- `JournalError`. -/
structure JournalError where
  errorClass : JournalErrorClassV1
  detail : Text
  deriving DecidableEq

/-- `JournalError::invalid_record`. -/
def JournalError.invalidRecord (detail : Text) : JournalError := ⟨.invalidRecord, detail⟩

/-- The fixed sizes of a frame: `HEADER_BYTES`, `TRAILER_BYTES` and `COMMIT_BYTES`. -/
def digestBytes : Nat := 71
def headerBytes : Nat := 8 + 2 + 1 + 1 + 8 + 4 + digestBytes
def trailerBytes : Nat := 8 + digestBytes
def commitBytes : Nat := 8 + 8 + digestBytes + digestBytes

/-- `u32::MAX`. -/
def u32Max : Nat := 2 ^ 32 - 1

/-- `JournalBoundsV1`. -/
structure JournalBoundsV1 where
  maximumRecords : Nat
  maximumRecordPayloadBytes : Nat
  maximumFileBytes : Nat
  deriving DecidableEq

/-- `JournalBoundsV1::qualification`. -/
def JournalBoundsV1.qualification : JournalBoundsV1 where
  maximumRecords := 4096
  maximumRecordPayloadBytes := 256 * 1024
  maximumFileBytes := 64 * 1024 * 1024

/-- `JournalBoundsV1::validate`. -/
def JournalBoundsV1.validate (bounds : JournalBoundsV1) : Except JournalError Unit := do
  refuseIf (decide (bounds.maximumRecords = 0) ||
      decide (bounds.maximumRecordPayloadBytes = 0) || decide (bounds.maximumFileBytes = 0))
    ⟨.invalidConfig, "every journal bound must be nonzero"⟩
  refuseIf (decide (bounds.maximumRecordPayloadBytes > u32Max))
    ⟨.invalidConfig, "record payload bound does not fit the v1 length field"⟩
  refuseIf (decide (bounds.maximumFileBytes < headerBytes + trailerBytes + commitBytes))
    ⟨.invalidConfig, "file bound cannot contain one v1 record frame"⟩

/-- `JournalConfigV1`. -/
structure JournalConfigV1 where
  schemaVersion : Nat
  journalId : Text
  bounds : JournalBoundsV1
  deriving DecidableEq

/-- `JournalConfigV1::validate`. -/
def JournalConfigV1.validate (config : JournalConfigV1) : Except JournalError Unit := do
  refuseIf (decide (config.schemaVersion ≠ schemaVersionV1))
    ⟨.unsupportedVersion, "journal config schema is unsupported"⟩
  refuseIf (config.journalId.isEmpty || decide (config.journalId.length > maxIdentityBytes) ||
      config.journalId.hasControl)
    ⟨.invalidConfig,
      "journal identity is empty, over its bound, or contains control characters"⟩
  config.bounds.validate

theorem JournalConfigV1.payload_le {config : JournalConfigV1} (h : config.validate = .ok ()) :
    config.bounds.maximumRecordPayloadBytes ≤ u32Max := by
  simp only [JournalConfigV1.validate, JournalBoundsV1.validate, check_bind_eq_ok,
    refuseIf_eq_ok, decide_eq_false_iff_not, not_lt, gt_iff_lt] at h
  exact h.2.2.2.1

/-! ## Records -/

/-- `MonotonicEpochV1`. -/
structure MonotonicEpochV1 where
  schemaVersion : Nat
  epochId : IncarnationId
  receiver : ReceiverId
  receiverIncarnation : IncarnationId
  clockId : ClockId
  originRuntimeMonotonicMs : Nat
  clockSource : Text
  deriving DecidableEq

/-- An identity check with its error turned into a record error. -/
def recordIdentity {kind : IdentityKind} (identity : Identity kind) : Except JournalError Unit :=
  identity.validate.mapError fun error => .invalidRecord error.display

/-- `MonotonicEpochV1::validate`. -/
def MonotonicEpochV1.validate (epoch : MonotonicEpochV1) : Except JournalError Unit := do
  refuseIf (decide (epoch.schemaVersion ≠ schemaVersionV1))
    ⟨.unsupportedVersion, "monotonic epoch schema is unsupported"⟩
  recordIdentity epoch.epochId
  recordIdentity epoch.receiver
  recordIdentity epoch.receiverIncarnation
  recordIdentity epoch.clockId
  refuseIf (decide (epoch.clockSource ≠ ("std::time::Instant/process-local" : Text)))
    (.invalidRecord "v1 monotonic epoch must name the process-local Instant source")

/-- `JournalRecordKindV1`. -/
inductive JournalRecordKindV1 where
  | sparseEvent
  | contradictionCustody
  | diagnosticReceipt
  deriving DecidableEq

/-- `JournalRecordKindV1::tag`. -/
def JournalRecordKindV1.tag : JournalRecordKindV1 → UInt8
  | .sparseEvent => 1
  | .contradictionCustody => 2
  | .diagnosticReceipt => 3

/-- `JournalRecordKindV1::from_tag`. -/
def JournalRecordKindV1.fromTag (tag : UInt8) : Option JournalRecordKindV1 :=
  if tag = 1 then some .sparseEvent
  else if tag = 2 then some .contradictionCustody
  else if tag = 3 then some .diagnosticReceipt
  else none

theorem JournalRecordKindV1.fromTag_eq_some {tag : UInt8} {kind : JournalRecordKindV1} :
    fromTag tag = some kind ↔ tag = kind.tag := by
  unfold fromTag
  constructor
  · intro h
    split at h
    · cases h
      assumption
    · split at h
      · cases h
        assumption
      · split at h
        · cases h
          assumption
        · cases h
  · rintro rfl
    cases kind <;> rfl

/-- `JournalRecordBodyV1`. -/
inductive JournalRecordBodyV1 where
  | sparseEvent (event : SparseDurableEventV1)
  | contradictionCustody (custody : ContradictionCustodyV1)
  | diagnosticReceipt (receipt : MockDiagnosticReceiptV1)

/-- `JournalRecordBodyV1::kind`. -/
def JournalRecordBodyV1.kind : JournalRecordBodyV1 → JournalRecordKindV1
  | .sparseEvent _ => .sparseEvent
  | .contradictionCustody _ => .contradictionCustody
  | .diagnosticReceipt _ => .diagnosticReceipt

/-- `JournalRecordBodyV1::immutable_identity`. -/
def JournalRecordBodyV1.immutableIdentity : JournalRecordBodyV1 → Option Text
  | .sparseEvent event => some ("event:" ++ event.eventId.text)
  | .diagnosticReceipt receipt => some ("receipt:" ++ receipt.receiptId.text)
  | .contradictionCustody _ => none

/-- `JournalDurabilityModeV1`. -/
inductive JournalDurabilityModeV1 where
  | written
  | dataSynced
  | fileSynced
  deriving DecidableEq

/-- `HistoricalJournalRecordV1`. -/
structure HistoricalJournalRecordV1 where
  schemaVersion : Nat
  journalId : Text
  recordSequence : Nat
  recordKind : JournalRecordKindV1
  monotonicEpoch : MonotonicEpochV1
  journaledAtEpochMonotonicMs : Nat
  declaredDurability : JournalDurabilityModeV1
  relianceContextDigest : Option DigestV1
  body : JournalRecordBodyV1
  mutationAuthority : MutationAuthorityV1

/-- A digest check with its error turned into a record error. -/
def recordDigest (digest : DigestV1) : Except JournalError Unit :=
  digest.validate.mapError .invalidRecord

/-- `HistoricalJournalRecordV1::validate`. -/
def HistoricalJournalRecordV1.validate (record : HistoricalJournalRecordV1)
    (config : JournalConfigV1) : Except JournalError Unit := do
  refuseIf (decide (record.schemaVersion ≠ schemaVersionV1))
    ⟨.unsupportedVersion, "journal payload schema is unsupported"⟩
  refuseIf (decide (record.journalId ≠ config.journalId))
    (.invalidRecord "journal payload names another journal identity")
  refuseIf (decide (record.recordSequence = 0) || decide (record.recordKind ≠ record.body.kind))
    (.invalidRecord "journal payload sequence or record-kind binding is invalid")
  record.monotonicEpoch.validate
  record.relianceContextDigest.elim (.ok ()) recordDigest
  refuseIf (decide (record.mutationAuthority ≠ .none))
    (.invalidRecord "journal record cannot carry mutation authority")

/-- A valid record has the supported schema. -/
theorem HistoricalJournalRecordV1.schema_of_validate {record : HistoricalJournalRecordV1}
    {config : JournalConfigV1} (h : record.validate config = .ok ()) :
    record.schemaVersion = schemaVersionV1 := by
  simp only [HistoricalJournalRecordV1.validate, check_bind_eq_ok, refuseIf_eq_ok,
    decide_eq_false_iff_not, not_not] at h
  exact h.1

/-- `serde_json` on records: outside code.  Reading and writing may fail with a message. -/
structure JournalJson where
  /-- `serde_json::from_slice` -/
  fromSlice : List UInt8 → Except Text HistoricalJournalRecordV1
  /-- `serde_json::to_vec` -/
  toVec : HistoricalJournalRecordV1 → Except Text (List UInt8)

/-! ## Frames -/

/-- `DATA_MAGIC`. -/
def dataMagic : List UInt8 := (Text.ofString "PCJDATA1").bytes

/-- `TRAILER_MAGIC`. -/
def trailerMagic : List UInt8 := (Text.ofString "PCJEND01").bytes

/-- `COMMIT_MAGIC`. -/
def commitMagic : List UInt8 := (Text.ofString "PCJCOM01").bytes

/-- `JOURNAL_FORMAT_VERSION_V1`. -/
def journalFormatVersionV1 : Nat := 1

/-- `genesis_digest`. -/
def genesisDigest (sha256 : Sha256) : DigestV1 :=
  digestParts sha256 "runtime.history-journal.genesis.v1" []

/-- `encode_header`. -/
def encodeHeader (kind : JournalRecordKindV1) (sequence payloadLength : Nat)
    (priorDigest : DigestV1) : List UInt8 :=
  dataMagic ++ beBytes 2 journalFormatVersionV1 ++ [kind.tag] ++ [0] ++ beBytes 8 sequence ++
    beBytes 4 payloadLength ++ priorDigest.text.bytes

/-- `encode_trailer`. -/
def encodeTrailer (frameDigest : DigestV1) : List UInt8 :=
  trailerMagic ++ frameDigest.text.bytes

/-- The checksum of a commit marker. -/
def commitChecksum (sha256 : Sha256) (sequence : Nat) (frameDigest : DigestV1) : DigestV1 :=
  digestParts sha256 "runtime.history-journal.commit.v1"
    [commitMagic, beBytes 8 sequence, frameDigest.text.bytes]

/-- `encode_commit`. -/
def encodeCommit (sha256 : Sha256) (sequence : Nat) (frameDigest : DigestV1) : List UInt8 :=
  commitMagic ++ beBytes 8 sequence ++ frameDigest.text.bytes ++
    (commitChecksum sha256 sequence frameDigest).text.bytes

/-- The digest of header and payload. -/
def frameDigest (sha256 : Sha256) (header payload : List UInt8) : DigestV1 :=
  digestParts sha256 "runtime.history-journal.frame.v1" [header, payload]

end ConstellationMonitor.Journal

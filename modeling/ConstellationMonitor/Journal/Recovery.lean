/-
  What the recovery report says about the bytes: the records of the longest committed prefix, and
  where that prefix ends.

  `valid_prefix_bytes` of a damaged report is not where the scan stopped: it is added up from the
  records written anew.  It delimits the prefix exactly if the recovered payloads are together as
  long as their records' own serialisations; the decoder accepts longer ones.
-/
import ConstellationMonitor.Journal.History
import ConstellationMonitor.Evaluation.Reference

namespace ConstellationMonitor.Journal

open Foundation ConstellationMonitor.Types
open Evaluation.Reference (sha256)

/-! ## A journal with one record -/

namespace Reference

def config : JournalConfigV1 where
  schemaVersion := 1
  journalId := "journal"
  bounds := .qualification

def record : HistoricalJournalRecordV1 where
  schemaVersion := 1
  journalId := "journal"
  recordSequence := 1
  recordKind := .sparseEvent
  monotonicEpoch :=
    { schemaVersion := 1
      epochId := "e1"
      receiver := "receiver"
      receiverIncarnation := "r1"
      clockId := "clock"
      originRuntimeMonotonicMs := 0
      clockSource := "std::time::Instant/process-local" }
  journaledAtEpochMonotonicMs := 0
  declaredDurability := .written
  relianceContextDigest := none
  body := .sparseEvent
    { schemaVersion := 1
      eventId := "event:0000000000000001"
      atMonotonicMs := 0
      event := .monitorCapabilityChanged "blind" "d" }
  mutationAuthority := .none

/-- The record as `serde_json` writes it. -/
def written : Text :=
  "\x7b\"schema_version\":1,\"journal_id\":\"journal\",\"record_sequence\":1," ++
  "\"record_kind\":\"sparse_event\",\"monotonic_epoch\":\x7b\"schema_version\":1," ++
  "\"epoch_id\":\"e1\",\"receiver\":\"receiver\",\"receiver_incarnation\":\"r1\"," ++
  "\"clock_id\":\"clock\",\"origin_runtime_monotonic_ms\":0," ++
  "\"clock_source\":\"std::time::Instant/process-local\"\x7d," ++
  "\"journaled_at_epoch_monotonic_ms\":0,\"declared_durability\":\"written\"," ++
  "\"body\":\x7b\"kind\":\"sparse_event\",\"event\":\x7b\"schema_version\":1," ++
  "\"event_id\":\"event:0000000000000001\",\"at_monotonic_ms\":0," ++
  "\"event\":\x7b\"kind\":\"monitor_capability_changed\",\"state\":\"blind\"," ++
  "\"detail\":\"d\"\x7d\x7d\x7d,\"mutation_authority\":\"none\"\x7d"

/-- `serde_json` on this record: spaces after the value are skipped. -/
def json : JournalJson where
  fromSlice bytes :=
    if (bytes.reverse.dropWhile (· == 0x20)).reverse = written.bytes then .ok record
    else .error "expected value at line 1 column 1"
  toVec _ := .ok written.bytes

/-- The record's frame with a payload. -/
def frame (payload : List UInt8) : List UInt8 :=
  frameOf sha256 (genesisDigest sha256) payload record

/-- The record's frame as `append` writes it, then the first byte of another. -/
def torn : List UInt8 := frame written.bytes ++ [0x50]

/-- The same with a space after the record's JSON. -/
def padded : List UInt8 := frame (written.bytes ++ [0x20]) ++ [0x50]

end Reference

/-! ## The records -/

section Recovery

variable {sha256 : Sha256} {json : JournalJson} {config : JournalConfigV1} {bytes : List UInt8}

/-- Any bytes: the scan returns without leaving them, its records are those of the longest
committed prefix, it is clean exactly if that prefix is all, any other bytes that start with the
prefix give these records first, and the history can be projected unless recovery was refused. -/
theorem scan_exact (hconfig : config.validate = .ok ()) (hsize : bytes.length < u64Max) :
    ∃ report consumed, scanBytes sha256 json config bytes = .ok report ∧
      LongestPrefix sha256 json config bytes report.records consumed ∧
      (report.outcome = .clean ↔ consumed = bytes) ∧
      (∀ other, other.length < u64Max → consumed <+: other →
        ∃ report', scanBytes sha256 json config other = .ok report' ∧
          report.records <+: report'.records) ∧
      ((∃ projected, report.projectHistory = .ok projected) ↔ report.outcome ≠ .refused) ∧
      ∀ projected, report.projectHistory = .ok projected →
        projected.history.sparseEvents = report.records.filterMap eventOf := by
  obtain ⟨report, consumed, hscan, hlongest, hcovers⟩ :=
    @scanBytes_longest sha256 json config bytes hconfig hsize
  obtain ⟨prior, hcommitted⟩ := hlongest.committed
  refine ⟨report, consumed, hscan, hlongest, ?_, fun other hother hread => ?_,
    projectHistory_of_distinct hcommitted.distinct⟩
  · rcases hcovers with ⟨hwhole, hclean⟩ | ⟨hshort, damage, firstDamage, detail, digest, hreport⟩
    · exact iff_of_true hclean hwhole
    · refine iff_of_false ?_ hshort
      rw [hreport]
      exact outcome_damagedAt
  · obtain ⟨report', _, hscan', hlongest', -⟩ :=
      @scanBytes_longest sha256 json config other hconfig hother
    exact ⟨report', hscan', (hlongest'.longest _ _ _ hcommitted hlongest.bounded hread).1⟩

theorem Reference.scan_exact_torn :
    ∃ report consumed, scanBytes Evaluation.Reference.sha256 Reference.json Reference.config
        Reference.torn = .ok report ∧
      LongestPrefix Evaluation.Reference.sha256 Reference.json Reference.config Reference.torn
        report.records consumed ∧ (report.outcome = .clean ↔ consumed = Reference.torn) := by
  obtain ⟨report, consumed, hscan, hlongest, hclean, -⟩ :=
    @scan_exact Evaluation.Reference.sha256 Reference.json Reference.config Reference.torn
      (by decide +kernel) (by decide +kernel)
  exact ⟨report, consumed, hscan, hlongest, hclean⟩

/-! ## The end of the prefix -/

/-- Frames written one after another, and the digest the next one has to name. -/
def writeFrames (sha256 : Sha256) (frames : List (List UInt8 × HistoricalJournalRecordV1)) :
    List UInt8 × DigestV1 :=
  frames.foldl (fun journal frame => (journal.1 ++ frameOf sha256 journal.2 frame.1 frame.2,
    digestOf sha256 journal.2 frame.1 frame.2)) ([], genesisDigest sha256)

/-- The bytes of a frame around its payload. -/
def overheadBytes : Nat := headerBytes + (trailerBytes + commitBytes)

variable {consumed : List UInt8} {records : List HistoricalJournalRecordV1}

/-- A committed prefix is written from payloads that decode to its records. -/
theorem Committed.frames {prior : DigestV1}
    (committed : Committed sha256 json config records consumed prior) :
    ∃ frames : List (List UInt8 × HistoricalJournalRecordV1), frames.map Prod.snd = records ∧
      (∀ frame ∈ frames, json.fromSlice frame.1 = .ok frame.2) ∧
      writeFrames sha256 frames = (consumed, prior) ∧
      consumed.length = (frames.map fun frame => overheadBytes + frame.1.length).sum := by
  induction committed with
  | nil => exact ⟨[], rfl, by simp, rfl, rfl⟩
  | @next records consumed prior payload record _ frame ih =>
    obtain ⟨frames, rfl, hdecoded, hwritten, hlength⟩ := ih
    refine ⟨frames ++ [(payload, record)], by simp, ?_, ?_, ?_⟩
    · exact List.forall_mem_append.mpr ⟨hdecoded, List.forall_mem_singleton.mpr frame.decoded⟩
    · rw [writeFrames, List.foldl_append, ← writeFrames, hwritten]
      rfl
    · have hframe : (frameOf sha256 prior payload record).length =
          overheadBytes + payload.length := by
        rw [frame.length_frame, overheadBytes]
        omega
      rw [List.length_append, hlength, hframe, List.map_append, List.sum_append,
        List.map_singleton, List.sum_singleton]

/-- Every record can be written, in a frame that fits the word. -/
def JournalJson.Writes (json : JournalJson) : Prop :=
  ∀ record, ∃ payload, json.toVec record = .ok payload ∧ overheadBytes + payload.length ≤ u64Max

/-- The length of a record's own serialisation. -/
def JournalJson.writtenLength (json : JournalJson) (record : HistoricalJournalRecordV1) : Nat :=
  ((json.toVec record).toOption.getD []).length

/-- Payloads are together as long as the serialisations of the records they decode to. -/
def WrittenAlike (json : JournalJson) (frames : List (List UInt8 × HistoricalJournalRecordV1)) :
    Prop :=
  (frames.map fun frame => json.writtenLength frame.2).sum =
    (frames.map fun frame => frame.1.length).sum

theorem foldl_satAdd (values : List Nat) {start : Nat} (h : start ≤ u64Max) :
    values.foldl satAdd start = min (start + values.sum) u64Max := by
  induction values generalizing start with
  | nil => simp [h]
  | cons value rest ih =>
    rw [List.foldl_cons, ih (satAdd_le _ _), List.sum_cons, satAdd]
    omega

theorem rewrittenFrameBytes_of_writes (hwrites : json.Writes) (record : HistoricalJournalRecordV1) :
    rewrittenFrameBytes json record = some (overheadBytes + json.writtenLength record) := by
  obtain ⟨payload, hpayload, hfits⟩ := hwrites record
  unfold overheadBytes at hfits
  have hfront : checkedAdd headerBytes payload.length = some (headerBytes + payload.length) :=
    checkedAdd_eq_some.mpr ⟨by omega, rfl⟩
  have hwhole : checkedAdd (headerBytes + payload.length) (trailerBytes + commitBytes) =
      some (overheadBytes + payload.length) :=
    checkedAdd_eq_some.mpr ⟨by omega, by unfold overheadBytes; omega⟩
  simp [rewrittenFrameBytes, JournalJson.writtenLength, hpayload, hfront, hwhole,
    Except.toOption]

/-- The prefix length of a damaged report. -/
theorem validPrefixBytes_damagedAt (hwrites : json.Writes)
    {frames : List (List UInt8 × HistoricalJournalRecordV1)} {damage : JournalDamageClassV1}
    {firstDamage observedBytes : Nat} {detail : Text} {lastDigest : Option DigestV1} :
    (damagedAt json config damage (frames.map Prod.snd) firstDamage observedBytes detail
      lastDigest).validPrefixBytes =
        min (frames.map fun frame => overheadBytes + json.writtenLength frame.2).sum u64Max := by
  have hsizes : (frames.map Prod.snd).filterMap (rewrittenFrameBytes json) =
      frames.map fun frame => overheadBytes + json.writtenLength frame.2 := by
    rw [List.filterMap_map, ← List.filterMap_eq_map]
    exact List.filterMap_congr fun frame _ => rewrittenFrameBytes_of_writes hwrites frame.2
  show ((frames.map Prod.snd).filterMap (rewrittenFrameBytes json)).foldl satAdd 0 = _
  rw [hsizes, foldl_satAdd _ (Nat.zero_le _), Nat.zero_add]

theorem sum_overhead (frames : List (List UInt8 × HistoricalJournalRecordV1))
    (length : List UInt8 × HistoricalJournalRecordV1 → Nat) :
    (frames.map fun frame => overheadBytes + length frame).sum =
      frames.length * overheadBytes + (frames.map length).sum := by
  rw [List.sum_map_add]
  simp

/-- Bytes cut off scan clean with the records of the longest prefix exactly if they are cut at its
end. -/
theorem scan_take_clean_iff (hconfig : config.validate = .ok ()) (hsize : bytes.length < u64Max)
    (hlongest : LongestPrefix sha256 json config bytes records consumed) (hshort : consumed ≠ bytes)
    (length : Nat) : (∃ clean, scanBytes sha256 json config (bytes.take length) = .ok clean ∧
      clean.outcome = .clean ∧ clean.records = records) ↔ length = consumed.length := by
  obtain ⟨prior, hcommitted⟩ := hlongest.committed
  have hshorter : (bytes.take length).length < u64Max := by
    rw [List.length_take]
    omega
  obtain ⟨clean, whole, hscan, hcut, hcovers⟩ :=
    @scanBytes_longest sha256 json config (bytes.take length) hconfig hshorter
  obtain ⟨cutPrior, hcutCommitted⟩ := hcut.committed
  constructor
  · rintro ⟨other, hother, hclean, rfl⟩
    obtain rfl := Except.ok.inj (hscan.symm.trans hother)
    obtain ⟨rfl, -⟩ | ⟨-, damage, firstDamage, detail, digest, hreport⟩ := hcovers
    · have hsame := consumed_unique hsize (JournalConfigV1.payload_le hconfig) hcommitted
        hcutCommitted hlongest.bounded hlongest.read (List.take_prefix _ _)
      have hinside : length < bytes.length := by
        by_contra hbeyond
        rw [List.take_of_length_le (not_lt.mp hbeyond)] at hsame
        exact hshort hsame
      rw [hsame, List.length_take, Nat.min_eq_left hinside.le]
    · rw [hreport] at hclean
      exact absurd hclean outcome_damagedAt
  · rintro rfl
    rw [← List.prefix_iff_eq_take.mp hlongest.read] at *
    have hlonger := hcut.longest _ _ _ hcommitted hlongest.bounded List.prefix_rfl
    have hback := hlongest.longest _ _ _ hcutCommitted hcut.bounded (hcut.read.trans hlongest.read)
    have hwhole : whole = consumed := hcut.read.eq_of_length_le hlonger.2.length_le
    obtain ⟨-, hclean⟩ | ⟨hcutPartial, -⟩ := hcovers
    · exact ⟨clean, hscan, hclean, hback.1.eq_of_length_le hlonger.1.length_le⟩
    · exact absurd hwhole hcutPartial

/-- A damaged scan: `valid_prefix_bytes` is the end of the last recovered frame, and the bytes up
to it scan clean with the same records, exactly if the recovered payloads are together as long as
the serialisations of their records. -/
theorem valid_prefix_delimits_iff (hconfig : config.validate = .ok ())
    (hsize : bytes.length < u64Max) (hwrites : json.Writes) {report : JournalRecoveryReportV1}
    (hscan : scanBytes sha256 json config bytes = .ok report) (hdamaged : report.outcome ≠ .clean) :
    ∃ frames : List (List UInt8 × HistoricalJournalRecordV1), frames.map Prod.snd = report.records ∧
      (∀ frame ∈ frames, json.fromSlice frame.1 = .ok frame.2) ∧
      LongestPrefix sha256 json config bytes report.records (writeFrames sha256 frames).1 ∧
      (report.validPrefixBytes = (writeFrames sha256 frames).1.length ↔ WrittenAlike json frames) ∧
      ((∃ clean, scanBytes sha256 json config (bytes.take report.validPrefixBytes) = .ok clean ∧
          clean.outcome = .clean ∧ clean.records = report.records) ↔ WrittenAlike json frames) := by
  obtain ⟨found, consumed, hfound, hlongest, hcovers⟩ :=
    @scanBytes_longest sha256 json config bytes hconfig hsize
  obtain rfl : found = report := Except.ok.inj (hfound.symm.trans hscan)
  obtain ⟨prior, hcommitted⟩ := hlongest.committed
  obtain ⟨frames, hrecords, hdecoded, hwritten, hlength⟩ := hcommitted.frames
  obtain ⟨-, hclean⟩ | ⟨hshort, damage, firstDamage, detail, digest, hreport⟩ := hcovers
  · exact absurd hclean hdamaged
  have hend : found.validPrefixBytes = consumed.length ↔ WrittenAlike json frames := by
    have hinside := hlongest.read.length_le
    rw [hreport, ← hrecords, validPrefixBytes_damagedAt hwrites, hlength, WrittenAlike,
      sum_overhead, sum_overhead] at *
    omega
  refine ⟨frames, hrecords, hdecoded, by rw [hwritten]; exact hlongest,
    by rw [hwritten]; exact hend, ?_⟩
  rw [← hend]
  exact scan_take_clean_iff hconfig hsize hlongest hshort _

end Recovery

namespace Reference

/-- What a scan of a reference journal reports: outcome, number of records and prefix length. -/
def summary (bytes : List UInt8) : Option (JournalRecoveryOutcomeV1 × Nat × Nat) :=
  (scanBytes Evaluation.Reference.sha256 json config bytes).toOption.map fun report =>
    (report.outcome, report.recordsRecovered, report.validPrefixBytes)

theorem of_summary {bytes : List UInt8} {outcome : JournalRecoveryOutcomeV1} {count length : Nat}
    (h : summary bytes = some (outcome, count, length)) :
    ∃ report, scanBytes Evaluation.Reference.sha256 json config bytes = .ok report ∧
      report.outcome = outcome ∧ report.recordsRecovered = count ∧
      report.validPrefixBytes = length := by
  unfold summary at h
  cases hscan : scanBytes Evaluation.Reference.sha256 json config bytes with
  | error fault =>
    rw [hscan] at h
    cases h
  | ok report =>
    rw [hscan] at h
    cases h
    exact ⟨report, rfl, rfl, rfl, rfl⟩

/-- The frame as `append` writes it is delimited. -/
theorem valid_prefix_delimits_iff_torn :
    ∃ report, scanBytes Evaluation.Reference.sha256 json config torn = .ok report ∧
      report.outcome = .recoveredThroughValidPrefix ∧
      report.validPrefixBytes = (frame written.bytes).length ∧
      ∃ frames : List (List UInt8 × HistoricalJournalRecordV1),
        frames.map Prod.snd = report.records ∧
        (report.validPrefixBytes = (writeFrames Evaluation.Reference.sha256 frames).1.length ↔
          WrittenAlike json frames) := by
  obtain ⟨report, hscan, houtcome, -, hlength⟩ :=
    @of_summary torn .recoveredThroughValidPrefix 1 917 (by decide +kernel)
  have hwrites : json.Writes := fun _ => ⟨written.bytes, rfl, by decide +kernel⟩
  obtain ⟨frames, hrecords, -, -, hend, -⟩ :=
    valid_prefix_delimits_iff (by decide +kernel) (by decide +kernel) hwrites hscan
      (by rw [houtcome]; decide)
  exact ⟨report, hscan, houtcome, hlength.trans (by decide +kernel), frames, hrecords, hend⟩

/-- With a space after the JSON the frame is one byte longer than reported, and the bytes up to
the reported length are refused. -/
theorem padded_frame_cut :
    padded.take (frame (written.bytes ++ [0x20])).length = frame (written.bytes ++ [0x20]) ∧
      ∃ report, scanBytes Evaluation.Reference.sha256 json config padded = .ok report ∧
        report.outcome = .recoveredThroughValidPrefix ∧ report.recordsRecovered = 1 ∧
        report.validPrefixBytes + 1 = (frame (written.bytes ++ [0x20])).length ∧
        ∃ cut, scanBytes Evaluation.Reference.sha256 json config
            (padded.take report.validPrefixBytes) = .ok cut ∧
          cut.outcome = .refused ∧ cut.recordsRecovered = 0 := by
  obtain ⟨report, hscan, houtcome, hcount, hlength⟩ :=
    @of_summary padded .recoveredThroughValidPrefix 1 917 (by decide +kernel)
  obtain ⟨cut, hcut, hrefused, hnone, -⟩ :=
    @of_summary (padded.take 917) .refused 0 0 (by decide +kernel)
  refine ⟨List.take_left, report, hscan, houtcome, hcount, ?_, cut, ?_, hrefused, hnone⟩
  · rw [hlength]
    decide +kernel
  · rw [hlength]
    exact hcut

end Reference

end ConstellationMonitor.Journal

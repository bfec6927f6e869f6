/-
  The history in a scanned journal (`project_history` of `pulse-runtime/src/journal.rs`) and what
  a scan says about arbitrary bytes.

  The scan never skips to a later frame: its records are those of the longest committed prefix,
  and the history they give depends on that prefix alone.
-/
import ConstellationMonitor.Journal.Prefix
import ConstellationMonitor.Runtime.History

namespace ConstellationMonitor.Journal

open Foundation ConstellationMonitor.Types
open ConstellationMonitor.Runtime (custodyKey mergeCustody)
open Std (ExtTreeMap ExtTreeSet)

/-! ## The projection -/

/-- `JournalHistoryProjectionV1`. -/
structure JournalHistoryProjectionV1 where
  schemaVersion : Nat
  recoveryOutcome : JournalRecoveryOutcomeV1
  recoveryDamage : Option JournalDamageClassV1
  historyComplete : Bool
  operatorActionRequired : Bool
  history : RuntimeHistoricalStateV1
  historicalEscalationDeduplicationKeys : List DigestV1
  activeEscalationSuppressionRestored : Bool
  currentStandingReconstructed : Bool

/-- The variables of the loop. -/
structure Projection where
  sparseEvents : List SparseDurableEventV1 := []
  eventIds : ExtTreeSet SparseEventId := ∅
  contradictions :
    ExtTreeMap (SubjectId × ConsumerId × ContradictionId) ContradictionCustodyV1 := ∅
  receipts : ExtTreeMap DiagnosticReceiptId MockDiagnosticReceiptV1 := ∅
  historicalDeduplicationKeys : ExtTreeSet DigestV1 := ∅

/-- Remember the deduplication key an escalation event names. -/
def noteDeduplicationKey (event : SparseDurableEventV1) (keys : ExtTreeSet DigestV1) :
    ExtTreeSet DigestV1 :=
  match event.event with
  | .escalationRequested request => keys.insert request.deduplicationKey
  | .escalationDeduplicated deduplicationKey _ => keys.insert deduplicationKey
  | _ => keys

/-- One round of the loop. -/
def projectRecord (projection : Projection) (record : HistoricalJournalRecordV1) :
    Except JournalError Projection :=
  match record.body with
  | .sparseEvent event => do
    refuseIf (projection.eventIds.contains event.eventId)
      ⟨.invalidRecord, "duplicate sparse event identity in recovered prefix"⟩
    return { projection with
      eventIds := projection.eventIds.insert event.eventId
      historicalDeduplicationKeys :=
        noteDeduplicationKey event projection.historicalDeduplicationKeys
      sparseEvents := projection.sparseEvents ++ [event] }
  | .contradictionCustody custody =>
    .ok { projection with
      contradictions := projection.contradictions.insert (custodyKey custody) custody }
  | .diagnosticReceipt receipt => do
    refuseIf (projection.receipts.contains receipt.receiptId)
      ⟨.invalidRecord, "duplicate diagnostic receipt identity in recovered prefix"⟩
    return { projection with
      receipts := projection.receipts.insert receipt.receiptId receipt }

/-- The historical state the loop has collected. -/
def Projection.history (projection : Projection) : RuntimeHistoricalStateV1 where
  schemaVersion := schemaVersionV1
  sparseEvents := projection.sparseEvents
  contradictions := projection.contradictions.values
  diagnosticReceipts := projection.receipts.values
  nonclaims := historyNonclaims

/-- `JournalRecoveryReportV1::project_history`. -/
def JournalRecoveryReportV1.projectHistory (report : JournalRecoveryReportV1) :
    Except JournalError JournalHistoryProjectionV1 := do
  refuseIf (decide (report.outcome = .refused))
    ⟨.damagedJournal,
      "journal recovery was refused; damaged history cannot be projected: damage=" ++
        debugOption (report.damage.map JournalDamageClassV1.debug) ++ " offset=" ++
        debugOption (report.firstDamagedOffset.map Text.decimal)⟩
  let projection ← report.records.foldlM projectRecord {}
  projection.history.validate.mapError fun error =>
    .invalidRecord (error.code ++ ": " ++ error.detail)
  return {
    schemaVersion := schemaVersionV1
    recoveryOutcome := report.outcome
    recoveryDamage := report.damage
    historyComplete := report.historyComplete
    operatorActionRequired := report.operatorActionRequired
    history := projection.history
    historicalEscalationDeduplicationKeys := projection.historicalDeduplicationKeys.toList
    activeEscalationSuppressionRestored := false
    currentStandingReconstructed := false }

/-! ## The projection of distinct records -/

/-- The sparse event in a record. -/
def eventOf (record : HistoricalJournalRecordV1) : Option SparseDurableEventV1 :=
  match record.body with
  | .sparseEvent event => some event
  | _ => none

/-- The contradiction custody in a record. -/
def custodyOf (record : HistoricalJournalRecordV1) : Option ContradictionCustodyV1 :=
  match record.body with
  | .contradictionCustody custody => some custody
  | _ => none

/-- The diagnostic receipt in a record. -/
def receiptOf (record : HistoricalJournalRecordV1) : Option MockDiagnosticReceiptV1 :=
  match record.body with
  | .diagnosticReceipt receipt => some receipt
  | _ => none

/-- No two records share an event or receipt identity. -/
def DistinctIdentities (records : List HistoricalJournalRecordV1) : Prop :=
  records.Pairwise fun earlier later => ∀ identity,
    earlier.body.immutableIdentity = some identity →
      later.body.immutableIdentity ≠ some identity

/-- What the loop holds after some records. -/
structure Projects (records : List HistoricalJournalRecordV1) (projection : Projection) :
    Prop where
  events : projection.sparseEvents = records.filterMap eventOf
  known : ∀ eventId, projection.eventIds.contains eventId = true ↔
    ∃ event ∈ records.filterMap eventOf, event.eventId = eventId
  custody : projection.contradictions = mergeCustody (records.filterMap custodyOf)
  receipts : ∀ receiptId, projection.receipts[receiptId]? =
    (records.filterMap receiptOf).find? fun receipt => decide (receipt.receiptId = receiptId)

variable {records : List HistoricalJournalRecordV1} {record : HistoricalJournalRecordV1}
  {projection : Projection}

theorem Projects.new_event (h : Projects records projection)
    (hdistinct : DistinctIdentities (records ++ [record])) {event : SparseDurableEventV1}
    (hevent : record.body = .sparseEvent event) :
    projection.eventIds.contains event.eventId = false := by
  rw [Bool.eq_false_iff]
  intro hknown
  obtain ⟨earlier, hmem, hsame⟩ := (h.known _).mp hknown
  obtain ⟨holder, hholder, hholds⟩ := List.mem_filterMap.mp hmem
  have hapart := (List.pairwise_append.mp hdistinct).2.2 holder hholder record (by simp)
  unfold eventOf at hholds
  split at hholds
  · rename_i body hbody
    cases hholds
    refine hapart _ (by rw [hbody]; rfl) ?_
    rw [hevent, hsame]
    rfl
  · cases hholds

theorem Projects.new_receipt (h : Projects records projection)
    (hdistinct : DistinctIdentities (records ++ [record])) {receipt : MockDiagnosticReceiptV1}
    (hreceipt : record.body = .diagnosticReceipt receipt) :
    projection.receipts[receipt.receiptId]? = none := by
  rw [h.receipts, List.find?_eq_none]
  intro earlier hmem hsame
  obtain ⟨holder, hholder, hholds⟩ := List.mem_filterMap.mp hmem
  have hapart := (List.pairwise_append.mp hdistinct).2.2 holder hholder record (by simp)
  unfold receiptOf at hholds
  split at hholds
  · rename_i body hbody
    cases hholds
    refine hapart _ (by rw [hbody]; rfl) ?_
    rw [hreceipt, of_decide_eq_true hsame]
    rfl
  · cases hholds

theorem mergeCustody_concat (custodies : List ContradictionCustodyV1)
    (custody : ContradictionCustodyV1) : mergeCustody (custodies ++ [custody]) =
      (mergeCustody custodies).insert (custodyKey custody) custody := by
  simp [mergeCustody]

/-- One more record with a new identity. -/
theorem Projects.next (h : Projects records projection)
    (hdistinct : DistinctIdentities (records ++ [record])) :
    ∃ next, projectRecord projection record = .ok next ∧ Projects (records ++ [record]) next := by
  unfold projectRecord
  cases hbody : record.body with
  | sparseEvent event =>
    simp only [h.new_event hdistinct hbody, refuseIf, Bool.false_eq_true, if_false]
    refine ⟨_, rfl, ?_, fun eventId => ?_, ?_, fun receiptId => ?_⟩
    · simp [h.events, eventOf, hbody]
    · simp [h.known, eventOf, hbody, or_comm, or_and_right, exists_or]
    · simp [h.custody, custodyOf, hbody]
    · simp [h.receipts, receiptOf, hbody]
  | contradictionCustody custody =>
    refine ⟨_, rfl, ?_, fun eventId => ?_, ?_, fun receiptId => ?_⟩
    · simp [h.events, eventOf, hbody]
    · simp [h.known, eventOf, hbody]
    · simp [h.custody, custodyOf, hbody, mergeCustody_concat]
    · simp [h.receipts, receiptOf, hbody]
  | diagnosticReceipt receipt =>
    have hnew := h.new_receipt hdistinct hbody
    have habsent : projection.receipts.contains receipt.receiptId = false := by
      rw [ExtTreeMap.contains_eq_isSome_getElem?, hnew]
      rfl
    simp only [habsent, refuseIf, Bool.false_eq_true, if_false]
    refine ⟨_, rfl, ?_, fun eventId => ?_, ?_, fun receiptId => ?_⟩
    · simp [h.events, eventOf, hbody]
    · simp [h.known, eventOf, hbody]
    · simp [h.custody, custodyOf, hbody]
    · have hlast : receiptOf record = some receipt := by simp [receiptOf, hbody]
      rw [ExtTreeMap.getElem?_insert, List.filterMap_append, List.find?_append,
        List.filterMap_cons_some hlast, ← h.receipts]
      by_cases hsame : receipt.receiptId = receiptId
      · simp [← hsame, hnew]
      · simp [hsame, h.receipts]

/-- Distinct records project. -/
theorem exists_projects (hdistinct : DistinctIdentities records) :
    ∃ projection, records.foldlM projectRecord {} = .ok projection ∧
      Projects records projection := by
  induction records using List.reverseRecOn with
  | nil => exact ⟨{}, rfl, rfl, by simp, rfl, by simp⟩
  | append_singleton records record ih =>
    obtain ⟨projection, hrun, h⟩ := ih (List.pairwise_append.mp hdistinct).1
    obtain ⟨next, hnext, hprojects⟩ := h.next hdistinct
    refine ⟨next, ?_, hprojects⟩
    rw [List.foldlM_append, hrun]
    show projectRecord projection record >>= pure = _
    rw [hnext]
    rfl

/-! ## Scans of arbitrary bytes -/

/-- The committed frames that bytes begin with, up to the bound on records: no committed prefix
within the bound goes on after them. -/
structure LongestPrefix (sha256 : Sha256) (json : JournalJson) (config : JournalConfigV1)
    (bytes : List UInt8) (records : List HistoricalJournalRecordV1) (consumed : List UInt8) :
    Prop where
  committed : ∃ prior, Committed sha256 json config records consumed prior
  bounded : records.length ≤ config.bounds.maximumRecords
  read : consumed <+: bytes
  longest : ∀ records' consumed' prior', Committed sha256 json config records' consumed' prior' →
    records'.length ≤ config.bounds.maximumRecords → consumed' <+: bytes →
      records' <+: records ∧ consumed' <+: consumed

section Scans

variable {sha256 : Sha256} {json : JournalJson} {config : JournalConfigV1} {bytes : List UInt8}
  {consumed : List UInt8} {prior : DigestV1}

theorem Committed.distinct (committed : Committed sha256 json config records consumed prior) :
    DistinctIdentities records := by
  induction committed with
  | nil => exact .nil
  | @next records consumed prior payload record _ frame ih =>
    refine List.pairwise_append.mpr ⟨ih, List.pairwise_singleton _ _, ?_⟩
    intro earlier hmem later hlater
    obtain rfl := List.mem_singleton.mp hlater
    exact frame.distinct earlier hmem

/-- A scan of any bytes returns a report on the longest committed prefix. -/
theorem scanBytes_longest (hconfig : config.validate = .ok ()) (hsize : bytes.length < u64Max) :
    ∃ report consumed, scanBytes sha256 json config bytes = .ok report ∧
      LongestPrefix sha256 json config bytes report.records consumed ∧
      (consumed = bytes ∧ report.outcome = .clean ∨
        consumed ≠ bytes ∧ ∃ damage firstDamage detail lastDigest,
          report = damagedAt json config damage report.records firstDamage bytes.length detail
            lastDigest) := by
  have hbound := JournalConfigV1.payload_le hconfig
  obtain ⟨state, hreads, hlast, hreport⟩ := @scanBytes_spec sha256 json config bytes hsize hbound
  have hlongest : LongestPrefix sha256 json config bytes state.records
      (bytes.take state.offset) :=
    { committed := ⟨_, hreads.committed⟩
      bounded := hreads.bounded
      read := List.take_prefix _ _
      longest := by
        intro records' consumed' prior' committed' hbounded' hread'
        obtain ⟨other, hsteps, rfl, hoffset, -⟩ :=
          steps_of_committed hsize hbound committed' hread' hbounded'
        obtain ⟨hother, -, -⟩ := readsTo_steps hsize hbound readsTo_initial hsteps
        obtain ⟨-, hforward, hlonger⟩ := readsTo_steps hsize hbound hother (hlast other hsteps)
        refine ⟨hlonger, ?_⟩
        rw [List.prefix_iff_eq_take.mp hread', ← hoffset]
        exact List.take_prefix_take_left hforward }
  rcases hreport with ⟨hwhole, hscan⟩ | ⟨hshort, damage, firstDamage, detail, hscan⟩
  · exact ⟨_, _, hscan, hlongest, .inl ⟨by rw [hwhole, List.take_length], rfl⟩⟩
  · refine ⟨_, _, hscan, hlongest, .inr ⟨fun hsame => ?_, damage, firstDamage, detail, _, rfl⟩⟩
    have hlength := congrArg List.length hsame
    rw [List.length_take] at hlength
    omega

/-- The state that the loop collects is valid. -/
theorem Projection.validate_history : projection.history.validate = .ok () := by
  simp [RuntimeHistoricalStateV1.validate, Projection.history]

variable {report : JournalRecoveryReportV1}

/-- A projection fails only if recovery was refused or the loop fails. -/
theorem projectHistory_eq_ok {projected : JournalHistoryProjectionV1}
    (h : report.projectHistory = .ok projected) : report.outcome ≠ .refused ∧ ∃ projection,
      report.records.foldlM projectRecord {} = .ok projection ∧
        projected.history = projection.history := by
  rw [JournalRecoveryReportV1.projectHistory, check_bind_eq_ok, refuseIf_eq_ok,
    decide_eq_false_iff_not, except_bind_eq_ok] at h
  obtain ⟨haccepted, projection, hrun, hrest⟩ := h
  obtain ⟨-, hprojected⟩ := (check_bind_eq_ok _ _ _).mp hrest
  cases hprojected
  exact ⟨haccepted, projection, hrun, rfl⟩

theorem exists_projectHistory (haccepted : report.outcome ≠ .refused)
    (hrun : report.records.foldlM projectRecord {} = .ok projection) :
    ∃ projected, report.projectHistory = .ok projected := by
  simp only [JournalRecoveryReportV1.projectHistory, refuseIf, haccepted, decide_false,
    Bool.false_eq_true, if_false, hrun, Projection.validate_history]
  exact ⟨_, rfl⟩

/-- Records with distinct identities project unless recovery was refused, and the events come in
their order. -/
theorem projectHistory_of_distinct (hdistinct : DistinctIdentities report.records) :
    ((∃ projected, report.projectHistory = .ok projected) ↔ report.outcome ≠ .refused) ∧
      ∀ projected, report.projectHistory = .ok projected →
        projected.history.sparseEvents = report.records.filterMap eventOf := by
  obtain ⟨projection, hrun, hprojects⟩ := exists_projects hdistinct
  refine ⟨⟨fun ⟨_, h⟩ => (projectHistory_eq_ok h).1, fun h => exists_projectHistory h hrun⟩, ?_⟩
  intro projected h
  obtain ⟨-, other, hother, hhistory⟩ := projectHistory_eq_ok h
  rw [hrun] at hother
  cases hother
  rw [hhistory]
  exact hprojects.events

theorem outcome_damagedAt {damage : JournalDamageClassV1} {firstDamage observedBytes : Nat}
    {detail : Text} {lastDigest : Option DigestV1} :
    (damagedAt json config damage records firstDamage observedBytes detail lastDigest).outcome ≠
      .clean := by
  unfold damagedAt damagedReport
  dsimp only
  split <;> simp

end Scans

end ConstellationMonitor.Journal

/-
  The journal scan finds the longest committed prefix.

  A committed prefix is a run of frames with sequences from 1 on, each linked to the one before
  it.  The loop goes from one committed prefix to the next, and where it stops there is no
  longer one within the bound on records.
-/
import ConstellationMonitor.Journal.Frames

namespace ConstellationMonitor.Journal

open Foundation ConstellationMonitor.Types

/-- Consecutive committed frames: the records in them, their bytes, and the digest the next one
has to name. -/
inductive Committed (sha256 : Sha256) (json : JournalJson) (config : JournalConfigV1) :
    List HistoricalJournalRecordV1 → List UInt8 → DigestV1 → Prop
  | nil : Committed sha256 json config [] [] (genesisDigest sha256)
  | next {records : List HistoricalJournalRecordV1} {consumed : List UInt8} {prior : DigestV1}
      {payload : List UInt8} {record : HistoricalJournalRecordV1}
      (committed : Committed sha256 json config records consumed prior)
      (frame : NextFrame sha256 json config records prior payload record) :
      Committed sha256 json config (records ++ [record])
        (consumed ++ frameOf sha256 prior payload record) (digestOf sha256 prior payload record)

section Scan

variable {sha256 : Sha256} {json : JournalJson} {config : JournalConfigV1} {bytes : List UInt8}
  {state next : ScanState} {payload payload' : List UInt8}
  {record record' : HistoricalJournalRecordV1}

/-- There is at most one frame at an offset. -/
theorem FrameAt.unique (hbound : config.bounds.maximumRecordPayloadBytes ≤ u32Max)
    (hsequence : state.records.length + 1 < 256 ^ 8) (hoffset : state.offset ≤ bytes.length)
    (h : FrameAt sha256 json config bytes state payload record)
    (h' : FrameAt sha256 json config bytes state payload' record') :
    payload = payload' ∧ record = record' := by
  obtain ⟨-, hheader, hpayload, -⟩ := (h.frame.prefix_iff hoffset).mp h.read
  obtain ⟨-, hheader', hpayload', -⟩ := (h'.frame.prefix_iff hoffset).mp h'.read
  obtain ⟨-, -, hlength⟩ := encodeHeader_fields h.frame.linked
    (h.frame.sequence ▸ hsequence) (h'.frame.sequence ▸ hsequence)
    (by have := h.frame.fits; rw [u32Max] at hbound; omega)
    (by have := h'.frame.fits; rw [u32Max] at hbound; omega)
    (hheader.symm.trans hheader')
  rw [hlength] at hpayload
  have hsame : payload = payload' := hpayload.symm.trans hpayload'
  refine ⟨hsame, ?_⟩
  have hdecoded := h.frame.decoded
  rw [hsame, h'.frame.decoded] at hdecoded
  exact (Except.ok.inj hdecoded).symm

/-- The loop has read a committed prefix of the bytes. -/
structure ReadsTo (sha256 : Sha256) (json : JournalJson) (config : JournalConfigV1)
    (bytes : List UInt8) (state : ScanState) : Prop where
  sound : state.Sound
  inside : state.offset ≤ bytes.length
  bounded : state.records.length ≤ config.bounds.maximumRecords
  committed : Committed sha256 json config state.records (bytes.take state.offset)
    state.expectedPrior

theorem readsTo_initial : ReadsTo sha256 json config bytes (.initial sha256) where
  sound := ⟨rfl, by simp [ScanState.initial], Nat.zero_le _⟩
  inside := Nat.zero_le _
  bounded := Nat.zero_le _
  committed := .nil

theorem ScanState.Sound.after (sound : state.Sound)
    (hframe : 0 < (frameOf sha256 state.expectedPrior payload record).length) :
    (state.after sha256 payload record).Sound where
  sequence := by
    show state.expectedSequence + 1 = (state.records ++ [record]).length + 1
    rw [sound.sequence, List.length_append]
    rfl
  identities := by
    intro identity
    show (noteIdentity record state.immutableIdentities).contains identity = true ↔
      ∃ other ∈ state.records ++ [record], other.body.immutableIdentity = some identity
    unfold noteIdentity
    cases hidentity : record.body.immutableIdentity with
    | none => simp [hidentity, sound.identities, or_and_right, exists_or]
    | some known =>
      simp [hidentity, sound.identities, or_and_right, exists_or, or_comm]
  advanced := by
    show (state.records ++ [record]).length ≤ _ + _
    have hadvanced := sound.advanced
    rw [List.length_append, List.length_singleton]
    omega

variable {prior : DigestV1} {records : List HistoricalJournalRecordV1} {consumed : List UInt8}

theorem NextFrame.frame_pos (h : NextFrame sha256 json config records prior payload record) :
    0 < (frameOf sha256 prior payload record).length := by
  rw [h.length_frame]
  have hheader : 0 < headerBytes := by decide
  omega

/-- Bytes up to the end of a frame at the offset. -/
theorem FrameAt.take (h : FrameAt sha256 json config bytes state payload record)
    (hoffset : state.offset ≤ bytes.length) :
    state.offset + (frameOf sha256 state.expectedPrior payload record).length ≤ bytes.length ∧
      bytes.take (state.offset + (frameOf sha256 state.expectedPrior payload record).length) =
        bytes.take state.offset ++ frameOf sha256 state.expectedPrior payload record := by
  obtain ⟨hwithin, hread⟩ := (prefix_drop_iff hoffset).mp h.read
  refine ⟨hwithin, ?_⟩
  rw [List.take_add, ← List.prefix_iff_eq_take.mp h.read]

theorem ReadsTo.after (reads : ReadsTo sha256 json config bytes state)
    (h : FrameAt sha256 json config bytes state payload record) :
    ReadsTo sha256 json config bytes (state.after sha256 payload record) where
  sound := reads.sound.after h.frame.frame_pos
  inside := (h.take reads.inside).1
  bounded := by
    show (state.records ++ [record]).length ≤ _
    rw [List.length_append]
    exact h.room
  committed := by
    show Committed sha256 json config (state.records ++ [record]) (bytes.take (_ + _)) _
    rw [(h.take reads.inside).2]
    exact reads.committed.next h.frame

/-- There are bytes left to read. -/
abbrev moreBytes (bytes : List UInt8) (state : ScanState) : Bool :=
  decide (state.offset < bytes.length)

variable (hsize : bytes.length < u64Max)
  (hbound : config.bounds.maximumRecordPayloadBytes ≤ u32Max)

include hsize hbound

/-- A step of the loop reads the frame at the offset. -/
theorem takes_iff (reads : ReadsTo sha256 json config bytes state) :
    Takes (moreBytes bytes) (scanFrame sha256 json config bytes) state next ↔
      ∃ payload record, FrameAt sha256 json config bytes state payload record ∧
        next = state.after sha256 payload record := by
  have hdecides : Decides .outOfRange _ (scanFrame sha256 json config bytes state) :=
    decides_scanFrame hsize hbound reads.sound reads.inside
  constructor
  · rintro ⟨-, hstep⟩
    exact hdecides.of_ok hstep
  · rintro ⟨payload, record, h, rfl⟩
    have hinside := (h.take reads.inside).1
    have hframe := h.frame.frame_pos
    obtain ⟨result, hstep, payload', record', h', rfl⟩ :=
      hdecides.exists_ok ⟨payload, record, h, rfl⟩
    have hsequence : state.records.length + 1 < 256 ^ 8 := by
      have hadvanced := reads.sound.advanced
      rw [u64Max] at hsize
      omega
    obtain ⟨rfl, rfl⟩ := h.unique hbound hsequence reads.inside h'
    exact ⟨decide_eq_true (by omega), hstep⟩

/-- A step keeps what was read and goes forward. -/
theorem readsTo_takes (reads : ReadsTo sha256 json config bytes state)
    (takes : Takes (moreBytes bytes) (scanFrame sha256 json config bytes) state next) :
    ReadsTo sha256 json config bytes next ∧ state.offset < next.offset ∧
      state.records <+: next.records := by
  obtain ⟨payload, record, h, rfl⟩ := (takes_iff hsize hbound reads).mp takes
  exact ⟨reads.after h, Nat.lt_add_of_pos_right h.frame.frame_pos, List.prefix_append _ _⟩

/-- The loop goes from a committed prefix to longer ones. -/
theorem readsTo_steps (reads : ReadsTo sha256 json config bytes state)
    (steps : Steps (moreBytes bytes) (scanFrame sha256 json config bytes) state next) :
    ReadsTo sha256 json config bytes next ∧ state.offset ≤ next.offset ∧
      state.records <+: next.records := by
  induction steps with
  | refl => exact ⟨reads, le_rfl, List.prefix_rfl⟩
  | tail _ takes ih =>
    obtain ⟨hreads, hoffset, hrecords⟩ := ih
    obtain ⟨hnext, hforward, hlonger⟩ := readsTo_takes hsize hbound hreads takes
    exact ⟨hnext, hoffset.trans hforward.le, hrecords.trans hlonger⟩

/-- The loop does not go on without a record. -/
theorem steps_same (reads : ReadsTo sha256 json config bytes state)
    (steps : Steps (moreBytes bytes) (scanFrame sha256 json config bytes) state next)
    (h : state.records = next.records) : state = next := by
  rcases Relation.ReflTransGen.cases_head steps with hsame | ⟨middle, htakes, hrest⟩
  · exact hsame
  · obtain ⟨payload, record, hframe, rfl⟩ := (takes_iff hsize hbound reads).mp htakes
    obtain ⟨-, -, hlonger⟩ := readsTo_steps hsize hbound (reads.after hframe) hrest
    have hlength : (state.records ++ [record]).length ≤ next.records.length := hlonger.length_le
    rw [← h, List.length_append, List.length_singleton] at hlength
    omega

/-- The loop goes through every committed prefix within the bound on records. -/
theorem steps_of_committed (committed : Committed sha256 json config records consumed prior)
    (hstarts : consumed <+: bytes) (hroom : records.length ≤ config.bounds.maximumRecords) :
    ∃ state, Steps (moreBytes bytes) (scanFrame sha256 json config bytes) (.initial sha256) state ∧
      state.records = records ∧ state.offset = consumed.length ∧ state.expectedPrior = prior := by
  induction committed with
  | nil => exact ⟨_, .refl, rfl, rfl, rfl⟩
  | @next records consumed prior payload record committed frame ih =>
    rw [List.length_append, List.length_singleton] at hroom
    obtain ⟨state, hsteps, rfl, hoffset, rfl⟩ :=
      ih ((List.prefix_append _ _).trans hstarts) (by omega)
    obtain ⟨hreads, -, -⟩ := readsTo_steps hsize hbound readsTo_initial hsteps
    have hat : FrameAt sha256 json config bytes state payload record :=
      { room := by omega
        frame := frame
        read := by
          obtain ⟨rest, rfl⟩ := hstarts
          rw [hoffset, List.append_assoc, List.drop_left]
          exact List.prefix_append _ _ }
    refine ⟨state.after sha256 payload record,
      hsteps.tail ((takes_iff hsize hbound hreads).mpr ⟨payload, record, hat, rfl⟩), rfl, ?_, rfl⟩
    rw [List.length_append, ← hoffset]
    rfl

/-- Committed prefixes of the same bytes with the same records are the same. -/
theorem consumed_unique {consumed' : List UInt8} {prior' : DigestV1}
    (committed : Committed sha256 json config records consumed prior)
    (committed' : Committed sha256 json config records consumed' prior')
    (hroom : records.length ≤ config.bounds.maximumRecords) (hstarts : consumed <+: bytes)
    (hstarts' : consumed' <+: bytes) : consumed = consumed' := by
  obtain ⟨state, hsteps, hrecords, hoffset, -⟩ :=
    steps_of_committed hsize hbound committed hstarts hroom
  obtain ⟨state', hsteps', hrecords', hoffset', -⟩ :=
    steps_of_committed hsize hbound committed' hstarts' hroom
  have hsame : state = state' := by
    obtain ⟨hreads, -, -⟩ := readsTo_steps hsize hbound readsTo_initial hsteps
    obtain ⟨hreads', -, -⟩ := readsTo_steps hsize hbound readsTo_initial hsteps'
    rcases Relation.ReflTransGen.total_of_right_unique takes_rightUnique hsteps hsteps' with
      hlater | hearlier
    · exact steps_same hsize hbound hreads hlater (hrecords.trans hrecords'.symm)
    · exact (steps_same hsize hbound hreads' hearlier (hrecords'.trans hrecords.symm)).symm
  rw [List.prefix_iff_eq_take.mp hstarts, List.prefix_iff_eq_take.mp hstarts', ← hoffset,
    ← hoffset', hsame]

/-! ## The report -/

/-- The state the loop ends in. -/
theorem scanLoop_spec : ReadsTo sha256 json config bytes (scanLoop sha256 json config bytes).1 ∧
      (∀ other, Steps (moreBytes bytes) (scanFrame sha256 json config bytes)
          (.initial sha256) other →
        Steps (moreBytes bytes) (scanFrame sha256 json config bytes) other
          (scanLoop sha256 json config bytes).1) ∧
      (scanLoop sha256 json config bytes).2 ≠ .unfinished ∧
      (scanLoop sha256 json config bytes).2 ≠ .stopped .outOfRange := by
  have hsteps := steps_runWhile (moreBytes bytes) (scanFrame sha256 json config bytes)
    (bytes.length + 1) (.initial sha256)
  have hends : Ends (moreBytes bytes) (scanFrame sha256 json config bytes)
    (scanLoop sha256 json config bytes) := ends_runWhile _ _ _ _
  obtain ⟨hreads, -, -⟩ := readsTo_steps hsize hbound readsTo_initial hsteps
  have hhalts : (scanLoop sha256 json config bytes).2 ≠ .unfinished := by
    refine runWhile_halts (ReadsTo sha256 json config bytes)
      (fun state : ScanState => bytes.length - state.offset)
      (fun state next hstate htakes => ?_) readsTo_initial (by simp [ScanState.initial])
    obtain ⟨hnext, hforward, -⟩ := readsTo_takes hsize hbound hstate htakes
    have hmore := of_decide_eq_true htakes.1
    exact ⟨hnext, by omega⟩
  refine ⟨hreads, fun other hother => runWhile_last hhalts hother, hhalts, fun hfault => ?_⟩
  have hdecides : Decides .outOfRange _ (scanFrame sha256 json config bytes
    (scanLoop sha256 json config bytes).1) :=
      decides_scanFrame hsize hbound hreads.sound hreads.inside
  generalize scanLoop sha256 json config bytes = result at hfault hends hdecides
  obtain ⟨last, halt⟩ := result
  obtain rfl : halt = _ := hfault
  exact hdecides.ne_fault hends.2

/-- A scan returns a report on the records of the loop: clean if it read all bytes, damaged
otherwise. -/
theorem scanBytes_spec : ∃ state, ReadsTo sha256 json config bytes state ∧
      (∀ other, Steps (moreBytes bytes) (scanFrame sha256 json config bytes)
          (.initial sha256) other →
        Steps (moreBytes bytes) (scanFrame sha256 json config bytes) other state) ∧
      (state.offset = bytes.length ∧ scanBytes sha256 json config bytes =
          .ok (cleanReport state.records bytes.length (some config.journalId) state.lastDigest) ∨
        state.offset < bytes.length ∧ ∃ damage firstDamage detail,
          scanBytes sha256 json config bytes = .ok (damagedAt json config damage state.records
            firstDamage bytes.length detail state.lastDigest)) := by
  obtain ⟨hreads, hlast, hhalts, hrange⟩ :=
    @scanLoop_spec sha256 json config bytes hsize hbound
  have hends : Ends (moreBytes bytes) (scanFrame sha256 json config bytes)
    (scanLoop sha256 json config bytes) := ends_runWhile _ _ _ _
  refine ⟨_, hreads, hlast, ?_⟩
  by_cases hempty : bytes = []
  · subst hempty
    exact .inl ⟨rfl, rfl⟩
  · have hloop : scanBytes sha256 json config bytes = _ := if_neg (by simpa using hempty)
    rw [hloop]
    clear hlast hloop
    generalize scanLoop sha256 json config bytes = result at *
    obtain ⟨last, halt⟩ := result
    cases halt with
    | finished =>
      have hdone := of_decide_eq_false hends
      have hinside : last.offset ≤ bytes.length := hreads.inside
      exact .inl ⟨le_antisymm hinside (not_lt.mp hdone), rfl⟩
    | stopped stop =>
      cases stop with
      | outOfRange => exact absurd rfl hrange
      | damaged damage firstDamage detail =>
        exact .inr ⟨of_decide_eq_true hends.1, damage, firstDamage, detail, rfl⟩
    | unfinished => exact absurd rfl hhalts

end Scan

end ConstellationMonitor.Journal

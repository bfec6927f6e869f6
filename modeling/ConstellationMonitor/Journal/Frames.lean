/-
  What one round of the journal scan accepts: exactly the next committed frame.

  Each part of a round decides whether the bytes at the offset are the part of a frame it reads.
  Put together, a round succeeds if and only if the frame is there, and no access leaves the
  bytes.
-/
import ConstellationMonitor.Journal.Scan

namespace ConstellationMonitor.Journal

open Foundation ConstellationMonitor.Types

/-! ## Digests on the wire -/

variable {digest priorDigest : DigestV1} {bytes : List UInt8} {sequence left right : Nat}
  {config : JournalConfigV1} {state : ScanState} {sha256 : Sha256}

theorem isUtf8_of_validate (h : digest.validate = .ok ()) : digest.text.isUtf8 = true := by
  obtain ⟨hex, htext, -, hhex⟩ := DigestV1.of_validate h
  refine Text.isUtf8_of_printable fun byte hbyte => ?_
  rw [htext, Text.bytes_append] at hbyte
  rcases List.mem_append.mp hbyte with hstart | hdigit
  · have hprintable : ∀ byte ∈ (Text.ofString "sha256:").bytes, 0x20 ≤ byte ∧ byte < 0x7f := by
      decide +kernel
    exact hprintable byte hstart
  · exact printable_of_isHexByte (List.all_eq_true.mp hhex byte hdigit)

/-- A digest is read from exactly its own bytes, and only if it is valid. -/
theorem readDigest_eq_some :
    readDigest bytes = some digest ↔ bytes = digest.text.bytes ∧ digest.validate = .ok () := by
  unfold readDigest
  dsimp only
  constructor
  · intro h
    split at h
    · split at h
      · rename_i hvalid
        cases h
        exact ⟨rfl, hvalid⟩
      · cases h
    · cases h
  · rintro ⟨rfl, hvalid⟩
    have hutf8 := isUtf8_of_validate hvalid
    rw [if_pos hutf8]
    simp only [hvalid]

theorem digest_eq_of_bytes {left right : DigestV1} (h : left.text.bytes = right.text.bytes) :
    left = right := by
  obtain ⟨⟨left⟩⟩ := left
  obtain ⟨⟨right⟩⟩ := right
  exact congrArg (fun bytes => DigestV1.mk ⟨bytes⟩) h

theorem length_digest (h : digest.validate = .ok ()) : digest.text.bytes.length = digestBytes :=
  DigestV1.length_of_validate h

theorem decides_orStop {α β : Type} {value : Option α} {stop : ScanStop}
    {condition : β → Prop} {rest : α → Except ScanStop β} (other : stop ≠ .outOfRange)
    (hnone : value = none → ∀ result, ¬condition result)
    (hsome : ∀ found, value = some found → Decides .outOfRange condition (rest found)) :
    Decides .outOfRange condition (orStop value stop >>= rest) := by
  cases value with
  | none => exact ⟨other, hnone rfl⟩
  | some found => exact hsome found rfl

/-! ## The header -/

/-- There is room for a frame and the bytes at the offset start like one. -/
structure MagicAt (config : JournalConfigV1) (bytes : List UInt8) (state : ScanState)
    (header : List UInt8) : Prop where
  room : state.records.length < config.bounds.maximumRecords
  within : state.offset + headerBytes ≤ bytes.length
  read : part bytes state.offset (state.offset + headerBytes) = header
  magic : part header 0 8 = dataMagic

/-- A header is that of the next frame. -/
structure IsHeader (config : JournalConfigV1) (state : ScanState) (header : List UInt8)
    (front : FrameHeader) : Prop where
  same : front.header = header
  sequence : front.sequence = state.expectedSequence
  fits : front.payloadLength ≤ config.bounds.maximumRecordPayloadBytes
  prior : state.expectedPrior.validate = .ok ()
  encoded : header =
    encodeHeader front.kind front.sequence front.payloadLength state.expectedPrior

/-- The widths of the fields of a header. -/
def headerWidths : List Nat := [8, 2, 1, 1, 8, 4, digestBytes]

/-- The fields of a header. -/
def headerParts (kind : JournalRecordKindV1) (sequence payloadLength : Nat)
    (priorDigest : DigestV1) : List (List UInt8) :=
  [dataMagic, beBytes 2 journalFormatVersionV1, [kind.tag], [0], beBytes 8 sequence,
    beBytes 4 payloadLength, priorDigest.text.bytes]

theorem flatten_headerParts (kind : JournalRecordKindV1) (sequence payloadLength : Nat)
    (priorDigest : DigestV1) : (headerParts kind sequence payloadLength priorDigest).flatten =
      encodeHeader kind sequence payloadLength priorDigest := by
  simp [headerParts, encodeHeader]

theorem length_dataMagic : dataMagic.length = 8 := by decide +kernel

theorem length_headerParts (kind : JournalRecordKindV1) (sequence payloadLength : Nat)
    (h : priorDigest.validate = .ok ()) :
    (headerParts kind sequence payloadLength priorDigest).map List.length = headerWidths := by
  simp [headerParts, headerWidths, length_dataMagic, length_digest h]

theorem length_encodeHeader (kind : JournalRecordKindV1) (sequence payloadLength : Nat)
    (h : priorDigest.validate = .ok ()) :
    (encodeHeader kind sequence payloadLength priorDigest).length = headerBytes := by
  rw [← flatten_headerParts, List.length_flatten, length_headerParts kind sequence payloadLength h]
  rfl

/-- A header read field by field. -/
theorem cut_header (header : List UInt8) : cut headerWidths header =
      [part header 0 8, part header 8 10, part header 10 11, part header 11 12, part header 12 20,
        part header 20 24, part header 24 (24 + digestBytes)] := by
  simp [cut, headerWidths, part, List.drop_drop]

/-- A header is the encoding of its fields. -/
theorem eq_encodeHeader_iff {header : List UInt8} (hlength : header.length = headerBytes)
    {kind : JournalRecordKindV1} {payloadLength : Nat} (hprior : priorDigest.validate = .ok ()) :
    header = encodeHeader kind sequence payloadLength priorDigest ↔
      part header 0 8 = dataMagic ∧ part header 8 10 = beBytes 2 journalFormatVersionV1 ∧
        part header 10 11 = [kind.tag] ∧ part header 11 12 = [0] ∧
        part header 12 20 = beBytes 8 sequence ∧ part header 20 24 = beBytes 4 payloadLength ∧
        part header 24 (24 + digestBytes) = priorDigest.text.bytes := by
  have hwidths : header.length = headerWidths.sum := hlength
  rw [← flatten_headerParts, eq_flatten_iff hwidths (length_headerParts _ _ _ hprior), cut_header]
  simp [headerParts]

theorem decides_scanMagic (hoffset : state.offset ≤ bytes.length) :
    Decides .outOfRange (MagicAt config bytes state) (scanMagic config bytes state) := by
  have hremaining : (bytes.drop state.offset).length = bytes.length - state.offset :=
    List.length_drop
  unfold scanMagic
  refine .refuseIf (by simp) (fun hfull header h => ?_) fun hroom => ?_
  · exact absurd h.room (by simpa using hfull)
  refine .slice hoffset le_rfl ?_
  rw [part_length]
  refine .atMost (by simp) (fun header h => ?_) fun hlong => ?_
  · have hwithin := h.within
    simp only [length_dataMagic, headerBytes] at hwithin ⊢
    omega
  refine .slice (Nat.zero_le _) hlong (.require (by simp) (fun header h => ?_) fun hmagic => ?_)
  · rw [length_dataMagic, part_drop, ← h.magic, ← h.read,
      part_part _ (Nat.add_le_add_left (by decide) _)]
  rw [length_dataMagic, part_drop] at hmagic
  refine .atMost (by simp) (fun header h => ?_) fun hwhole => ?_
  · have hwithin := h.within
    omega
  have hwithin : state.offset + headerBytes ≤ bytes.length := by omega
  rw [slice, if_pos ⟨Nat.zero_le _, hwhole⟩, part_drop, Nat.add_zero]
  refine ⟨by simpa using hroom, hwithin, rfl, ?_⟩
  rw [part_part _ (Nat.add_le_add_left (by decide) _)]
  exact hmagic

theorem decides_scanHeader {header : List UInt8} (hlength : header.length = headerBytes)
    (hmagic : part header 0 8 = dataMagic) (hsequence : state.expectedSequence < 256 ^ 8)
    (hbound : config.bounds.maximumRecordPayloadBytes ≤ u32Max) :
    Decides .outOfRange (IsHeader config state header) (scanHeader config state header) := by
  -- what the header of the next frame says about the bytes
  have hfields := fun front (h : IsHeader config state header front) =>
    ((eq_encodeHeader_iff hlength h.prior).mp h.encoded).2
  unfold scanHeader
  refine .byteAt (by rw [hlength]; decide) fun high hhigh => ?_
  refine .byteAt (by rw [hlength]; decide) fun low hlow => ?_
  have hversion : part header 8 10 = [high, low] := by
    rw [← part_append_part header (show 8 ≤ 9 by decide) (by decide), hhigh, hlow]
    rfl
  refine .require (by simp) (fun front h => ?_) fun hsupported => ?_
  · rw [hversion.symm.trans (hfields front h).1]
    decide
  refine .byteAt (by rw [hlength]; decide) fun tag htag => ?_
  refine decides_orStop (by simp) (fun hnone front h => ?_) fun kind hkind => ?_
  · have hsame := (hfields front h).2.1
    rw [htag, List.cons.injEq] at hsame
    rw [JournalRecordKindV1.fromTag_eq_some.mpr hsame.1] at hnone
    cases hnone
  refine .byteAt (by rw [hlength]; decide) fun reserved hreserved => ?_
  refine .require (by simp) (fun front h => ?_) fun hzero => ?_
  · exact (List.cons.inj (hreserved.symm.trans (hfields front h).2.2.1)).1
  refine .slice (by decide) (by rw [hlength]; decide) (.wordOf
    (length_part (by rw [hlength]; decide)) (.require (by simp) (fun front h => ?_)
      fun hexpected => ?_))
  · rw [(hfields front h).2.2.2.1, h.sequence, ofBe_beBytes hsequence]
  refine .slice (by decide) (by rw [hlength]; decide) (.wordOf
    (length_part (by rw [hlength]; decide)) (.atMost (by simp) (fun front h => ?_)
      fun hfits => ?_))
  · have hfits := h.fits
    rw [(hfields front h).2.2.2.2.1, ofBe_beBytes (by rw [u32Max] at hbound; omega)]
    exact hfits
  refine .slice (by decide) (by rw [hlength]; decide) (decides_orStop (by simp)
    (fun hnone front h => ?_) fun prior hprior => ?_)
  · have hsame := (hfields front h).2.2.2.2.2
    rw [readDigest_eq_some.mpr ⟨hsame, h.prior⟩] at hnone
    cases hnone
  obtain ⟨hpriorBytes, hvalid⟩ := readDigest_eq_some.mp hprior
  refine .require (by simp) (fun front h => ?_) ?_
  · exact digest_eq_of_bytes (hpriorBytes.symm.trans (hfields front h).2.2.2.2.2)
  rintro rfl
  refine ⟨rfl, hexpected, hfits, hvalid, (eq_encodeHeader_iff hlength hvalid).mpr
    ⟨hmagic, ?_, ?_, ?_, ?_, ?_, hpriorBytes⟩⟩
  · rw [hversion, ← hsupported]
    exact (beBytes_ofBe [high, low]).symm
  · rw [htag, JournalRecordKindV1.fromTag_eq_some.mp hkind]
  · rw [hreserved, hzero]
  · exact part_eq_beBytes (by rw [hlength]; decide)
  · exact part_eq_beBytes (by rw [hlength]; decide)

/-! ## Payload and trailer -/

theorem checkedAdd_eq_some {sum : Nat} :
    checkedAdd left right = some sum ↔ left + right ≤ u64Max ∧ sum = left + right := by
  unfold checkedAdd
  split <;> simp_all [eq_comm]

/-- An end that saturates lies beyond the bytes. -/
theorem getD_checkedAdd_le {size : Nat} (hsize : size < u64Max) :
    (checkedAdd left right).getD u64Max ≤ size ↔ left + right ≤ size := by
  unfold checkedAdd
  split
  · simp
  · simp only [Option.getD_none]
    omega

theorem getD_checkedAdd_eq {size : Nat} (hsize : size < u64Max) (h : left + right ≤ size) :
    (checkedAdd left right).getD u64Max = left + right := by
  rw [checkedAdd, if_pos (by omega)]
  rfl

/-- The data frame that goes on after a header, followed by at least one byte. -/
structure DataFrameAt (sha256 : Sha256) (bytes : List UInt8) (recordStart : Nat)
    (front : FrameHeader) (frame : DataFrame) : Prop where
  payloadStart : frame.payloadStart = recordStart + headerBytes
  length : frame.payload.length = front.payloadLength
  payload : part bytes frame.payloadStart (frame.payloadStart + front.payloadLength) =
    frame.payload
  digest : frame.computedDigest = frameDigest sha256 front.header frame.payload
  valid : frame.computedDigest.validate = .ok ()
  trailerEnd : frame.trailerEnd = frame.payloadStart + front.payloadLength + trailerBytes
  trailer : part bytes (frame.payloadStart + front.payloadLength) frame.trailerEnd =
    encodeTrailer frame.computedDigest
  followed : frame.trailerEnd < bytes.length

theorem length_trailerMagic : trailerMagic.length = 8 := by decide +kernel

theorem length_encodeTrailer (h : digest.validate = .ok ()) :
    (encodeTrailer digest).length = trailerBytes := by
  rw [encodeTrailer, List.length_append, length_trailerMagic, length_digest h]
  rfl

/-- A trailer is the encoding of its digest. -/
theorem eq_encodeTrailer_iff {trailer : List UInt8} (hlength : trailer.length = trailerBytes)
    (hdigest : digest.validate = .ok ()) : trailer = encodeTrailer digest ↔
      part trailer 0 trailerMagic.length = trailerMagic ∧
        part trailer trailerMagic.length trailer.length = digest.text.bytes := by
  have hcut : cut [8, digestBytes] trailer = [part trailer 0 8, part trailer 8 trailer.length] := by
    rw [hlength]
    simp [cut, part, trailerBytes]
  have hparts : encodeTrailer digest = [trailerMagic, digest.text.bytes].flatten := by
    simp [encodeTrailer]
  rw [hparts, @eq_flatten_iff [8, digestBytes] _ _ hlength
    (by simp [length_trailerMagic, length_digest hdigest]), hcut, length_trailerMagic]
  simp

theorem decides_scanTrailer {recordStart : Nat} {front : FrameHeader}
    (hsize : bytes.length < u64Max) :
    Decides .outOfRange (DataFrameAt sha256 bytes recordStart front)
      (scanTrailer sha256 bytes recordStart front) := by
  -- where the parts of a data frame lie
  have hextent := fun frame (h : DataFrameAt sha256 bytes recordStart front frame) =>
    (show recordStart + headerBytes + front.payloadLength + trailerBytes < bytes.length by
      have hend := h.trailerEnd
      have hfollowed := h.followed
      rw [h.payloadStart] at hend
      omega)
  unfold scanTrailer
  refine decides_orStop (by simp) (fun hnone frame h => ?_) fun payloadEnd hend => ?_
  · have hinside := hextent frame h
    rw [checkedAdd, if_pos (by omega)] at hnone
    cases hnone
  obtain ⟨-, rfl⟩ := checkedAdd_eq_some.mp hend
  refine .atMost (by simp) (fun frame h => ?_) fun hpayload => ?_
  · have hinside := hextent frame h
    omega
  refine .atMost (by simp) (fun frame h => ?_) fun htrailer => ?_
  · exact (getD_checkedAdd_le hsize).mpr (hextent frame h).le
  rw [getD_checkedAdd_le hsize] at htrailer
  rw [getD_checkedAdd_eq hsize htrailer]
  have hlength : (part bytes (recordStart + headerBytes + front.payloadLength)
      (recordStart + headerBytes + front.payloadLength + trailerBytes)).length = trailerBytes :=
    (length_part htrailer).trans (Nat.add_sub_cancel_left _ _)
  -- what a data frame says about the bytes of the trailer
  have hfields := fun frame (h : DataFrameAt sha256 bytes recordStart front frame) =>
    (eq_encodeTrailer_iff hlength h.valid).mp (by
      have hread := h.trailer
      rw [h.trailerEnd, h.payloadStart] at hread
      exact hread)
  refine .slice (Nat.le_add_right _ _) htrailer (.slice (Nat.zero_le _)
    (by rw [hlength, length_trailerMagic]; decide) (.require (by simp)
      (fun frame h => (hfields frame h).1) fun hmagic => ?_))
  refine .slice (by rw [hlength, length_trailerMagic]; decide) le_rfl (decides_orStop (by simp)
    (fun hnone frame h => ?_) fun recorded hrecorded => ?_)
  · rw [readDigest_eq_some.mpr ⟨(hfields frame h).2, h.valid⟩] at hnone
    cases hnone
  obtain ⟨hrecordedBytes, hvalid⟩ := readDigest_eq_some.mp hrecorded
  refine .slice (Nat.le_add_right _ _) hpayload (.require (by simp) (fun frame h => ?_)
    fun hmatches => ?_)
  · have hpayload := h.payload
    rw [h.payloadStart] at hpayload
    rw [hpayload, ← h.digest]
    exact digest_eq_of_bytes (hrecordedBytes.symm.trans (hfields frame h).2)
  refine .refuseIf (by simp) (fun hlast frame h => ?_) fun hfollowed => ?_
  · have hinside := hextent frame h
    rw [decide_eq_true_eq] at hlast
    omega
  rw [decide_eq_false_iff_not] at hfollowed
  refine ⟨rfl, (length_part hpayload).trans (Nat.add_sub_cancel_left _ _), rfl, rfl,
    hmatches ▸ hvalid, rfl, ?_, Nat.lt_of_le_of_ne htrailer hfollowed⟩
  rw [← hmatches]
  exact (eq_encodeTrailer_iff hlength hvalid).mpr ⟨hmagic, hrecordedBytes⟩

/-! ## The commit marker -/

/-- The commit marker of a data frame, up to its end. -/
structure CommitAt (sha256 : Sha256) (bytes : List UInt8) (sequence : Nat) (frame : DataFrame)
    (commitEnd : Nat) : Prop where
  extent : commitEnd = frame.trailerEnd + commitBytes
  within : commitEnd ≤ bytes.length
  valid : (commitChecksum sha256 sequence frame.computedDigest).validate = .ok ()
  read : part bytes frame.trailerEnd commitEnd =
    encodeCommit sha256 sequence frame.computedDigest

theorem length_commitMagic : commitMagic.length = 8 := by decide +kernel

theorem length_encodeCommit (h : digest.validate = .ok ())
    (hchecksum : (commitChecksum sha256 sequence digest).validate = .ok ()) :
    (encodeCommit sha256 sequence digest).length = commitBytes := by
  simp only [encodeCommit, List.length_append, length_commitMagic, length_beBytes,
    length_digest h, length_digest hchecksum]
  rfl

/-- A commit marker is the encoding of its fields. -/
theorem eq_encodeCommit_iff {commit : List UInt8} (hlength : commit.length = commitBytes)
    (hdigest : digest.validate = .ok ())
    (hchecksum : (commitChecksum sha256 sequence digest).validate = .ok ()) :
    commit = encodeCommit sha256 sequence digest ↔
      part commit 0 commitMagic.length = commitMagic ∧ part commit 8 16 = beBytes 8 sequence ∧
        part commit 16 (16 + digestBytes) = digest.text.bytes ∧
        part commit (16 + digestBytes) commit.length =
          (commitChecksum sha256 sequence digest).text.bytes := by
  have hcut : cut [8, 8, digestBytes, digestBytes] commit =
      [part commit 0 8, part commit 8 16, part commit 16 (16 + digestBytes),
        part commit (16 + digestBytes) commit.length] := by
    rw [hlength]
    simp [cut, part, commitBytes, List.drop_drop]
  have hparts : encodeCommit sha256 sequence digest =
      [commitMagic, beBytes 8 sequence, digest.text.bytes,
        (commitChecksum sha256 sequence digest).text.bytes].flatten := by
    simp [encodeCommit]
  rw [hparts, @eq_flatten_iff [8, 8, digestBytes, digestBytes] _ _ hlength
    (by simp [length_commitMagic, length_digest hdigest, length_digest hchecksum]), hcut,
    length_commitMagic]
  simp

theorem decides_scanCommit {frame : DataFrame} (hsize : bytes.length < u64Max)
    (hsequence : sequence < 256 ^ 8) (hdigest : frame.computedDigest.validate = .ok ()) :
    Decides .outOfRange (CommitAt sha256 bytes sequence frame)
      (scanCommit sha256 bytes sequence frame) := by
  unfold scanCommit
  refine .atMost (by simp) (fun commitEnd h => ?_) fun hwithin => ?_
  · exact (getD_checkedAdd_le hsize).mpr (h.extent ▸ h.within)
  rw [getD_checkedAdd_le hsize] at hwithin
  rw [getD_checkedAdd_eq hsize hwithin]
  have hlength : (part bytes frame.trailerEnd (frame.trailerEnd + commitBytes)).length =
      commitBytes := (length_part hwithin).trans (Nat.add_sub_cancel_left _ _)
  -- what a commit marker says about the bytes
  have hfields := fun commitEnd (h : CommitAt sha256 bytes sequence frame commitEnd) =>
    (eq_encodeCommit_iff hlength hdigest h.valid).mp (h.extent ▸ h.read)
  refine .slice (Nat.le_add_right _ _) hwithin (.slice (Nat.zero_le _)
    (by rw [hlength, length_commitMagic]; decide) (.require (by simp)
      (fun commitEnd h => (hfields commitEnd h).1) fun hmagic => ?_))
  refine .slice (by decide) (by rw [hlength]; decide) (.wordOf
    (length_part (by rw [hlength]; decide)) (.slice (by decide) (by rw [hlength]; decide)
      (decides_orStop (by simp) (fun hnone commitEnd h => ?_) fun recorded hrecorded => ?_)))
  · rw [readDigest_eq_some.mpr ⟨(hfields commitEnd h).2.2.1, hdigest⟩] at hnone
    cases hnone
  obtain ⟨hrecordedBytes, -⟩ := readDigest_eq_some.mp hrecorded
  refine .slice (by rw [hlength]; decide) le_rfl (decides_orStop (by simp)
    (fun hnone commitEnd h => ?_) fun checksum hchecksum => ?_)
  · rw [readDigest_eq_some.mpr ⟨(hfields commitEnd h).2.2.2, h.valid⟩] at hnone
    cases hnone
  obtain ⟨hchecksumBytes, hvalid⟩ := readDigest_eq_some.mp hchecksum
  refine .refuseIf (by simp) (fun hother commitEnd h => ?_) fun hbinds => ?_
  · obtain ⟨-, hsame, hdigestBytes, hsum⟩ := hfields commitEnd h
    have hrecordedEq : recorded = frame.computedDigest :=
      digest_eq_of_bytes (hrecordedBytes.symm.trans hdigestBytes)
    have hsequenceEq : ofBe (part (part bytes frame.trailerEnd (frame.trailerEnd + commitBytes))
        8 16) = sequence := by rw [hsame, ofBe_beBytes hsequence]
    have hchecksumEq : checksum = commitChecksum sha256 sequence frame.computedDigest :=
      digest_eq_of_bytes (hchecksumBytes.symm.trans hsum)
    simp [hrecordedEq, hsequenceEq, hchecksumEq] at hother
  simp only [Bool.or_eq_false_iff, decide_eq_false_iff_not, not_not] at hbinds
  obtain ⟨⟨hsame, rfl⟩, rfl⟩ := hbinds
  rw [hsame] at hvalid hchecksumBytes
  refine ⟨rfl, hwithin, hvalid, (eq_encodeCommit_iff hlength hdigest hvalid).mpr
    ⟨hmagic, ?_, hrecordedBytes, hchecksumBytes⟩⟩
  rw [← hsame]
  exact part_eq_beBytes (by rw [hlength]; decide)

/-! ## The record -/

/-- The payload of a frame holds a record that may follow. -/
structure RecordIn (json : JournalJson) (config : JournalConfigV1) (state : ScanState)
    (front : FrameHeader) (frame : DataFrame) (record : HistoricalJournalRecordV1) : Prop where
  decoded : json.fromSlice frame.payload = .ok record
  sequence : record.recordSequence = front.sequence
  kind : record.recordKind = front.kind
  valid : record.validate config = .ok ()
  distinct : record.body.immutableIdentity.any state.immutableIdentities.contains = false

theorem decides_scanPayload {json : JournalJson} {front : FrameHeader} {frame : DataFrame} :
    Decides .outOfRange (RecordIn json config state front frame)
      (scanPayload json config state front frame) := by
  unfold scanPayload
  refine .mapError (by simp) (fun error herror record h => ?_) fun record hrecord => ?_
  · rw [h.decoded] at herror
    cases herror
  -- any record in the payload is this one
  have hsame := fun other (h : RecordIn json config state front frame other) =>
    Except.ok.inj (hrecord.symm.trans h.decoded)
  refine .require (by simp) (fun record' h => ?_) fun hschema => ?_
  · obtain rfl := hsame record' h
    exact HistoricalJournalRecordV1.schema_of_validate h.valid
  refine .refuseIf (by simp) (fun hother record' h => ?_) fun hbound => ?_
  · obtain rfl := hsame record' h
    simp [h.sequence, h.kind] at hother
  simp only [Bool.or_eq_false_iff, decide_eq_false_iff_not, not_not] at hbound
  refine .mapError (by simp) (fun error herror record' h => ?_) fun _ hvalid => ?_
  · obtain rfl := hsame record' h
    rw [h.valid] at herror
    cases herror
  refine .refuseIf (by simp) (fun htaken record' h => ?_) fun hdistinct => ?_
  · obtain rfl := hsame record' h
    rw [h.distinct] at htaken
    cases htaken
  exact ⟨hrecord, hbound.1, hbound.2, hvalid, hdistinct⟩

/-! ## A whole round -/

/-- The header of a record's frame. -/
def headerOf (prior : DigestV1) (payload : List UInt8) (record : HistoricalJournalRecordV1) :
    List UInt8 :=
  encodeHeader record.recordKind record.recordSequence payload.length prior

/-- The digest of a record's frame. -/
def digestOf (sha256 : Sha256) (prior : DigestV1) (payload : List UInt8)
    (record : HistoricalJournalRecordV1) : DigestV1 :=
  frameDigest sha256 (headerOf prior payload record) payload

/-- The frame of a record, as `append` writes it. -/
def frameOf (sha256 : Sha256) (prior : DigestV1) (payload : List UInt8)
    (record : HistoricalJournalRecordV1) : List UInt8 :=
  headerOf prior payload record ++ (payload ++ (encodeTrailer (digestOf sha256 prior payload record)
    ++ encodeCommit sha256 record.recordSequence (digestOf sha256 prior payload record)))

/-- A record in a frame that may stand after some records: the payload decodes to a valid record
of this journal with the next sequence number and a new identity, and the digests of the frame
are content identities. -/
structure NextFrame (sha256 : Sha256) (json : JournalJson) (config : JournalConfigV1)
    (records : List HistoricalJournalRecordV1) (prior : DigestV1) (payload : List UInt8)
    (record : HistoricalJournalRecordV1) : Prop where
  fits : payload.length ≤ config.bounds.maximumRecordPayloadBytes
  decoded : json.fromSlice payload = .ok record
  sequence : record.recordSequence = records.length + 1
  valid : record.validate config = .ok ()
  distinct : ∀ earlier ∈ records, ∀ identity, earlier.body.immutableIdentity = some identity →
    record.body.immutableIdentity ≠ some identity
  linked : prior.validate = .ok ()
  digest : (digestOf sha256 prior payload record).validate = .ok ()
  checksum : (commitChecksum sha256 record.recordSequence
    (digestOf sha256 prior payload record)).validate = .ok ()

section Round

variable {sha256 : Sha256} {json : JournalJson} {config : JournalConfigV1} {bytes : List UInt8}
  {state : ScanState} {records : List HistoricalJournalRecordV1} {prior : DigestV1}
  {payload : List UInt8} {record : HistoricalJournalRecordV1}

theorem NextFrame.length_frame (h : NextFrame sha256 json config records prior payload record) :
    (frameOf sha256 prior payload record).length =
      headerBytes + payload.length + trailerBytes + commitBytes := by
  rw [frameOf, List.length_append, List.length_append, List.length_append, headerOf,
    length_encodeHeader _ _ _ h.linked, length_encodeTrailer h.digest,
    length_encodeCommit h.digest h.checksum]
  omega

/-- Where the parts of a frame lie. -/
theorem NextFrame.prefix_iff (h : NextFrame sha256 json config records prior payload record)
    {offset : Nat} (hoffset : offset ≤ bytes.length) :
    frameOf sha256 prior payload record <+: bytes.drop offset ↔
      offset + headerBytes + payload.length + trailerBytes + commitBytes ≤ bytes.length ∧
      part bytes offset (offset + headerBytes) = headerOf prior payload record ∧
      part bytes (offset + headerBytes) (offset + headerBytes + payload.length) = payload ∧
      part bytes (offset + headerBytes + payload.length)
          (offset + headerBytes + payload.length + trailerBytes) =
        encodeTrailer (digestOf sha256 prior payload record) ∧
      part bytes (offset + headerBytes + payload.length + trailerBytes)
          (offset + headerBytes + payload.length + trailerBytes + commitBytes) =
        encodeCommit sha256 record.recordSequence (digestOf sha256 prior payload record) := by
  have hheader : (headerOf prior payload record).length = headerBytes :=
    length_encodeHeader _ _ _ h.linked
  have htrailer := length_encodeTrailer h.digest
  have hcommit := length_encodeCommit h.digest h.checksum
  have hlength := h.length_frame
  have hsplit (hwithin : offset + headerBytes + payload.length + trailerBytes + commitBytes ≤
      bytes.length) := @part_eq_append_four_iff bytes offset (headerOf prior payload record) payload
        (encodeTrailer (digestOf sha256 prior payload record))
        (encodeCommit sha256 record.recordSequence (digestOf sha256 prior payload record))
        (by rw [hheader, htrailer, hcommit]; exact hwithin)
  rw [hheader, htrailer, hcommit] at hsplit
  rw [prefix_drop_iff hoffset]
  constructor
  · rintro ⟨hwithin, hread⟩
    have hwithin : offset + headerBytes + payload.length + trailerBytes + commitBytes ≤
        bytes.length := by omega
    exact ⟨hwithin, (hsplit hwithin).mp hread⟩
  · rintro ⟨hwithin, hparts⟩
    exact ⟨by omega, (hsplit hwithin).mpr hparts⟩

/-- The variables after a frame. -/
def ScanState.after (sha256 : Sha256) (payload : List UInt8) (record : HistoricalJournalRecordV1)
    (state : ScanState) : ScanState where
  offset := state.offset + (frameOf sha256 state.expectedPrior payload record).length
  records := state.records ++ [record]
  expectedSequence := state.expectedSequence + 1
  expectedPrior := digestOf sha256 state.expectedPrior payload record
  lastDigest := some (digestOf sha256 state.expectedPrior payload record)
  immutableIdentities := noteIdentity record state.immutableIdentities

/-- What the loop keeps: the next sequence number and the known identities are those of the
records, and every record took up bytes. -/
structure ScanState.Sound (state : ScanState) : Prop where
  sequence : state.expectedSequence = state.records.length + 1
  identities : ∀ identity, state.immutableIdentities.contains identity = true ↔
    ∃ record ∈ state.records, record.body.immutableIdentity = some identity
  advanced : state.records.length ≤ state.offset

/-- There is room for one more record, and its frame stands at the offset. -/
structure FrameAt (sha256 : Sha256) (json : JournalJson) (config : JournalConfigV1)
    (bytes : List UInt8) (state : ScanState) (payload : List UInt8)
    (record : HistoricalJournalRecordV1) : Prop where
  room : state.records.length < config.bounds.maximumRecords
  frame : NextFrame sha256 json config state.records state.expectedPrior payload record
  read : frameOf sha256 state.expectedPrior payload record <+: bytes.drop state.offset

/-- A new identity is one that no record has. -/
theorem ScanState.Sound.distinct_iff (sound : state.Sound) :
    record.body.immutableIdentity.any state.immutableIdentities.contains = false ↔
      ∀ earlier ∈ state.records, ∀ identity, earlier.body.immutableIdentity = some identity →
        record.body.immutableIdentity ≠ some identity := by
  constructor
  · intro hnew earlier hmem identity hidentity hsame
    rw [hsame, Option.any_some, (sound.identities identity).mpr ⟨earlier, hmem, hidentity⟩] at hnew
    cases hnew
  · intro hnew
    cases hidentity : record.body.immutableIdentity with
    | none => rfl
    | some identity =>
      rw [Option.any_some, Bool.eq_false_iff]
      intro hknown
      obtain ⟨earlier, hmem, hsame⟩ := (sound.identities identity).mp hknown
      exact hnew earlier hmem identity hsame hidentity

/-- The fields of a header determine each other. -/
theorem encodeHeader_fields {kind kind' : JournalRecordKindV1}
    {sequence sequence' length length' : Nat} (hprior : prior.validate = .ok ())
    (hsequence : sequence < 256 ^ 8) (hsequence' : sequence' < 256 ^ 8)
    (hlength : length < 256 ^ 4) (hlength' : length' < 256 ^ 4)
    (h : encodeHeader kind sequence length prior = encodeHeader kind' sequence' length' prior) :
    kind = kind' ∧ sequence = sequence' ∧ length = length' := by
  have hsize := length_encodeHeader kind sequence length hprior
  obtain ⟨-, -, htag, -, hseq, hlen, -⟩ := (eq_encodeHeader_iff hsize hprior).mp rfl
  obtain ⟨-, -, htag', -, hseq', hlen', -⟩ := (eq_encodeHeader_iff hsize hprior).mp h
  refine ⟨?_, ?_, ?_⟩
  · have hsame := JournalRecordKindV1.fromTag_eq_some.mpr (List.cons.inj (htag.symm.trans htag')).1
    rw [JournalRecordKindV1.fromTag_eq_some.mpr rfl] at hsame
    exact Option.some.inj hsame
  · rw [← ofBe_beBytes hsequence, ← hseq, hseq', ofBe_beBytes hsequence']
  · rw [← ofBe_beBytes hlength, ← hlen, hlen', ofBe_beBytes hlength']

/-! What stands at the offset is read in one way only. -/

section Unique

variable {front front' : FrameHeader} {header : List UInt8}

theorem IsHeader.unique (hsequence : state.expectedSequence < 256 ^ 8)
    (hbound : config.bounds.maximumRecordPayloadBytes ≤ u32Max)
    (h : IsHeader config state header front) (h' : IsHeader config state header front') :
    front = front' := by
  have hfits := h.fits
  have hfits' := h'.fits
  rw [u32Max] at hbound
  obtain ⟨hkind, hseq, hlength⟩ := encodeHeader_fields h.prior (h.sequence ▸ hsequence)
    (h'.sequence ▸ hsequence) (by omega) (by omega) (h.encoded.symm.trans h'.encoded)
  have hsame := h.same.trans h'.same.symm
  cases front
  cases front'
  simp_all

theorem DataFrameAt.unique {recordStart : Nat} {frame frame' : DataFrame}
    (h : DataFrameAt sha256 bytes recordStart front frame)
    (h' : DataFrameAt sha256 bytes recordStart front frame') : frame = frame' := by
  have hstart := h.payloadStart.trans h'.payloadStart.symm
  have hpayload : frame.payload = frame'.payload := by rw [← h.payload, ← h'.payload, hstart]
  have hdigest := h.digest
  rw [hpayload, ← h'.digest] at hdigest
  have hend := h.trailerEnd
  rw [hstart, ← h'.trailerEnd] at hend
  cases frame
  cases frame'
  simp_all

end Unique

/-! The parts of a frame that stands at the offset. -/

/-- What the header of a record's frame says. -/
def frontOf (prior : DigestV1) (payload : List UInt8) (record : HistoricalJournalRecordV1) :
    FrameHeader :=
  ⟨headerOf prior payload record, record.recordKind, record.recordSequence, payload.length⟩

/-- The data frame of a record at an offset. -/
def dataFrameOf (sha256 : Sha256) (offset : Nat) (prior : DigestV1) (payload : List UInt8)
    (record : HistoricalJournalRecordV1) : DataFrame :=
  ⟨offset + headerBytes, payload, digestOf sha256 prior payload record,
    offset + headerBytes + payload.length + trailerBytes⟩

namespace FrameAt

variable (h : FrameAt sha256 json config bytes state payload record)
include h

theorem magicAt (hoffset : state.offset ≤ bytes.length) :
    MagicAt config bytes state (headerOf state.expectedPrior payload record) := by
  obtain ⟨hwithin, hheader, -⟩ := (h.frame.prefix_iff hoffset).mp h.read
  exact ⟨h.room, by omega, hheader, ((eq_encodeHeader_iff
    (length_encodeHeader _ _ _ h.frame.linked) h.frame.linked).mp rfl).1⟩

theorem isHeader (sound : state.Sound) : IsHeader config state
    (headerOf state.expectedPrior payload record) (frontOf state.expectedPrior payload record) :=
  ⟨rfl, h.frame.sequence.trans sound.sequence.symm, h.frame.fits, h.frame.linked, rfl⟩

theorem dataFrameAt (hoffset : state.offset ≤ bytes.length) :
    DataFrameAt sha256 bytes state.offset (frontOf state.expectedPrior payload record)
      (dataFrameOf sha256 state.offset state.expectedPrior payload record) := by
  obtain ⟨hwithin, -, hpayload, htrailer, -⟩ := (h.frame.prefix_iff hoffset).mp h.read
  refine ⟨rfl, rfl, hpayload, rfl, h.frame.digest, rfl, htrailer, ?_⟩
  have hcommit : 0 < commitBytes := by decide
  show state.offset + headerBytes + payload.length + trailerBytes < bytes.length
  omega

theorem commitAt (hoffset : state.offset ≤ bytes.length) :
    CommitAt sha256 bytes (frontOf state.expectedPrior payload record).sequence
      (dataFrameOf sha256 state.offset state.expectedPrior payload record)
      (state.offset + headerBytes + payload.length + trailerBytes + commitBytes) := by
  obtain ⟨hwithin, -, -, -, hread⟩ := (h.frame.prefix_iff hoffset).mp h.read
  exact ⟨rfl, hwithin, h.frame.checksum, hread⟩

theorem recordIn (sound : state.Sound) :
    RecordIn json config state (frontOf state.expectedPrior payload record)
      (dataFrameOf sha256 state.offset state.expectedPrior payload record) record :=
  ⟨h.frame.decoded, rfl, rfl, h.frame.valid, sound.distinct_iff.mpr h.frame.distinct⟩

end FrameAt

/-- Parts that fit each other make a frame. -/
theorem frameAt_of_parts {header : List UInt8} {front : FrameHeader} {frame : DataFrame}
    {commitEnd : Nat} (sound : state.Sound) (hoffset : state.offset ≤ bytes.length)
    (hmagic : MagicAt config bytes state header) (hfront : IsHeader config state header front)
    (hframe : DataFrameAt sha256 bytes state.offset front frame)
    (hcommit : CommitAt sha256 bytes front.sequence frame commitEnd)
    (hrecord : RecordIn json config state front frame record) :
    FrameAt sha256 json config bytes state frame.payload record ∧
      digestOf sha256 state.expectedPrior frame.payload record = frame.computedDigest ∧
      state.offset + (frameOf sha256 state.expectedPrior frame.payload record).length =
        commitEnd := by
  have hheader : headerOf state.expectedPrior frame.payload record = header := by
    rw [headerOf, hrecord.kind, hrecord.sequence, hframe.length, ← hfront.encoded]
  have hdigest : digestOf sha256 state.expectedPrior frame.payload record =
      frame.computedDigest := by
    rw [digestOf, hheader, hframe.digest, hfront.same]
  have hnext : NextFrame sha256 json config state.records state.expectedPrior frame.payload
      record :=
    { fits := hframe.length ▸ hfront.fits
      decoded := hrecord.decoded
      sequence := (hrecord.sequence.trans hfront.sequence).trans sound.sequence
      valid := hrecord.valid
      distinct := sound.distinct_iff.mp hrecord.distinct
      linked := hfront.prior
      digest := hdigest ▸ hframe.valid
      checksum := by
        rw [hdigest, hrecord.sequence]
        exact hcommit.valid }
  have hend : commitEnd =
      state.offset + headerBytes + frame.payload.length + trailerBytes + commitBytes := by
    rw [hcommit.extent, hframe.trailerEnd, hframe.payloadStart, hframe.length]
  refine ⟨⟨hmagic.room, hnext, (hnext.prefix_iff hoffset).mpr
    ⟨hend ▸ hcommit.within, hmagic.read.trans hheader.symm, ?_, ?_, ?_⟩⟩, hdigest, ?_⟩
  · rw [hframe.length, ← hframe.payloadStart]
    exact hframe.payload
  · rw [hdigest, hframe.length, ← hframe.payloadStart, ← hframe.trailerEnd]
    exact hframe.trailer
  · rw [← hend, hdigest, hrecord.sequence, hframe.length, ← hframe.payloadStart,
      ← hframe.trailerEnd]
    exact hcommit.read
  · rw [hnext.length_frame, hend]
    omega

/-- A round succeeds exactly if the next frame stands at the offset, and it leaves the bytes
under no circumstances. -/
theorem decides_scanFrame (hsize : bytes.length < u64Max)
    (hbound : config.bounds.maximumRecordPayloadBytes ≤ u32Max) (sound : state.Sound)
    (hoffset : state.offset ≤ bytes.length) : Decides .outOfRange
      (fun next => ∃ payload record, FrameAt sha256 json config bytes state payload record ∧
        next = state.after sha256 payload record) (scanFrame sha256 json config bytes state) := by
  have hcount := sound.sequence
  have hadvanced := sound.advanced
  have hsequence : state.expectedSequence < 256 ^ 8 := by
    rw [u64Max] at hsize
    omega
  -- Each part is there if a frame is, and what was read so far is that frame's.
  unfold scanFrame
  refine .bind (decides_scanMagic hoffset) ?_ fun header hmagic => ?_
  · rintro hnone next ⟨payload, record, h, -⟩
    exact hnone _ (h.magicAt hoffset)
  have hheader : ∀ {payload record}, FrameAt sha256 json config bytes state payload record →
      headerOf state.expectedPrior payload record = header :=
    fun h => (h.magicAt hoffset).read.symm.trans hmagic.read
  have hlength : header.length = headerBytes := by
    rw [← hmagic.read, length_part hmagic.within, Nat.add_sub_cancel_left]
  refine .bind (decides_scanHeader hlength hmagic.magic hsequence hbound) ?_ fun front hfront => ?_
  · rintro hnone next ⟨payload, record, h, -⟩
    exact hnone _ (hheader h ▸ h.isHeader sound)
  have hfrontOf : ∀ {payload record}, FrameAt sha256 json config bytes state payload record →
      frontOf state.expectedPrior payload record = front :=
    fun h => (hheader h ▸ h.isHeader sound).unique hsequence hbound hfront
  refine .bind (decides_scanTrailer hsize) ?_ fun frame hframe => ?_
  · rintro hnone next ⟨payload, record, h, -⟩
    exact hnone _ (hfrontOf h ▸ h.dataFrameAt hoffset)
  have hframeOf : ∀ {payload record}, FrameAt sha256 json config bytes state payload record →
      dataFrameOf sha256 state.offset state.expectedPrior payload record = frame :=
    fun h => (hfrontOf h ▸ h.dataFrameAt hoffset).unique hframe
  refine .bind (decides_scanCommit hsize (hfront.sequence ▸ hsequence) hframe.valid) ?_
    fun commitEnd hcommit => ?_
  · rintro hnone next ⟨payload, record, h, -⟩
    exact hnone _ (hframeOf h ▸ hfrontOf h ▸ h.commitAt hoffset)
  refine .bind decides_scanPayload ?_ fun record hrecord => ?_
  · rintro hnone next ⟨payload, record, h, -⟩
    exact hnone record (hframeOf h ▸ hfrontOf h ▸ h.recordIn sound)
  obtain ⟨hat, hdigest, hend⟩ := frameAt_of_parts sound hoffset hmagic hfront hframe hcommit hrecord
  have hinside := hcommit.within
  have hlonger := hat.frame.length_frame
  have hpositive : 0 < commitBytes := by decide
  refine decides_orStop (by simp) (fun hnone => ?_) fun expected hexpected => ?_
  · rw [checkedAdd, if_pos (by omega)] at hnone
    cases hnone
  obtain ⟨-, rfl⟩ := checkedAdd_eq_some.mp hexpected
  refine ⟨frame.payload, record, hat, ?_⟩
  rw [ScanState.after, hdigest, hend]

end Round

end ConstellationMonitor.Journal

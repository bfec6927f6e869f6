/-
  The transcript that seals a pulse (`recompute_observation_digest`): a frame that passes its
  other checks is determined by the bytes that are hashed, up to the digest and the
  authentication field, which are not part of them.

  Coverage tags stand behind a literal and signals behind nothing, and no list has a count.
  A signal named `expected` or `observed` could pass for a tag, but then its assessment, a
  single control byte, would have to pass for a tag or for a value, and it is neither.
-/
import ConstellationMonitor.Foundation.Transcript
import ConstellationMonitor.Pulse.Codec

namespace ConstellationMonitor.Types

open Foundation

/-- A transcript determines its parts. -/
theorem digestTranscript_injective {domain : Text} {left right : List (List UInt8)}
    (hleft : ∀ part ∈ left, part.length < 256 ^ 8)
    (hright : ∀ part ∈ right, part.length < 256 ^ 8)
    (h : digestTranscript domain left = digestTranscript domain right) : left = right := by
  have hparts := List.append_cancel_left (List.append_cancel_left (List.cons.inj
    (List.append_cancel_left h)).2)
  exact delimited_injective hleft hright hparts

end ConstellationMonitor.Types

namespace ConstellationMonitor.Pulse

open Foundation ConstellationMonitor.Types ConstellationMonitor.Types.PulseFrameV1

/-! ## The transcript -/

/-- The bytes `recompute_observation_digest` hashes. -/
def observationTranscript (frame : PulseFrameV1) : List UInt8 :=
  digestTranscript "pulse.observation.v1" (observationParts frame)

/-- `recompute_observation_digest` prints the hash of the transcript. -/
theorem recomputeObservationDigest_eq (sha256 : Sha256) (frame : PulseFrameV1) :
    frame.recomputeObservationDigest sha256 =
      ⟨"sha256:" ++ ⟨Text.hexBytes (sha256.hash (observationTranscript frame))⟩⟩ := rfl

/-- The byte string `recompute_observation_digest` hashes, whatever the hash function. -/
def Hashes (frame : PulseFrameV1) (transcript : List UInt8) : Prop :=
  ∀ sha256 : Sha256, frame.recomputeObservationDigest sha256 =
    ⟨"sha256:" ++ ⟨Text.hexBytes (sha256.hash transcript)⟩⟩

/-- A hash function that tells one byte string from all others. -/
def telling (bytes : List UInt8) : Sha256 where
  hash other := List.replicate 32 (if other = bytes then 1 else 0)
  length_hash _ := List.length_replicate

theorem hashes_iff {frame : PulseFrameV1} {transcript : List UInt8} :
    Hashes frame transcript ↔ observationTranscript frame = transcript := by
  refine ⟨fun h => ?_, fun h sha256 => by rw [recomputeObservationDigest_eq, h]⟩
  have htold := h (telling transcript)
  rw [recomputeObservationDigest_eq] at htold
  by_contra hother
  simp only [telling, if_neg hother] at htold
  exact absurd htold (by decide)

/-! ## Telling the parts apart -/

/-- The second part is not a single control byte, as the assessment of a signal is. -/
def Unmarked : List (List UInt8) → Prop
  | _ :: [byte] :: _ => 0x20 ≤ byte
  | _ => True

/-- A tag that passes the field rules. -/
def ValidTag (tag : Text) : Prop := tag.hasControl = false

theorem unmarked_of_validTag {tag : Text} (h : ValidTag tag) (first : List UInt8)
    (more : List (List UInt8)) : Unmarked (first :: tag.bytes :: more) := by
  unfold ValidTag Text.hasControl at h
  cases hbytes : tag.bytes with
  | nil => exact trivial
  | cons byte rest =>
    cases rest with
    | nil =>
      simp only [hbytes, Text.bytesHaveControl, Bool.or_eq_false_iff,
        decide_eq_false_iff_not] at h
      exact UInt8.not_lt.mp h.1.1.1
    | cons => exact trivial

theorem not_unmarked_signal (signal : BoundedSignalValueV1) (first : List UInt8)
    (more : List (List UInt8)) :
    ¬Unmarked (first :: [assessmentTag signal.assessment] :: more) := by
  cases signal.assessment <;> simp [Unmarked, assessmentTag]

theorem text_eq_of_bytes {left right : Text} (h : left.bytes = right.bytes) : left = right := by
  cases left
  cases right
  exact congrArg Text.mk h

theorem splits_signalParts :
    Splits signalParts (fun _ => True) (fun _ => True) (· = []) where
  rest_of_follow _ := trivial
  rest_encode _ _ := trivial
  distinct := by
    rintro ⟨name, value, unit, assessment⟩ ⟨name', value', unit', assessment'⟩ rest more - - - - heq
    simp only [signalParts, List.cons_append, List.nil_append, List.cons.injEq, and_true] at heq
    obtain ⟨hname, hvalue, hunit, hassessment, hrest⟩ := heq
    have hbits := beBytes_injective value.bits.toNat_lt value'.bits.toNat_lt hvalue
    obtain ⟨bits⟩ := value
    obtain ⟨bits'⟩ := value'
    obtain rfl : bits = bits' := UInt64.toNat_inj.mp hbits
    obtain rfl := text_eq_of_bytes hname
    obtain rfl := text_eq_of_bytes hunit
    have htag : assessment = assessment' := by
      revert hassessment
      cases assessment <;> cases assessment' <;> simp [assessmentTag]
    exact ⟨by rw [htag], hrest⟩
  separated := by
    rintro signal rest _ - - rfl heq
    simp [signalParts] at heq

/-- What may come after the tags of one kind: something a tag of that kind, followed by more of
the transcript, is not. -/
def FollowsTags (kind : Text) (follow : List (List UInt8)) : Prop :=
  Unmarked follow ∧ ∀ tag rest, Unmarked rest → coverageParts kind tag ++ rest ≠ follow

theorem splits_coverageParts (kind : Text) :
    Splits (coverageParts kind) ValidTag Unmarked (FollowsTags kind) where
  rest_of_follow h := h.1
  rest_encode htag _ := unmarked_of_validTag htag _ _
  distinct := by
    intro left right rest more _ _ _ _ heq
    simp only [coverageParts, List.cons_append, List.nil_append, List.cons.injEq, true_and] at heq
    exact ⟨text_eq_of_bytes heq.1, heq.2⟩
  separated _ hrest hfollow := hfollow.2 _ _ hrest

theorem unmarked_signals (signals : List BoundedSignalValueV1) :
    Unmarked (signals.flatMap signalParts) := by
  cases signals with
  | nil => exact trivial
  | cons signal rest =>
    simp only [List.flatMap_cons, signalParts, List.cons_append]
    simp only [Unmarked, beBytes]

theorem followsTags_signals (kind : Text) (signals : List BoundedSignalValueV1) :
    FollowsTags kind (signals.flatMap signalParts) := by
  refine ⟨unmarked_signals signals, fun tag rest hrest heq => ?_⟩
  cases signals with
  | nil => simp [coverageParts] at heq
  | cons signal others =>
    simp only [coverageParts, signalParts, List.flatMap_cons, List.cons_append,
      List.nil_append, List.cons.injEq] at heq
    rw [heq.2.2] at hrest
    exact not_unmarked_signal signal _ _ hrest

theorem followsTags_observed {observed : List Text} {follow : List (List UInt8)}
    (htags : ∀ tag ∈ observed, ValidTag tag) (hfollow : FollowsTags "expected" follow) :
    FollowsTags "expected" (observed.flatMap (coverageParts "observed") ++ follow) := by
  cases observed with
  | nil => exact hfollow
  | cons tag rest =>
    refine ⟨unmarked_of_validTag (htags tag (by simp)) _ _, fun other more _ heq => ?_⟩
    have hkind : (Text.ofString "expected").bytes = (Text.ofString "observed").bytes :=
      (List.cons.inj heq).1
    exact absurd hkind (by decide)

/-! ## What the checks say about the parts -/

theorem validTag_of_validateField {field tag : Text} (h : validateField field tag = .ok ()) :
    ValidTag tag := by
  simp only [validateField, check_bind_eq_ok, refuseIf_eq_ok] at h
  exact h.2.2

/-- A text within the bound on fields has a length that fits its eight bytes. -/
theorem length_lt_of_le {text : Text} (h : text.length ≤ maxFieldBytes) :
    text.bytes.length < 256 ^ 8 :=
  Nat.lt_of_le_of_lt h (by decide)

theorem length_lt_of_identity {kind : IdentityKind} {identity : Identity kind}
    (h : identity.validate = .ok ()) : identity.text.bytes.length < 256 ^ 8 :=
  length_lt_of_le (((Identity.validate_eq_ok identity).mp h).2.1.trans (by decide))

theorem length_lt_of_digest {digest : DigestV1} (h : digest.validate = .ok ()) :
    digest.text.bytes.length < 256 ^ 8 :=
  length_lt_of_le (by rw [DigestV1.length_of_validate h]; decide)

/-- What the checks before the last one say, as far as the transcript is concerned. -/
structure Checked (frame : PulseFrameV1) : Prop where
  expected : ∀ tag ∈ frame.coverage.expected, ValidTag tag
  observed : ∀ tag ∈ frame.coverage.observed, ValidTag tag
  parts : ∀ part ∈ observationParts frame, part.length < 256 ^ 8

theorem fields_of_sortedTags {field : Text} {tags : List Text}
    (h : validateSortedTags field tags = .ok ()) :
    ∀ tag ∈ tags, validateField field tag = .ok () := by
  simp only [validateSortedTags, check_bind_eq_ok] at h
  exact validateField_of_sortedTags h.2

theorem length_coverageParts {kind field : Text} (hkind : kind.bytes.length < 256 ^ 8)
    {tags : List Text} (h : ∀ tag ∈ tags, validateField field tag = .ok ()) :
    ∀ part ∈ tags.flatMap (coverageParts kind), part.length < 256 ^ 8 := by
  intro part hpart
  obtain ⟨tag, htag, hpart⟩ := List.mem_flatMap.mp hpart
  simp only [coverageParts, List.mem_cons, List.not_mem_nil, or_false] at hpart
  rcases hpart with rfl | rfl
  · exact hkind
  · exact length_lt_of_le (length_of_validateField (h tag htag))

theorem length_signalParts {signals : List BoundedSignalValueV1}
    (h : ∀ signal ∈ signals, signal.validate = .ok ()) :
    ∀ part ∈ signals.flatMap signalParts, part.length < 256 ^ 8 := by
  intro part hpart
  obtain ⟨signal, hsignal, hpart⟩ := List.mem_flatMap.mp hpart
  have hvalid := h signal hsignal
  simp only [BoundedSignalValueV1.validate, check_bind_eq_ok] at hvalid
  simp only [signalParts, List.mem_cons, List.not_mem_nil, or_false] at hpart
  rcases hpart with rfl | rfl | rfl | rfl
  · exact length_lt_of_le (length_of_validateField hvalid.1)
  · rw [length_beBytes]
    decide
  · exact length_lt_of_le (length_of_validateField hvalid.2.1)
  · rw [List.length_singleton]
    decide

theorem checked_of_validateUnsealed {frame : PulseFrameV1}
    (h : frame.validateUnsealed = .ok ()) : Checked frame := by
  simp only [PulseFrameV1.validateUnsealed, check_bind_eq_ok, mapError_eq_ok] at h
  obtain ⟨-, hsubject, hincarnation, hobserver, hboot, hgeneration, -, hprofile, hcoverage, -,
    hsignals, -, -⟩ := h
  simp only [ObservationProfileIdV1.validate, check_bind_eq_ok, mapError_eq_ok] at hprofile
  simp only [CoverageDescriptorV1.validate, check_bind_eq_ok] at hcoverage
  have hexpected := fields_of_sortedTags hcoverage.1
  have hobserved := fields_of_sortedTags hcoverage.2.1
  refine ⟨fun tag htag => validTag_of_validateField (hexpected tag htag),
    fun tag htag => validTag_of_validateField (hobserved tag htag), ?_⟩
  have hfixed : ∀ part ∈ fixedParts frame, part.length < 256 ^ 8 := by
    simp only [fixedParts, List.forall_mem_cons, length_beBytes, List.not_mem_nil,
      false_implies, implies_true, and_true]
    exact ⟨by decide, length_lt_of_identity hsubject, length_lt_of_identity hincarnation,
      length_lt_of_identity hobserver, length_lt_of_identity hboot, by decide, by decide,
      by decide, length_lt_of_le (length_of_validateField hprofile.1), by decide,
      length_lt_of_digest hprofile.2.2, length_lt_of_identity hgeneration⟩
  simp only [observationParts, List.forall_mem_append]
  exact ⟨hfixed, length_coverageParts (by decide) hexpected,
    length_coverageParts (by decide) hobserved,
    length_signalParts (validate_of_validateSignals hsignals)⟩

/-! ## The transcript determines the frame -/

theorem identity_eq_of_bytes {kind : IdentityKind} {left right : Identity kind}
    (h : left.text.bytes = right.text.bytes) : left = right :=
  Identity.text_injective kind (text_eq_of_bytes h)

theorem fixedParts_injective {left right : PulseFrameV1} (hleft : WellTyped left)
    (hright : WellTyped right) (h : fixedParts left = fixedParts right) :
    { left with
      coverage := right.coverage
      signals := right.signals
      observationDigest := right.observationDigest
      authentication := right.authentication } = right := by
  simp only [fixedParts, List.cons.injEq, and_true] at h
  obtain ⟨hschema, hsubject, hincarnation, hobserver, hboot, hsequence, hmonotonic, hvalidity,
    hname, hversion, hsemantic, hgeneration⟩ := h
  have hprofile : left.profile = right.profile :=
    ObservationProfileIdV1.fields_injective (Prod.ext (text_eq_of_bytes hname)
      (Prod.ext (beBytes_injective hleft.version hright.version hversion)
        (DigestV1.text_injective (text_eq_of_bytes hsemantic))))
  rw [beBytes_injective hleft.schemaVersion hright.schemaVersion hschema,
    identity_eq_of_bytes hsubject, identity_eq_of_bytes hincarnation,
    identity_eq_of_bytes hobserver, identity_eq_of_bytes hboot,
    beBytes_injective hleft.sequence hright.sequence hsequence,
    beBytes_injective hleft.observerMonotonicNs hright.observerMonotonicNs hmonotonic,
    beBytes_injective hleft.validityMs hright.validityMs hvalidity, hprofile,
    identity_eq_of_bytes hgeneration]

/-- Two frames that pass every check of `validate` before the equality of the digests, and for
which `recompute_observation_digest` hashes the same bytes, differ at most in the two fields
that are not hashed. -/
theorem observationTranscript_injective {left right : PulseFrameV1} (hleft : WellTyped left)
    (hright : WellTyped right) (hvalid : left.validateUnsealed = .ok ())
    (hvalid' : right.validateUnsealed = .ok ()) {transcript : List UInt8}
    (h : Hashes left transcript) (h' : Hashes right transcript) :
    { left with
      observationDigest := right.observationDigest
      authentication := right.authentication } = right := by
  have hchecked := checked_of_validateUnsealed hvalid
  have hchecked' := checked_of_validateUnsealed hvalid'
  have hparts := digestTranscript_injective hchecked.parts hchecked'.parts
    ((hashes_iff.mp h).trans (hashes_iff.mp h').symm)
  obtain ⟨hfixed, hlists⟩ := List.append_inj hparts rfl
  -- the tags first: what follows them is told from a tag by its second part
  obtain ⟨hexpected, hlists⟩ := (splits_coverageParts "expected").inj hchecked.expected
    hchecked'.expected (followsTags_observed hchecked.observed (followsTags_signals _ _))
    (followsTags_observed hchecked'.observed (followsTags_signals _ _)) hlists
  obtain ⟨hobserved, hlists⟩ := (splits_coverageParts "observed").inj hchecked.observed
    hchecked'.observed (followsTags_signals _ _) (followsTags_signals _ _) hlists
  have hsignals : left.signals = right.signals :=
    (splits_signalParts.inj (fun _ _ => trivial) (fun _ _ => trivial) rfl rfl
      (by simpa using hlists)).1
  have hcoverage : left.coverage = right.coverage := by
    cases hl : left.coverage
    cases hr : right.coverage
    simp_all
  rw [← fixedParts_injective hleft hright hfixed, ← hcoverage, ← hsignals]

section Sealed

open Evaluation.Reference

/-- A sealed frame. -/
def sealedFrame : PulseFrameV1 := (unsealed "observer" 7 ⟨0x3fd0000000000000⟩).sealed sha256

/-- The same frame with another authentication field. -/
def reauthenticated : PulseFrameV1 :=
  { sealedFrame with authentication := .mac "scheme" "key" "tag" }

/-- Two frames with one transcript differ only in what is not hashed. -/
theorem observationTranscript_injective_reauthenticated :
    sealedFrame ≠ reauthenticated ∧
      { sealedFrame with
        observationDigest := reauthenticated.observationDigest
        authentication := reauthenticated.authentication } = reauthenticated :=
  ⟨by decide +kernel, observationTranscript_injective
    ⟨by decide +kernel, by decide +kernel, by decide +kernel, by decide +kernel,
      by decide +kernel, by decide +kernel⟩
    ⟨by decide +kernel, by decide +kernel, by decide +kernel, by decide +kernel,
      by decide +kernel, by decide +kernel⟩
    (by decide +kernel) (by decide +kernel) (hashes_iff.mpr rfl) (hashes_iff.mpr rfl)⟩

end Sealed

end ConstellationMonitor.Pulse

/-
  Support/Predicate.lean --- qualifying independent support for a project predicate
  (`pulse-project-predicate-support/src/lib.rs`).

  Ages are compared as exact instants.  The skew between the two occurrences and the recorded
  deadline are first cut to whole milliseconds towards zero: a skew less than a millisecond over
  the bound passes, and a deadline before 1970 is recorded up to a millisecond late.
-/
import ConstellationMonitor.Foundation.Fallible
import ConstellationMonitor.Foundation.Json

namespace ConstellationMonitor.Support

open Foundation

/-! ## Instants -/

/-- `OffsetDateTime`: the local date and time in nanoseconds since 1970, and its offset. -/
structure OffsetDateTime where
  localNanos : Int
  offsetSeconds : Int

namespace OffsetDateTime

/-- `unix_timestamp_nanos`; instants are compared and subtracted through it. -/
def unixNanos (value : OffsetDateTime) : Int :=
  value.localNanos - value.offsetSeconds * 1000000000

/-- The last nanosecond of the year 9999. -/
def maxNanos : Int := 253402300800 * 1000000000 - 1

/-- `add_seconds`. -/
def addSeconds (value : OffsetDateTime) (seconds : UInt64) : Except Text OffsetDateTime :=
  if 2 ^ 63 ≤ seconds.toNat then .error "duration exceeds i64"
  else if maxNanos < value.localNanos + seconds.toNat * 1000000000 then
    .error "currentness deadline overflow"
  else .ok { value with localNanos := value.localNanos + seconds.toNat * 1000000000 }

/-- `Ord::min`. -/
def earlier (left right : OffsetDateTime) : OffsetDateTime :=
  if right.unixNanos < left.unixNanos then right else left

/-- `to_unix_ms`. -/
def toUnixMs (value : OffsetDateTime) : Except Text Int :=
  if -2 ^ 63 ≤ value.unixNanos.tdiv 1000000 ∧ value.unixNanos.tdiv 1000000 < 2 ^ 63 then
    .ok (value.unixNanos.tdiv 1000000)
  else .error "currentness deadline exceeds i64 Unix milliseconds"

/-- `(left - right).whole_milliseconds().unsigned_abs()` as `u64`. -/
def skewMs (left right : OffsetDateTime) : Except Text Nat :=
  if ((left.unixNanos - right.unixNanos).tdiv 1000000).natAbs < 2 ^ 64 then
    .ok ((left.unixNanos - right.unixNanos).tdiv 1000000).natAbs
  else .error "primary/support skew exceeds u64 milliseconds"

end OffsetDateTime

/-! ## Policy, evidence and receipt -/

/-- How old and how far apart observations may be. -/
structure CurrentnessPolicyV1 where
  maximumPrimaryAgeSeconds : UInt64
  maximumSupportAgeSeconds : UInt64
  maximumPrimarySupportSkewSeconds : UInt64

/-- What NQ's receipt has to be about. -/
structure TargetBindingV1 where
  project : Text
  concern : Text
  question : Text
  declarationProfile : Text
  predicateProfile : Text
  catalogDigest : Text
  profileDigest : Text
  inputSchemaDigest : Text
  primaryProducer : Text

/-- What a qualification is held to. -/
structure SupportPolicyV1 where
  target : TargetBindingV1
  currentness : CurrentnessPolicyV1
  nqVerifierExecutableDigest : Text

/-- The independent observation. -/
structure SupportEvidenceV1 where
  evidenceId : Text
  producerId : Text
  sourceId : Text
  vantageId : Text
  observedAt : Text
  validForSeconds : Option UInt64
  facts : Json

/-- The answer of NQ's verifier. -/
structure NqSupportEvaluation where
  admissionReplayMatches : Bool
  admissionReceiptDigest : Text
  catalogDigest : Text
  predicateProfile : Text
  profileDigest : Text
  inputSchemaDigest : Text
  semanticConclusion : Bool

/-- How a qualification ends. -/
inductive SupportDispositionV1 where
  | supportedCurrent
  | nqReceiptInvalid
  | missingSupport
  | supportProducerFailed
  | supportEvidenceInvalid
  | identityMismatch
  | independenceNotQualified
  | primaryStale
  | supportStale
  | skewExceeded
  | contradictory
  deriving DecidableEq

/-- `QualifiedSupportReceiptV1`, without what it copies from the policy and its fixed texts. -/
structure QualifiedSupportReceiptV1 where
  receiptDigest : Text := ""
  nqReceiptDigest : Text
  primaryObservedAt : Option Text := none
  supportEvidenceId : Option Text := none
  supportEvidenceDigest : Option Text := none
  supportObservedAt : Option Text := none
  supportProducerId : Option Text := none
  supportSourceId : Option Text := none
  supportVantageId : Option Text := none
  qualificationAt : Text
  currentUntilUnixMs : Option Int := none
  primarySupportSkewMs : Option Nat := none
  disposition : SupportDispositionV1 := .nqReceiptInvalid
  detail : Text := ""

/-- What `qualify` asks of others: the RFC 3339 parser, the NQ verifier and its files, the
digests, and the checks of policy and evidence that read no clock. -/
structure Surroundings where
  validate : SupportPolicyV1 → Except Text Unit
  verifyEvidence : SupportPolicyV1 → SupportEvidenceV1 → Except Text Unit
  parseTime : Text → Except Text OffsetDateTime
  nqReceipt : Except Text Json
  executableDigest : Except Text Text
  invokeNq : Json → Except Text NqSupportEvaluation
  evidenceDigest : SupportEvidenceV1 → Except Text Text
  receiptDigest : QualifiedSupportReceiptV1 → Except Text Text

/-! ## `qualify` -/

section Qualify

variable (host : Surroundings) (policy : SupportPolicyV1)

/-- `seal_receipt`. -/
def sealReceipt (receipt : QualifiedSupportReceiptV1) : Except Text QualifiedSupportReceiptV1 := do
  let digest ← host.receiptDigest receipt
  pure { receipt with receiptDigest := digest }

/-- A receipt that ends with a disposition and a detail. -/
def conclude (receipt : QualifiedSupportReceiptV1) (disposition : SupportDispositionV1)
    (detail : Text) : Except Text QualifiedSupportReceiptV1 :=
  sealReceipt host { receipt with disposition := disposition, detail := detail }

/-- How an error of `verify_evidence` is reported. -/
def evidenceDisposition (error : Text) : SupportDispositionV1 :=
  if error.contains "dependency" || error.contains "producer identities" then
    .independenceNotQualified
  else if error.contains "match the support policy" then .identityMismatch
  else .supportEvidenceInvalid

/-- A maximum age, or a shorter validity the producer gave. -/
def ageBound (validity : Option UInt64) (maximum : UInt64) : UInt64 :=
  match validity with
  | none => maximum
  | some value => min value maximum

/-- The witness fields the policy fixes, in the order they are checked. -/
def TargetBindingV1.expected (target : TargetBindingV1) : List (Text × Text) :=
  [("project", target.project), ("concern", target.concern), ("question", target.question),
    ("declaration_profile", target.declarationProfile),
    ("predicate_profile", target.predicateProfile), ("profile_digest", target.profileDigest),
    ("input_schema_digest", target.inputSchemaDigest), ("producer", target.primaryProducer)]

/-- The end of `qualify`: the occurrences are weighed against the policy. -/
def weigh (receipt : QualifiedSupportReceiptV1) (primaryValidity supportValidity : Option UInt64)
    (primary support qualification : OffsetDateTime) (conclusion : Bool) :
    Except Text QualifiedSupportReceiptV1 :=
  if qualification.unixNanos < primary.unixNanos ∨ qualification.unixNanos < support.unixNanos then
    conclude host receipt .identityMismatch
      "qualification occurrence precedes an observation occurrence"
  else do
    let primaryDeadline ← primary.addSeconds
      (ageBound primaryValidity policy.currentness.maximumPrimaryAgeSeconds)
    let supportDeadline ← support.addSeconds
      (ageBound supportValidity policy.currentness.maximumSupportAgeSeconds)
    let currentUntil ← (primaryDeadline.earlier supportDeadline).toUnixMs
    let skew ← primary.skewMs support
    let receipt := { receipt with
      currentUntilUnixMs := some currentUntil, primarySupportSkewMs := some skew }
    if primaryDeadline.unixNanos ≤ qualification.unixNanos then
      conclude host receipt .primaryStale
        "primary observation is outside the exclusive Pulse age bound"
    else if supportDeadline.unixNanos ≤ qualification.unixNanos then
      conclude host receipt .supportStale
        "support observation is outside the exclusive Pulse age bound"
    else if 2 ^ 64 ≤ policy.currentness.maximumPrimarySupportSkewSeconds.toNat * 1000 then
      .error "primary/support skew policy overflows milliseconds"
    else if policy.currentness.maximumPrimarySupportSkewSeconds.toNat * 1000 < skew then
      conclude host receipt .skewExceeded "primary/support occurrence skew exceeds policy"
    else if !conclusion then
      conclude host receipt .contradictory
        "independent support facts make the governed predicate false"
    else
      conclude host receipt .supportedCurrent
        "independent support facts establish the same bounded predicate at a distinct governed occurrence"

/-- The part of `qualify` about the witness of the NQ receipt. -/
def qualifyWitness (receipt : QualifiedSupportReceiptV1) (nqReceipt : Json)
    (evidence : SupportEvidenceV1) (qualification : OffsetDateTime) (conclusion : Bool) :
    Except Text QualifiedSupportReceiptV1 :=
  match (nqReceipt.get "witness").bind Json.asObject with
  | none => .error "verified NQ receipt has no witness object"
  | some witness =>
    match policy.target.expected.find? fun field =>
        (Json.member field.1 witness).bind Json.asStr ≠ some field.2 with
    | some field => conclude host receipt .identityMismatch
        ("verified NQ witness " ++ field.1 ++ " does not match support policy")
    | none =>
      match (Json.member "observed_at" witness).bind Json.asStr with
      | none => .error "verified NQ witness has no observed_at"
      | some primaryAt => do
        let primary ← host.parseTime primaryAt
        let support ← host.parseTime evidence.observedAt
        weigh host policy { receipt with primaryObservedAt := some primaryAt }
          ((Json.member "valid_for_seconds" witness).bind Json.asU64)
          evidence.validForSeconds primary support qualification conclusion

/-- The evaluation is of the admission and the profile the policy names. -/
def custodyMatches (receipt : QualifiedSupportReceiptV1) (evaluation : NqSupportEvaluation) :
    Bool :=
  evaluation.admissionReplayMatches &&
    evaluation.admissionReceiptDigest = receipt.nqReceiptDigest &&
    evaluation.catalogDigest = policy.target.catalogDigest &&
    evaluation.predicateProfile = policy.target.predicateProfile &&
    evaluation.profileDigest = policy.target.profileDigest &&
    evaluation.inputSchemaDigest = policy.target.inputSchemaDigest

/-- The part of `qualify` after support evidence was found. -/
def qualifyEvidence (receipt : QualifiedSupportReceiptV1) (nqReceipt : Json)
    (evidence : SupportEvidenceV1) (qualification : OffsetDateTime) :
    Except Text QualifiedSupportReceiptV1 := do
  let digest ← host.evidenceDigest evidence
  let receipt := { receipt with
    supportEvidenceId := some evidence.evidenceId
    supportEvidenceDigest := some digest
    supportObservedAt := some evidence.observedAt
    supportProducerId := some evidence.producerId
    supportSourceId := some evidence.sourceId
    supportVantageId := some evidence.vantageId }
  match host.verifyEvidence policy evidence with
  | .error error => conclude host receipt (evidenceDisposition error) error
  | .ok () =>
    match host.invokeNq evidence.facts with
    | .error error => conclude host receipt .nqReceiptInvalid error
    | .ok evaluation =>
      if custodyMatches policy receipt evaluation then
        qualifyWitness host policy receipt nqReceipt evidence qualification
          evaluation.semanticConclusion
      else
        conclude host receipt .nqReceiptInvalid
          "NQ replay/evaluation custody does not match support policy"

/-- `qualify`. -/
def qualify (evidence : Option SupportEvidenceV1) (qualificationAt : Text) :
    Except Text QualifiedSupportReceiptV1 := do
  host.validate policy
  let qualification ← host.parseTime qualificationAt
  let nqReceipt ← host.nqReceipt
  match (nqReceipt.get "receipt_digest").bind Json.asStr with
  | none => .error "NQ receipt has no string receipt_digest"
  | some nqReceiptDigest =>
    let receipt : QualifiedSupportReceiptV1 := { nqReceiptDigest, qualificationAt }
    let executable ← host.executableDigest
    if executable ≠ policy.nqVerifierExecutableDigest then
      conclude host receipt .nqReceiptInvalid
        "NQ verifier executable digest does not match policy"
    else
      match evidence with
      | none =>
        conclude host receipt .missingSupport
          "no independent support observation was supplied"
      | some evidence => qualifyEvidence host policy receipt nqReceipt evidence qualification

end Qualify

/-! ## Currentness in exact time -/

/-- The occurrences of a qualification and the validities the producers gave. -/
structure Occurrences where
  primary : OffsetDateTime
  support : OffsetDateTime
  qualification : OffsetDateTime
  primaryValidity : Option UInt64
  supportValidity : Option UInt64

namespace Occurrences

variable (occurrences : Occurrences) (policy : CurrentnessPolicyV1)

/-- The nanosecond at which the primary observation stops being current. -/
def primaryDeadline : Int :=
  occurrences.primary.unixNanos +
    (ageBound occurrences.primaryValidity policy.maximumPrimaryAgeSeconds).toNat * 1000000000

/-- The same for the support. -/
def supportDeadline : Int :=
  occurrences.support.unixNanos +
    (ageBound occurrences.supportValidity policy.maximumSupportAgeSeconds).toNat * 1000000000

/-- The distance of the two observations in nanoseconds. -/
def skew : Int := |occurrences.primary.unixNanos - occurrences.support.unixNanos|

/-- The largest skew the policy allows, in nanoseconds. -/
def skewBound : Int := policy.maximumPrimarySupportSkewSeconds.toNat * 1000000000

/-- What a receipt of current support promises, in exact time. -/
structure Exact (currentUntil : Option Int) : Prop where
  primaryPast : occurrences.primary.unixNanos ≤ occurrences.qualification.unixNanos
  supportPast : occurrences.support.unixNanos ≤ occurrences.qualification.unixNanos
  primaryCurrent : occurrences.qualification.unixNanos < occurrences.primaryDeadline policy
  supportCurrent : occurrences.qualification.unixNanos < occurrences.supportDeadline policy
  skew : occurrences.skew ≤ skewBound policy
  deadline : ∃ milliseconds, currentUntil = some milliseconds ∧ milliseconds * 1000000 ≤
    min (occurrences.primaryDeadline policy) (occurrences.supportDeadline policy)

/-- The skew is not over its bound by less than a millisecond, and the earlier deadline is not
a fraction of a millisecond before 1970. -/
structure Whole : Prop where
  skew : ¬(skewBound policy < occurrences.skew ∧ occurrences.skew < skewBound policy + 1000000)
  deadline : 0 ≤ min (occurrences.primaryDeadline policy) (occurrences.supportDeadline policy) ∨
    1000000 ∣ min (occurrences.primaryDeadline policy) (occurrences.supportDeadline policy)

/-- The occurrences `qualify` reads from the evidence, the NQ receipt and its argument. -/
def ReadFrom (host : Surroundings) (evidence : SupportEvidenceV1) (qualificationAt : Text) : Prop :=
  ∃ nqReceipt witness primaryAt, host.nqReceipt = .ok nqReceipt ∧
    (nqReceipt.get "witness").bind Json.asObject = some witness ∧
    (Json.member "observed_at" witness).bind Json.asStr = some primaryAt ∧
    host.parseTime primaryAt = .ok occurrences.primary ∧
    host.parseTime evidence.observedAt = .ok occurrences.support ∧
    host.parseTime qualificationAt = .ok occurrences.qualification ∧
    occurrences.primaryValidity = (Json.member "valid_for_seconds" witness).bind Json.asU64 ∧
    occurrences.supportValidity = evidence.validForSeconds

end Occurrences

/-! ## Milliseconds cut towards zero -/

theorem tdiv_mul_le_iff (nanos : Int) :
    nanos.tdiv 1000000 * 1000000 ≤ nanos ↔ 0 ≤ nanos ∨ 1000000 ∣ nanos := by
  rcases le_or_gt 0 nanos with hpast | hbefore
  · rw [Int.tdiv_eq_ediv_of_nonneg hpast]
    omega
  · obtain ⟨later, rfl⟩ : ∃ later : Int, nanos = -later := ⟨-nanos, (neg_neg nanos).symm⟩
    rw [Int.neg_tdiv, Int.tdiv_eq_ediv_of_nonneg (by omega)]
    omega

theorem natAbs_tdiv_le_iff (nanos : Int) (seconds : Nat) :
    (nanos.tdiv 1000000).natAbs ≤ seconds * 1000 ↔
      |nanos| < (seconds : Int) * 1000000000 + 1000000 := by
  rw [Int.natAbs_tdiv, Int.abs_eq_natAbs]
  change nanos.natAbs / 1000000 ≤ _ ↔ _
  omega

/-! ## What a receipt of current support went through -/

section Current

variable {host : Surroundings} {policy : SupportPolicyV1}
  {receipt result : QualifiedSupportReceiptV1}

variable {disposition : SupportDispositionV1} {value : OffsetDateTime} {qualificationAt : Text}

theorem conclude_eq_ok {detail : Text} (h : conclude host receipt disposition detail = .ok result) :
    result.disposition = disposition ∧ result.currentUntilUnixMs = receipt.currentUntilUnixMs := by
  unfold conclude sealReceipt at h
  obtain ⟨digest, -, hresult⟩ := (except_bind_eq_ok _ _ _).mp h
  cases hresult
  exact ⟨rfl, rfl⟩

/-- A conclusion other than support leaves no receipt of current support. -/
theorem not_current_of_conclude {detail : Text}
    (h : conclude host receipt disposition detail = .ok result)
    (hcurrent : result.disposition = .supportedCurrent) : disposition = .supportedCurrent :=
  (conclude_eq_ok h).1.symm.trans hcurrent

theorem addSeconds_eq_ok {deadline : OffsetDateTime} {seconds : UInt64}
    (h : value.addSeconds seconds = .ok deadline) :
    deadline.unixNanos = value.unixNanos + seconds.toNat * 1000000000 := by
  simp only [OffsetDateTime.addSeconds, ite_error_eq_ok, Except.ok.injEq] at h
  obtain ⟨-, -, rfl⟩ := h
  simp only [OffsetDateTime.unixNanos]
  omega

theorem toUnixMs_eq_ok {milliseconds : Int} (h : value.toUnixMs = .ok milliseconds) :
    milliseconds = value.unixNanos.tdiv 1000000 := by
  unfold OffsetDateTime.toUnixMs at h
  split at h
  · exact (Except.ok.inj h).symm
  · cases h

theorem skewMs_eq_ok {left right : OffsetDateTime} {milliseconds : Nat}
    (h : left.skewMs right = .ok milliseconds) :
    milliseconds = ((left.unixNanos - right.unixNanos).tdiv 1000000).natAbs := by
  unfold OffsetDateTime.skewMs at h
  split at h
  · exact (Except.ok.inj h).symm
  · cases h

theorem unixNanos_earlier (left right : OffsetDateTime) :
    (left.earlier right).unixNanos = min left.unixNanos right.unixNanos := by
  unfold OffsetDateTime.earlier
  split <;> omega

/-- What was compared, and what was recorded, when the occurrences were found current. -/
theorem weigh_current {occurrences : Occurrences} {conclusion : Bool}
    (h : weigh host policy receipt occurrences.primaryValidity occurrences.supportValidity
      occurrences.primary occurrences.support occurrences.qualification conclusion = .ok result)
    (hcurrent : result.disposition = .supportedCurrent) :
    occurrences.primary.unixNanos ≤ occurrences.qualification.unixNanos ∧
      occurrences.support.unixNanos ≤ occurrences.qualification.unixNanos ∧
      occurrences.qualification.unixNanos < occurrences.primaryDeadline policy.currentness ∧
      occurrences.qualification.unixNanos < occurrences.supportDeadline policy.currentness ∧
      occurrences.skew < Occurrences.skewBound policy.currentness + 1000000 ∧
      result.currentUntilUnixMs = some ((min (occurrences.primaryDeadline policy.currentness)
        (occurrences.supportDeadline policy.currentness)).tdiv 1000000) := by
  unfold weigh at h
  split at h
  · exact absurd (not_current_of_conclude h hcurrent) (by decide)
  rename_i hpast
  simp only [except_bind_eq_ok] at h
  obtain ⟨primaryDeadline, hprimary, supportDeadline, hsupport, currentUntil, huntil, skew, hskew,
    h⟩ := h
  replace hprimary := addSeconds_eq_ok hprimary
  replace hsupport := addSeconds_eq_ok hsupport
  replace huntil := toUnixMs_eq_ok huntil
  replace hskew := skewMs_eq_ok hskew
  split at h
  · exact absurd (not_current_of_conclude h hcurrent) (by decide)
  rename_i hprimaryCurrent
  split at h
  · exact absurd (not_current_of_conclude h hcurrent) (by decide)
  rename_i hsupportCurrent
  split at h
  · cases h
  split at h
  · exact absurd (not_current_of_conclude h hcurrent) (by decide)
  rename_i hbound
  split at h
  · exact absurd (not_current_of_conclude h hcurrent) (by decide)
  rw [hskew, not_lt, natAbs_tdiv_le_iff] at hbound
  refine ⟨by omega, by omega, ?_, ?_, hbound, ?_⟩
  · rw [Occurrences.primaryDeadline, ← hprimary]
    omega
  · rw [Occurrences.supportDeadline, ← hsupport]
    omega
  · rw [(conclude_eq_ok h).2, huntil, unixNanos_earlier, hprimary, hsupport]
    rfl

/-- The occurrences that were found current come from the witness and the evidence. -/
theorem qualifyWitness_current {nqReceipt : Json} {evidence : SupportEvidenceV1}
    {qualification : OffsetDateTime} {conclusion : Bool} (hnq : host.nqReceipt = .ok nqReceipt)
    (hqualification : host.parseTime qualificationAt = .ok qualification)
    (h : qualifyWitness host policy receipt nqReceipt evidence qualification conclusion =
      .ok result) (hcurrent : result.disposition = .supportedCurrent) :
    ∃ (occurrences : Occurrences) (receipt : QualifiedSupportReceiptV1),
      occurrences.ReadFrom host evidence qualificationAt ∧
      weigh host policy receipt occurrences.primaryValidity occurrences.supportValidity
        occurrences.primary occurrences.support occurrences.qualification conclusion =
          .ok result := by
  unfold qualifyWitness at h
  split at h
  · cases h
  rename_i witness hwitness
  split at h
  · exact absurd (not_current_of_conclude h hcurrent) (by decide)
  split at h
  · cases h
  rename_i primaryAt hprimaryAt
  simp only [except_bind_eq_ok] at h
  obtain ⟨primary, hprimary, support, hsupport, h⟩ := h
  exact ⟨⟨primary, support, qualification,
    (Json.member "valid_for_seconds" witness).bind Json.asU64, evidence.validForSeconds⟩, _,
    ⟨nqReceipt, witness, primaryAt, hnq, hwitness, hprimaryAt, hprimary, hsupport, hqualification,
      rfl, rfl⟩, h⟩

theorem evidenceDisposition_ne (error : Text) : evidenceDisposition error ≠ .supportedCurrent := by
  unfold evidenceDisposition
  split
  · decide
  · split <;> decide

/-- A receipt of current support went through the weighing of its occurrences. -/
theorem qualify_current {evidence : Option SupportEvidenceV1}
    (h : qualify host policy evidence qualificationAt = .ok result)
    (hcurrent : result.disposition = .supportedCurrent) :
    ∃ (support : SupportEvidenceV1) (occurrences : Occurrences)
      (receipt : QualifiedSupportReceiptV1) (conclusion : Bool), evidence = some support ∧
      occurrences.ReadFrom host support qualificationAt ∧
      weigh host policy receipt occurrences.primaryValidity occurrences.supportValidity
        occurrences.primary occurrences.support occurrences.qualification conclusion =
          .ok result := by
  unfold qualify at h
  rw [check_bind_eq_ok] at h
  simp only [except_bind_eq_ok] at h
  obtain ⟨-, qualification, hqualification, nqReceipt, hnq, h⟩ := h
  split at h
  · cases h
  simp only [except_bind_eq_ok] at h
  obtain ⟨executable, -, h⟩ := h
  split at h
  · exact absurd (not_current_of_conclude h hcurrent) (by decide)
  split at h
  · exact absurd (not_current_of_conclude h hcurrent) (by decide)
  rename_i support
  unfold qualifyEvidence at h
  obtain ⟨digest, -, h⟩ := (except_bind_eq_ok _ _ _).mp h
  dsimp only at h
  split at h
  · rename_i error _
    exact absurd (not_current_of_conclude h hcurrent) (evidenceDisposition_ne error)
  split at h
  · exact absurd (not_current_of_conclude h hcurrent) (by decide)
  split at h
  · obtain ⟨occurrences, receipt, hread, hweigh⟩ :=
      qualifyWitness_current hnq hqualification h hcurrent
    exact ⟨support, occurrences, receipt, _, rfl, hread, hweigh⟩
  · exact absurd (not_current_of_conclude h hcurrent) (by decide)

/-- A receipt of current support is exact if and only if the skew is not over its bound by a
fraction of a millisecond and the earlier deadline is not such a fraction before 1970. -/
theorem supported_current_exact_iff {evidence : Option SupportEvidenceV1} {qualificationAt : Text}
    (h : qualify host policy evidence qualificationAt = .ok result)
    (hcurrent : result.disposition = .supportedCurrent) :
    ∃ (support : SupportEvidenceV1) (occurrences : Occurrences), evidence = some support ∧
      occurrences.ReadFrom host support qualificationAt ∧
      (occurrences.Exact policy.currentness result.currentUntilUnixMs ↔
        occurrences.Whole policy.currentness) := by
  obtain ⟨support, occurrences, _, _, hevidence, hread, hweigh⟩ := qualify_current h hcurrent
  obtain ⟨hprimaryPast, hsupportPast, hprimaryCurrent, hsupportCurrent, hskew, huntil⟩ :=
    weigh_current hweigh hcurrent
  refine ⟨support, occurrences, hevidence, hread, ?_, ?_⟩
  · intro hexact
    obtain ⟨milliseconds, hsome, hdeadline⟩ := hexact.deadline
    rw [huntil, Option.some_inj] at hsome
    subst hsome
    exact ⟨fun hover => absurd hexact.skew (not_le.mpr hover.1),
      (tdiv_mul_le_iff _).mp hdeadline⟩
  · intro hwhole
    refine ⟨hprimaryPast, hsupportPast, hprimaryCurrent, hsupportCurrent, ?_, _, huntil,
      (tdiv_mul_le_iff _).mpr hwhole.deadline⟩
    by_contra hover
    exact hwhole.skew ⟨not_le.mp hover, hskew⟩

end Current

namespace Reference

/-- Nanoseconds after 1970 of the times the statements below use. -/
def instants : List (Text × Int) :=
  [("1969-12-31T23:53:19.9995Z", -400000500000), ("1969-12-31T23:53:21Z", -399000000000),
    ("1970-01-01T00:00:00Z", 0), ("1970-01-01T00:00:59.9995Z", 59999500000),
    ("1970-01-01T00:01:00.0005Z", 60000500000), ("1970-01-01T00:01:40Z", 100000000000)]

/-- Everything is in order, and the primary observation is of a time. -/
def host (primary : Text) : Surroundings where
  validate _ := .ok ()
  verifyEvidence _ _ := .ok ()
  parseTime text := (instants.lookup text).elim (.error "invalid time") fun nanos => .ok ⟨nanos, 0⟩
  nqReceipt := .ok (.object [("receipt_digest", .text "r"), ("witness", .object
    [("concern", .text "c"), ("declaration_profile", .text "d"), ("input_schema_digest", .text "i"),
      ("observed_at", .text primary), ("predicate_profile", .text "p"),
      ("producer", .text "u"), ("profile_digest", .text "f"), ("project", .text "j"),
      ("question", .text "q")])])
  executableDigest := .ok "e"
  invokeNq _ := .ok ⟨true, "r", "g", "p", "f", "i", true⟩
  evidenceDigest _ := .ok "s"
  receiptDigest _ := .ok "t"

/-- Five minutes of age, one of skew. -/
def policy : SupportPolicyV1 where
  target := ⟨"j", "c", "q", "d", "p", "g", "f", "i", "u"⟩
  currentness := ⟨300, 300, 60⟩
  nqVerifierExecutableDigest := "e"

/-- Support without a validity of its own. -/
def evidence (observedAt : Text) : SupportEvidenceV1 :=
  ⟨"v", "w", "x", "y", observedAt, none, .object []⟩

/-- The disposition and the deadline of a qualification. -/
def outcome (primary support now : Text) : Option (SupportDispositionV1 × Option Int) :=
  match qualify (host primary) policy (some (evidence support)) now with
  | .ok receipt => some (receipt.disposition, receipt.currentUntilUnixMs)
  | .error _ => none

theorem qualify_of_outcome {primary support now : Text} {disposition : SupportDispositionV1}
    {deadline : Option Int} (h : outcome primary support now = some (disposition, deadline)) :
    ∃ receipt, qualify (host primary) policy (some (evidence support)) now = .ok receipt ∧
      receipt.disposition = disposition ∧ receipt.currentUntilUnixMs = deadline := by
  unfold outcome at h
  split at h
  · rename_i receipt hqualify
    cases h
    exact ⟨receipt, hqualify, rfl, rfl⟩
  · cases h

/-- Half a millisecond within the bounds, and after 1970. -/
theorem supported_current_exact_iff_within :
    ∃ receipt, qualify (host "1970-01-01T00:00:59.9995Z") policy
        (some (evidence "1970-01-01T00:00:00Z")) "1970-01-01T00:01:40Z" = .ok receipt ∧
      receipt.disposition = .supportedCurrent ∧
      ∃ (support : SupportEvidenceV1) (occurrences : Occurrences),
        some (evidence "1970-01-01T00:00:00Z") = some support ∧
        occurrences.ReadFrom (host "1970-01-01T00:00:59.9995Z") support "1970-01-01T00:01:40Z" ∧
        (occurrences.Exact policy.currentness receipt.currentUntilUnixMs ↔
          occurrences.Whole policy.currentness) := by
  have hcurrent : outcome "1970-01-01T00:00:59.9995Z" "1970-01-01T00:00:00Z"
      "1970-01-01T00:01:40Z" = some (.supportedCurrent, some 300000) := by
    decide +kernel
  obtain ⟨receipt, hqualify, hdisposition, -⟩ := qualify_of_outcome hcurrent
  exact ⟨receipt, hqualify, hdisposition, supported_current_exact_iff hqualify hdisposition⟩

/-- Observations 60.0005 seconds apart pass a bound of 60 seconds; and before 1970 a deadline
half a millisecond short of a whole one is recorded as the whole one. -/
theorem current_beyond_bounds :
    (outcome "1970-01-01T00:01:00.0005Z" "1970-01-01T00:00:00Z" "1970-01-01T00:01:40Z" =
        some (.supportedCurrent, some 300000) ∧
      policy.currentness.maximumPrimarySupportSkewSeconds.toNat * 1000000000 <
        (60000500000 : Int) - 0) ∧
      outcome "1969-12-31T23:53:19.9995Z" "1969-12-31T23:53:19.9995Z" "1969-12-31T23:53:21Z" =
        some (.supportedCurrent, some (-100000)) ∧
      -400000500000 + policy.currentness.maximumPrimaryAgeSeconds.toNat * 1000000000 <
        (-100000 : Int) * 1000000 := by
  refine ⟨⟨?_, ?_⟩, ?_, ?_⟩ <;> decide +kernel

end Reference

end ConstellationMonitor.Support

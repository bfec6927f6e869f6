/-
  Identities and content digests (`pulse-types/src/ids.rs`, `digest.rs`).

  The source declares one newtype per identity with a macro; here one structure is
  indexed by the kind, so that the shared validation and order are stated once.
-/
import ConstellationMonitor.Foundation.Ordered
import ConstellationMonitor.Foundation.Fallible

namespace ConstellationMonitor.Types

open Foundation

/-- `SCHEMA_VERSION_V1`. -/
def schemaVersionV1 : Nat := 1

/-! ## Identity tokens -/

/-- The identity newtypes `identity_type!` declares. -/
inductive IdentityKind where
  | subjectId
  | observerId
  | receiverId
  | incarnationId
  | clockId
  | policyGenerationId
  | observationPolicyGenerationId
  | consumerProfileGenerationId
  | evaluatorSemanticGenerationId
  | observerSetGenerationId
  | contextActivationId
  | supportCertificateId
  | runtimeRefusalId
  | evidenceWindowId
  | transitionId
  | contradictionId
  | escalationRequestId
  | diagnosticRunId
  | diagnosticReceiptId
  | bridgeId
  | consumerId
  | sparseEventId
  deriving DecidableEq

/-- The type name `stringify!` puts into an identity error. -/
def IdentityKind.name : IdentityKind → Text
  | .subjectId => "SubjectId"
  | .observerId => "ObserverId"
  | .receiverId => "ReceiverId"
  | .incarnationId => "IncarnationId"
  | .clockId => "ClockId"
  | .policyGenerationId => "PolicyGenerationId"
  | .observationPolicyGenerationId => "ObservationPolicyGenerationId"
  | .consumerProfileGenerationId => "ConsumerProfileGenerationId"
  | .evaluatorSemanticGenerationId => "EvaluatorSemanticGenerationId"
  | .observerSetGenerationId => "ObserverSetGenerationId"
  | .contextActivationId => "ContextActivationId"
  | .supportCertificateId => "SupportCertificateId"
  | .runtimeRefusalId => "RuntimeRefusalId"
  | .evidenceWindowId => "EvidenceWindowId"
  | .transitionId => "TransitionId"
  | .contradictionId => "ContradictionId"
  | .escalationRequestId => "EscalationRequestId"
  | .diagnosticRunId => "DiagnosticRunId"
  | .diagnosticReceiptId => "DiagnosticReceiptId"
  | .bridgeId => "BridgeId"
  | .consumerId => "ConsumerId"
  | .sparseEventId => "SparseEventId"

/-- One identity newtype over a string. -/
structure Identity (kind : IdentityKind) where
  /-- the token itself, `as_str` -/
  text : Text
  deriving DecidableEq, Inhabited

instance (kind : IdentityKind) : Coe String (Identity kind) := ⟨fun value => ⟨value⟩⟩

theorem Identity.text_injective (kind : IdentityKind) :
    Function.Injective (Identity.text : Identity kind → Text) := by
  intro left right h
  cases left
  cases right
  exact congrArg Identity.mk h

/-- The newtypes derive the order of their string. -/
instance (kind : IdentityKind) : Ord (Identity kind) := ordOf Identity.text

instance (kind : IdentityKind) : Std.TransOrd (Identity kind) := transOrd_ordOf _

instance (kind : IdentityKind) : Std.LawfulEqOrd (Identity kind) :=
  lawfulEqOrd_ordOf (Identity.text_injective kind)

/-- Keys of two and of three identities. -/
instance transOrd_identityPair (first second : IdentityKind) :
    Std.TransOrd (Identity first × Identity second) := inferInstance

instance transOrd_identityTriple (first second third : IdentityKind) :
    Std.TransOrd (Identity first × Identity second × Identity third) := inferInstance

/-- An identity is its text. -/
theorem Identity.leftInverse_text (kind : IdentityKind) :
    Function.LeftInverse (Identity.text : Identity kind → Text) Identity.mk := fun _ => rfl

theorem Identity.rightInverse_text (kind : IdentityKind) :
    Function.RightInverse (Identity.text : Identity kind → Text) Identity.mk := fun _ => rfl

abbrev SubjectId := Identity .subjectId
abbrev ObserverId := Identity .observerId
abbrev ReceiverId := Identity .receiverId
abbrev IncarnationId := Identity .incarnationId
abbrev ClockId := Identity .clockId
abbrev PolicyGenerationId := Identity .policyGenerationId
abbrev ObservationPolicyGenerationId := Identity .observationPolicyGenerationId
abbrev ConsumerProfileGenerationId := Identity .consumerProfileGenerationId
abbrev EvaluatorSemanticGenerationId := Identity .evaluatorSemanticGenerationId
abbrev ObserverSetGenerationId := Identity .observerSetGenerationId
abbrev ContextActivationId := Identity .contextActivationId
abbrev SupportCertificateId := Identity .supportCertificateId
abbrev RuntimeRefusalId := Identity .runtimeRefusalId
abbrev EvidenceWindowId := Identity .evidenceWindowId
abbrev TransitionId := Identity .transitionId
abbrev ContradictionId := Identity .contradictionId
abbrev EscalationRequestId := Identity .escalationRequestId
abbrev DiagnosticRunId := Identity .diagnosticRunId
abbrev DiagnosticReceiptId := Identity .diagnosticReceiptId
abbrev BridgeId := Identity .bridgeId
abbrev ConsumerId := Identity .consumerId
abbrev SparseEventId := Identity .sparseEventId

/-- Why an identity token was refused. -/
structure IdentityError where
  /-- the identity type or field -/
  field : Text
  /-- the rule it breaks -/
  reason : Text
  deriving DecidableEq

/-- `MAX_IDENTITY_BYTES`. -/
def maxIdentityBytes : Nat := 160

/-- `validate_identity`. -/
def validateIdentity (field value : Text) : Except IdentityError Unit := do
  refuseIf value.isEmpty ⟨field, "identity is empty"⟩
  refuseIf (decide (value.length > maxIdentityBytes))
    ⟨field, "identity exceeds the byte bound"⟩
  refuseIf value.hasControl ⟨field, "identity contains a control character"⟩

/-- `validate` of each identity newtype. -/
def Identity.validate {kind : IdentityKind} (identity : Identity kind) :
    Except IdentityError Unit :=
  validateIdentity kind.name identity.text

/-- The text passes the identity rules, whatever field it is checked for. -/
def ValidIdentity (value : Text) : Prop :=
  value.isEmpty = false ∧ value.length ≤ maxIdentityBytes ∧ value.hasControl = false

instance (value : Text) : Decidable (ValidIdentity value) := inferInstanceAs (Decidable (_ ∧ _))

@[simp] theorem validateIdentity_eq_ok (field value : Text) :
    validateIdentity field value = .ok () ↔ ValidIdentity value := by
  simp [validateIdentity, ValidIdentity]

@[simp] theorem Identity.validate_eq_ok {kind : IdentityKind} (identity : Identity kind) :
    identity.validate = .ok () ↔ ValidIdentity identity.text :=
  validateIdentity_eq_ok _ _

/-- `SubjectScopeV1`. -/
structure SubjectScopeV1 where
  subject : SubjectId
  subjectIncarnation : IncarnationId
  scope : Text
  deriving DecidableEq

/-- `SubjectScopeV1::validate`. -/
def SubjectScopeV1.validate (scope : SubjectScopeV1) : Except IdentityError Unit := do
  scope.subject.validate
  scope.subjectIncarnation.validate
  validateIdentity "subject scope" scope.scope

/-! ## Digests -/

/-- The SHA-256 function: outside code, known here only to return 32 bytes. -/
structure Sha256 where
  /-- the hash of a byte string -/
  hash : List UInt8 → List UInt8
  /-- every hash has 32 bytes -/
  length_hash : ∀ bytes, (hash bytes).length = 32

/-- `DigestV1`: a digest with its algorithm as a textual start. -/
structure DigestV1 where
  /-- the printed digest -/
  text : Text
  deriving DecidableEq, Inhabited

theorem DigestV1.text_injective : Function.Injective DigestV1.text := by
  intro left right h
  cases left
  cases right
  exact congrArg DigestV1.mk h

instance : Ord DigestV1 := ordOf DigestV1.text

instance : Std.TransOrd DigestV1 := transOrd_ordOf _

instance : Std.LawfulEqOrd DigestV1 := lawfulEqOrd_ordOf DigestV1.text_injective

/-- A canonical hexadecimal byte: a digit or one of `a` to `f`. -/
def isHexByte (byte : UInt8) : Bool :=
  (decide (0x30 ≤ byte) && decide (byte ≤ 0x39)) ||
    (decide (0x61 ≤ byte) && decide (byte ≤ 0x66))

/-- `DigestV1::validate`, with the text of `DigestError`. -/
def DigestV1.validate (digest : DigestV1) : Except Text Unit :=
  match Text.stripStart "sha256:" digest.text with
  | none => .error "digest has no sha256 prefix"
  | some hex => do
    refuseIf (decide (hex.length ≠ 64)) "digest has the wrong length"
    refuseIf (!hex.bytes.all isHexByte) "digest contains non-canonical hexadecimal bytes"
    refuseIf (hex.bytes.all fun byte => decide (byte = 0x30))
      "all-zero digest is not a content identity"

theorem stripStart_eq_some {start text rest : Text} :
    Text.stripStart start text = some rest ↔ text = start ++ rest := by
  unfold Text.stripStart
  constructor
  · intro h
    split at h
    · rename_i hstart
      obtain ⟨more, hmore⟩ := List.isPrefixOf_iff_prefix.mp hstart
      obtain rfl := Option.some.inj h
      refine congrArg Text.mk ?_
      rw [← hmore, List.drop_left]
    · cases h
  · rintro rfl
    simp

/-- What a valid digest is made of. -/
theorem DigestV1.of_validate {digest : DigestV1} (h : digest.validate = .ok ()) :
    ∃ hex : Text, digest.text = "sha256:" ++ hex ∧ hex.length = 64 ∧
      hex.bytes.all isHexByte = true := by
  unfold DigestV1.validate at h
  split at h
  · cases h
  · rename_i hex hstrip
    simp only [check_bind_eq_ok, refuseIf_eq_ok, decide_eq_false_iff_not, not_not,
      Bool.not_eq_false'] at h
    exact ⟨hex, stripStart_eq_some.mp hstrip, h.1, h.2.1⟩

theorem DigestV1.length_of_validate {digest : DigestV1} (h : digest.validate = .ok ()) :
    digest.text.length = 71 := by
  obtain ⟨hex, htext, hlength, -⟩ := DigestV1.of_validate h
  rw [htext, Text.length_append, hlength]
  decide

/-- No hexadecimal text starts with the name of the algorithm. -/
theorem stripStart_hex {hex : Text} (h : hex.bytes.all isHexByte = true) :
    Text.stripStart "sha256:" hex = none := by
  rw [Option.eq_none_iff_forall_ne_some]
  intro rest hrest
  have hbyte : (0x73 : UInt8) ∈ hex.bytes := by
    rw [stripStart_eq_some.mp hrest, Text.bytes_append]
    exact List.mem_append_left _ (by decide)
  exact absurd (List.all_eq_true.mp h _ hbyte) (by decide)

/-- The name of the algorithm is dropped once. -/
theorem trim_sha256 {hex : Text} (h : hex.bytes.all isHexByte = true) :
    Text.trimStartMatches "sha256:" ("sha256:" ++ hex) = hex := by
  have hfuel : (Text.ofString "sha256:" ++ hex).length = hex.length + 5 + 1 + 1 := by
    rw [Text.length_append, Nat.add_comm]
    rfl
  rw [Text.trimStartMatches, hfuel, Text.trimStartLoop, stripStart_eq_some.mpr rfl]
  show Text.trimStartLoop "sha256:" (hex.length + 5 + 1) hex = hex
  rw [Text.trimStartLoop, stripStart_hex h]

theorem isHexByte_hexBytes (bytes : List UInt8) : (Text.hexBytes bytes).all isHexByte = true := by
  have hdigit : ∀ nibble : Fin 16, isHexByte (Text.hexDigit nibble) = true := by decide
  induction bytes with
  | nil => rfl
  | cons byte rest ih =>
    have hupper : byte.toNat / 16 < 16 := by
      have := byte.toNat_lt
      omega
    rw [Text.hexBytes, List.all_cons, List.all_cons, hdigit ⟨_, hupper⟩,
      hdigit ⟨_, Nat.mod_lt _ (by decide)⟩, ih]
    rfl

theorem printable_of_isHexByte {byte : UInt8} (h : isHexByte byte = true) :
    0x20 ≤ byte ∧ byte < 0x7f := by
  simp only [isHexByte, Bool.or_eq_true, Bool.and_eq_true, decide_eq_true_eq] at h
  rcases h with ⟨hlow, hhigh⟩ | ⟨hlow, hhigh⟩
  · exact ⟨UInt8.le_trans (by decide) hlow, UInt8.lt_of_le_of_lt hhigh (by decide)⟩
  · exact ⟨UInt8.le_trans (by decide) hlow, UInt8.lt_of_le_of_lt hhigh (by decide)⟩

/-- The length-delimited transcript `digest_parts` feeds to the hasher. -/
def digestTranscript (domain : Text) (parts : List (List UInt8)) : List UInt8 :=
  (Text.ofString "monitor-skunkworks.digest.v1").bytes ++ 0 ::
    (beBytes 8 domain.length ++ (domain.bytes ++
      parts.flatMap fun part => beBytes 8 part.length ++ part))

/-- `digest_parts`. -/
def digestParts (sha256 : Sha256) (domain : Text) (parts : List (List UInt8)) : DigestV1 :=
  ⟨"sha256:" ++ ⟨Text.hexBytes (sha256.hash (digestTranscript domain parts))⟩⟩

/-- An identity made of a short printable start and the digits of a digest passes the rules. -/
theorem validIdentity_digestParts (sha256 : Sha256) (domain : Text) (parts : List (List UInt8))
    {start : Text} (short : start.length ≤ 96)
    (printable : ∀ byte ∈ start.bytes, 0x20 ≤ byte ∧ byte < 0x7f) : ValidIdentity
      (start ++ Text.trimStartMatches "sha256:" (digestParts sha256 domain parts).text) := by
  have hdigits := isHexByte_hexBytes (sha256.hash (digestTranscript domain parts))
  have hlength : (Text.hexBytes (sha256.hash (digestTranscript domain parts))).length = 64 := by
    rw [Text.length_hexBytes, sha256.length_hash]
  rw [digestParts, trim_sha256 hdigits]
  refine ⟨?_, ?_, Text.hasControl_eq_false fun byte hbyte => ?_⟩
  · rw [Text.isEmpty, Text.bytes_append, List.isEmpty_eq_false_iff, ← List.length_pos_iff,
      List.length_append, hlength]
    omega
  · rw [Text.length_append, Text.length, Text.length, hlength, maxIdentityBytes]
    exact Nat.add_le_add_right short 64
  · rcases List.mem_append.mp hbyte with hstart | hhex
    · exact printable byte hstart
    · exact printable_of_isHexByte (List.all_eq_true.mp hdigits byte hhex)

end ConstellationMonitor.Types

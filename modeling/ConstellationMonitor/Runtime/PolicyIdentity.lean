/-
  The identity of a policy body (`ReliancePolicyV1::semantic_digest`): a policy is determined
  by the bytes that are hashed, up to its generation, which is not part of them.  So a
  generation that is bound to a second body is found by comparing digests, unless the two
  bodies are a collision of SHA-256.

  Tags, tolerances and failure domains each stand behind a literal of their own and have a
  fixed number of parts, so the sections are told apart by their first parts.  The escalation
  section comes last: its triggers are what stands before its last seven parts.
-/
import ConstellationMonitor.Pulse.Transcript
import ConstellationMonitor.Runtime.Reference

namespace ConstellationMonitor.Runtime

open Foundation ConstellationMonitor.Types Evaluation
open Pulse (Fits text_eq_of_bytes identity_eq_of_bytes)
open Std (ExtTreeMap ExtTreeSet)

/-! ## The parts of the transcript -/

section Parts

/-- The parts every policy has. -/
def policyFixedParts (policy : ReliancePolicyV1) : List (List UInt8) :=
  [ beBytes 2 policy.schemaVersion,
    policy.subject.text.bytes,
    policy.scope.bytes,
    policy.consumer.text.bytes,
    policy.observationPolicyGeneration.text.bytes,
    policy.observationProfile.name.bytes,
    beBytes 2 policy.observationProfile.version,
    policy.observationProfile.semanticDigest.text.bytes,
    beBytes 4 policy.minimumObservers,
    beBytes 8 policy.maximumValidityMs,
    [if policy.requireVerifiedAuthentication then 1 else 0] ]

/-- The tag in front of a required coverage tag. -/
def coverageTag : List UInt8 := (Text.ofString "coverage").bytes

/-- The tag in front of a tolerance. -/
def coherenceTag : List UInt8 := (Text.ofString "coherence").bytes

/-- The tag in front of a failure domain. -/
def failureDomainTag : List UInt8 := (Text.ofString "failure-domain").bytes

/-- The parts of a tolerance after its tag. -/
def toleranceParts (entry : Text × Float64) : List (List UInt8) :=
  [entry.1.bytes, beBytes 8 entry.2.bits.toNat]

/-- The parts of a failure domain after its tag. -/
def failureDomainParts (entry : Text × Text) : List (List UInt8) :=
  [entry.1.bytes, entry.2.bytes]

/-- The parts `semantic_digest` collects. -/
def policyParts (policy : ReliancePolicyV1) : List (List UInt8) :=
  policyFixedParts policy ++
    (policy.requiredCoverage.flatMap (fun tag => coverageTag :: [tag.bytes]) ++
      (policy.coherenceTolerances.toList.flatMap (fun entry =>
          coherenceTag :: toleranceParts entry) ++
        (policy.observerFailureDomains.toList.flatMap (fun entry =>
            failureDomainTag :: failureDomainParts entry) ++
          policy.escalation.toList.flatMap ReliancePolicyV1.escalationTranscript)))

/-- The bytes `semantic_digest` hashes. -/
def policyTranscript (policy : ReliancePolicyV1) : List UInt8 :=
  digestTranscript "reliance.policy.body.v1" (policyParts policy)

/-- The body digest of a policy is the printed hash of its transcript. -/
theorem semanticDigest_eq (sha256 : Sha256) (policy : ReliancePolicyV1) :
    policy.semanticDigest sha256 =
      ⟨"sha256:" ++ ⟨Text.hexBytes (sha256.hash (policyTranscript policy))⟩⟩ := by
  simp only [ReliancePolicyV1.semanticDigest, digestParts, policyTranscript, policyParts,
    List.append_assoc]
  rfl

end Parts

/-! ## What the types of a policy say -/

section Typed

/-- The texts of a policy. -/
def policyTexts (policy : ReliancePolicyV1) : List Text :=
  [ policy.subject.text, policy.scope, policy.consumer.text,
    policy.observationPolicyGeneration.text, policy.observationProfile.name,
    policy.observationProfile.semanticDigest.text ] ++
  policy.requiredCoverage ++
  policy.coherenceTolerances.toList.map Prod.fst ++
  policy.observerFailureDomains.toList.flatMap (fun entry => [entry.1, entry.2]) ++
  policy.escalation.toList.flatMap fun escalation =>
    [escalation.diagnosticProfile.name, escalation.diagnosticProfile.semanticDigest.text]

/-- What the source's types say of an escalation policy and the embedding does not. -/
structure EscalationWellTyped (escalation : EscalationPolicyV1) : Prop where
  version : Fits 2 escalation.diagnosticProfile.version
  maximumRuntimeMs : Fits 8 escalation.bounds.maximumRuntimeMs
  maximumOutputBytes : Fits 8 escalation.bounds.maximumOutputBytes
  maximumObservations : Fits 4 escalation.bounds.maximumObservations
  requestTtlMs : Fits 8 escalation.requestTtlMs

/-- What the source's types say of a policy and the embedding does not: every number is within
its type, and a `String` has at most `isize::MAX` bytes. -/
structure PolicyWellTyped (policy : ReliancePolicyV1) : Prop where
  schemaVersion : Fits 2 policy.schemaVersion
  version : Fits 2 policy.observationProfile.version
  minimumObservers : Fits 4 policy.minimumObservers
  maximumValidityMs : Fits 8 policy.maximumValidityMs
  escalation : ∀ escalation ∈ policy.escalation, EscalationWellTyped escalation
  texts : ∀ text ∈ policyTexts policy, text.length < 2 ^ 63

theorem length_lt_of_lt {text : Text} (h : text.length < 2 ^ 63) :
    text.bytes.length < 256 ^ 8 :=
  Nat.lt_trans h (by decide)

/-- Every part is short enough for the eight bytes of its length. -/
theorem length_policyParts {policy : ReliancePolicyV1} (h : PolicyWellTyped policy) :
    ∀ part ∈ policyParts policy, part.length < 256 ^ 8 := by
  have htexts := fun text htext => length_lt_of_lt (h.texts text htext)
  simp only [policyTexts, List.forall_mem_append, List.forall_mem_cons, List.forall_mem_map,
    List.forall_mem_flatMap, List.not_mem_nil, false_implies, implies_true, and_true] at htexts
  obtain ⟨⟨⟨⟨⟨hsubject, hscope, hconsumer, hgeneration, hname, hsemantic⟩, hcoverage⟩,
    htolerances⟩, hdomains⟩, hescalation⟩ := htexts
  simp only [policyParts, policyFixedParts, toleranceParts, failureDomainParts,
    ReliancePolicyV1.escalationTranscript, List.forall_mem_append, List.forall_mem_cons,
    List.forall_mem_map, List.forall_mem_flatMap, length_beBytes, List.length_singleton,
    List.not_mem_nil, false_implies, implies_true, and_true]
  refine ⟨⟨by decide, hsubject, hscope, hconsumer, hgeneration, hname, by decide, hsemantic,
    by decide, by decide, by decide⟩, fun tag htag => ⟨by decide, hcoverage tag htag⟩,
    fun entry hentry => ⟨by decide, htolerances entry hentry, by decide⟩,
    fun entry hentry => ⟨by decide, hdomains entry hentry⟩, fun escalation hmem =>
      ⟨⟨by decide, fun trigger _ => by cases trigger <;> decide⟩, (hescalation escalation hmem).1,
        by decide, (hescalation escalation hmem).2, by decide, by decide, by decide, by decide⟩⟩

end Typed

/-! ## Telling the sections apart -/

section Sections

theorem splits_coverage :
    Splits (fun tag : Text => coverageTag :: [tag.bytes]) (fun _ => True) (fun _ => True)
      (fun rest => rest.head? ≠ some coverageTag) :=
  Splits.tagged coverageTag fun _ _ heq =>
    ⟨text_eq_of_bytes (List.cons.inj heq).1, (List.cons.inj heq).2⟩

theorem splits_tolerances :
    Splits (fun entry => coherenceTag :: toleranceParts entry) (fun _ => True) (fun _ => True)
      (fun rest => rest.head? ≠ some coherenceTag) := by
  refine Splits.tagged coherenceTag ?_
  rintro ⟨signal, ⟨bits⟩⟩ ⟨signal', ⟨bits'⟩⟩ rest more - - heq
  simp only [toleranceParts, List.cons_append, List.nil_append, List.cons.injEq] at heq
  obtain ⟨hsignal, hbits, hrest⟩ := heq
  obtain rfl := text_eq_of_bytes hsignal
  obtain rfl : bits = bits' :=
    UInt64.toNat_inj.mp (beBytes_injective bits.toNat_lt bits'.toNat_lt hbits)
  exact ⟨rfl, hrest⟩

theorem splits_failureDomains :
    Splits (fun entry => failureDomainTag :: failureDomainParts entry) (fun _ => True)
      (fun _ => True) (fun rest => rest.head? ≠ some failureDomainTag) := by
  refine Splits.tagged failureDomainTag ?_
  rintro ⟨observer, failureDomain⟩ ⟨observer', failureDomain'⟩ rest more - - heq
  simp only [failureDomainParts, List.cons_append, List.nil_append, List.cons.injEq] at heq
  obtain ⟨hobserver, hdomain, hrest⟩ := heq
  obtain rfl := text_eq_of_bytes hobserver
  obtain rfl := text_eq_of_bytes hdomain
  exact ⟨rfl, hrest⟩

/-- The escalation section starts with its own tag, if there is one. -/
theorem head?_escalation_ne (escalation : Option EscalationPolicyV1) {tag : List UInt8}
    (htag : tag ≠ (Text.ofString "escalation").bytes) :
    (escalation.toList.flatMap ReliancePolicyV1.escalationTranscript).head? ≠ some tag := by
  cases escalation with
  | none => simp
  | some escalation => simpa [ReliancePolicyV1.escalationTranscript] using htag.symm

theorem asStr_bytes_injective :
    Function.Injective fun trigger : EscalationTriggerClassV1 => trigger.asStr.bytes := by
  intro left right h
  revert h
  cases left <;> cases right <;> decide

theorem escalationTranscript_injective {left right : EscalationPolicyV1}
    (hleft : EscalationWellTyped left) (hright : EscalationWellTyped right)
    (h : ReliancePolicyV1.escalationTranscript left =
      ReliancePolicyV1.escalationTranscript right) : left = right := by
  obtain ⟨htriggers, hfixed⟩ := List.append_inj' h rfl
  have htriggers : left.triggers = right.triggers :=
    ExtTreeSet.toList_inj.mp (List.map_injective_iff.mpr asStr_bytes_injective
      (List.append_cancel_left htriggers))
  simp only [List.cons.injEq, and_true] at hfixed
  obtain ⟨hname, hversion, hsemantic, hruntime, houtput, hobservations, httl⟩ := hfixed
  obtain ⟨triggers, ⟨name, version, semantic⟩, ⟨runtime, output, observations⟩, ttl⟩ := left
  obtain ⟨triggers', ⟨name', version', semantic'⟩, ⟨runtime', output', observations'⟩, ttl'⟩ :=
    right
  obtain rfl : triggers = triggers' := htriggers
  obtain rfl := text_eq_of_bytes hname
  obtain rfl := DigestV1.text_injective (text_eq_of_bytes hsemantic)
  obtain rfl : version = version' := beBytes_injective hleft.version hright.version hversion
  obtain rfl : runtime = runtime' :=
    beBytes_injective hleft.maximumRuntimeMs hright.maximumRuntimeMs hruntime
  obtain rfl : output = output' :=
    beBytes_injective hleft.maximumOutputBytes hright.maximumOutputBytes houtput
  obtain rfl : observations = observations' :=
    beBytes_injective hleft.maximumObservations hright.maximumObservations hobservations
  obtain rfl : ttl = ttl' := beBytes_injective hleft.requestTtlMs hright.requestTtlMs httl
  rfl

theorem escalation_injective {left right : Option EscalationPolicyV1}
    (hleft : ∀ escalation ∈ left, EscalationWellTyped escalation)
    (hright : ∀ escalation ∈ right, EscalationWellTyped escalation)
    (h : left.toList.flatMap ReliancePolicyV1.escalationTranscript =
      right.toList.flatMap ReliancePolicyV1.escalationTranscript) : left = right := by
  cases left with
  | none =>
    cases right with
    | none => rfl
    | some other => simp [ReliancePolicyV1.escalationTranscript] at h
  | some escalation =>
    cases right with
    | none => simp [ReliancePolicyV1.escalationTranscript] at h
    | some other =>
      rw [escalationTranscript_injective (hleft _ rfl) (hright _ rfl) (by simpa using h)]

theorem policyFixedParts_injective {left right : ReliancePolicyV1} (hleft : PolicyWellTyped left)
    (hright : PolicyWellTyped right) (h : policyFixedParts left = policyFixedParts right) :
    { left with
      generation := right.generation
      requiredCoverage := right.requiredCoverage
      coherenceTolerances := right.coherenceTolerances
      observerFailureDomains := right.observerFailureDomains
      escalation := right.escalation } = right := by
  simp only [policyFixedParts, List.cons.injEq, and_true] at h
  obtain ⟨hschema, hsubject, hscope, hconsumer, hgeneration, hname, hversion, hsemantic, hminimum,
    hmaximum, hverified⟩ := h
  have hprofile : left.observationProfile = right.observationProfile :=
    ObservationProfileIdV1.fields_injective (Prod.ext (text_eq_of_bytes hname)
      (Prod.ext (beBytes_injective hleft.version hright.version hversion)
        (DigestV1.text_injective (text_eq_of_bytes hsemantic))))
  have hverified : left.requireVerifiedAuthentication = right.requireVerifiedAuthentication := by
    revert hverified
    cases left.requireVerifiedAuthentication <;> cases right.requireVerifiedAuthentication <;>
      simp
  rw [beBytes_injective hleft.schemaVersion hright.schemaVersion hschema,
    identity_eq_of_bytes hsubject, text_eq_of_bytes hscope, identity_eq_of_bytes hconsumer,
    identity_eq_of_bytes hgeneration, hprofile,
    beBytes_injective hleft.minimumObservers hright.minimumObservers hminimum,
    beBytes_injective hleft.maximumValidityMs hright.maximumValidityMs hmaximum, hverified]

end Sections

/-! ## The transcript determines the policy body -/

/-- Two policies have one body: they differ at most in their generation. -/
def SameBody (left right : ReliancePolicyV1) : Prop :=
  { left with generation := right.generation } = right

theorem sameBody_of_transcript {left right : ReliancePolicyV1} (hleft : PolicyWellTyped left)
    (hright : PolicyWellTyped right) (h : policyTranscript left = policyTranscript right) :
    SameBody left right := by
  have hparts := digestTranscript_injective (length_policyParts hleft)
    (length_policyParts hright) h
  obtain ⟨hfixed, hsections⟩ := List.append_inj hparts rfl
  have htail : ∀ policy : ReliancePolicyV1,
      (policy.escalation.toList.flatMap ReliancePolicyV1.escalationTranscript).head? ≠
        some failureDomainTag := fun policy => head?_escalation_ne _ (by decide)
  have hdomains : ∀ policy : ReliancePolicyV1,
      (policy.observerFailureDomains.toList.flatMap (fun entry =>
          failureDomainTag :: failureDomainParts entry) ++
        policy.escalation.toList.flatMap ReliancePolicyV1.escalationTranscript).head? ≠
          some coherenceTag := fun policy =>
    head?_tagged_ne (by decide) (head?_escalation_ne _ (by decide))
  have htolerances : ∀ policy : ReliancePolicyV1,
      (policy.coherenceTolerances.toList.flatMap (fun entry =>
          coherenceTag :: toleranceParts entry) ++
        (policy.observerFailureDomains.toList.flatMap (fun entry =>
            failureDomainTag :: failureDomainParts entry) ++
          policy.escalation.toList.flatMap ReliancePolicyV1.escalationTranscript)).head? ≠
            some coverageTag := fun policy =>
    head?_tagged_ne (by decide)
      (head?_tagged_ne (by decide) (head?_escalation_ne _ (by decide)))
  have hall : ∀ {α : Type} {values : List α}, ∀ value ∈ values, True := fun _ _ => trivial
  obtain ⟨hcoverage, hsections⟩ := splits_coverage.inj hall hall (htolerances left)
    (htolerances right) hsections
  obtain ⟨htolerance, hsections⟩ := splits_tolerances.inj hall hall (hdomains left)
    (hdomains right) hsections
  obtain ⟨hdomain, hsections⟩ := splits_failureDomains.inj hall hall (htail left) (htail right)
    hsections
  have hescalation := escalation_injective hleft.escalation hright.escalation hsections
  unfold SameBody
  rw [← policyFixedParts_injective hleft hright hfixed, ← hcoverage,
    ← ExtTreeMap.toList_inj.mp htolerance, ← ExtTreeMap.toList_inj.mp hdomain, ← hescalation]

/-! ## Comparing digests -/

/-- Two byte strings are a collision of the hash. -/
def Collision (sha256 : Sha256) (left right : List UInt8) : Prop :=
  left ≠ right ∧ sha256.hash left = sha256.hash right

instance (sha256 : Sha256) (left right : List UInt8) : Decidable (Collision sha256 left right) :=
  inferInstanceAs (Decidable (_ ∧ _))

theorem hexDigit_injective {left right : Nat} (hleft : left < 16) (hright : right < 16)
    (h : Text.hexDigit left = Text.hexDigit right) : left = right := by
  have hall : ∀ left right : Fin 16, Text.hexDigit left = Text.hexDigit right → left = right := by
    decide
  exact congrArg Fin.val (hall ⟨left, hleft⟩ ⟨right, hright⟩ h)

theorem hexBytes_injective : Function.Injective Text.hexBytes := by
  intro left
  induction left with
  | nil =>
    intro right h
    cases right with
    | nil => rfl
    | cons byte rest => cases h
  | cons byte rest ih =>
    intro right h
    cases right with
    | nil => cases h
    | cons other more =>
      simp only [Text.hexBytes, List.cons.injEq] at h
      have hbyte := byte.toNat_lt
      have hother := other.toNat_lt
      have hupper := hexDigit_injective (by omega) (by omega) h.1
      have hlower := hexDigit_injective (by omega) (by omega) h.2.1
      obtain rfl : byte = other := UInt8.toNat_inj.mp (by omega)
      rw [ih h.2.2]

theorem transcript_or_collision {sha256 : Sha256} {left right : ReliancePolicyV1}
    (h : left.semanticDigest sha256 = right.semanticDigest sha256) :
    policyTranscript left = policyTranscript right ∨
      Collision sha256 (policyTranscript left) (policyTranscript right) := by
  rw [semanticDigest_eq, semanticDigest_eq] at h
  have hbytes := congrArg (fun digest : DigestV1 => digest.text.bytes) h
  have hhash := hexBytes_injective (List.append_cancel_left hbytes)
  by_cases hsame : policyTranscript left = policyTranscript right
  · exact .inl hsame
  · exact .inr ⟨hsame, hhash⟩

/-- The transcript of a policy determines its body; so policies with one digest have one body or
are a collision, and a generation whose recorded digest is that of another policy of the same
generation is found to be rebound. -/
theorem policy_body_identified {left right : ReliancePolicyV1} (hleft : PolicyWellTyped left)
    (hright : PolicyWellTyped right) :
    (policyTranscript left = policyTranscript right → SameBody left right) ∧
    (∀ sha256 : Sha256, left.semanticDigest sha256 = right.semanticDigest sha256 →
      SameBody left right ∨ Collision sha256 (policyTranscript left) (policyTranscript right)) ∧
    ∀ (host : Host) (cycle : Cycle),
      cycle.historicalPolicyBodies[policyBodyKey right]? =
        some (left.semanticDigest host.sha256) →
      left.generation = right.generation → left ≠ right →
      ¬Collision host.sha256 (policyTranscript left) (policyTranscript right) →
      cycle.policyRebound host right = true := by
  have hbody := sameBody_of_transcript hleft hright
  refine ⟨hbody, fun sha256 h => (transcript_or_collision h).imp_left hbody, ?_⟩
  intro host cycle hrecorded hgeneration hdifferent hcollision
  have hdigest : left.semanticDigest host.sha256 ≠ right.semanticDigest host.sha256 := by
    intro h
    have hsame := hbody ((transcript_or_collision h).resolve_right hcollision)
    rw [SameBody, ← hgeneration] at hsame
    exact hdifferent hsame
  rw [Cycle.policyRebound, hrecorded]
  simpa using hdigest

section Rebound

open Reference (host current)

/-- The policy of the display with another scope under the same generation. -/
def reboundPolicy : ReliancePolicyV1 := { Reference.policy "display" with scope := "other" }

theorem policyWellTyped_display : PolicyWellTyped (Reference.policy "display") :=
  ⟨by decide +kernel, by decide +kernel, by decide +kernel, by decide +kernel,
    by rintro _ ⟨⟩; exact ⟨by decide, by decide, by decide, by decide, by decide⟩,
    by decide +kernel⟩

theorem policyWellTyped_rebound : PolicyWellTyped reboundPolicy :=
  ⟨by decide +kernel, by decide +kernel, by decide +kernel, by decide +kernel,
    by rintro _ ⟨⟩; exact ⟨by decide, by decide, by decide, by decide, by decide⟩,
    by decide +kernel⟩

/-- In a running deployment the second body under one generation is found. -/
theorem policy_body_identified_current : current.policyRebound host reboundPolicy = true :=
  (policy_body_identified policyWellTyped_display policyWellTyped_rebound).2.2 host current
    (by decide +kernel) rfl
    (fun h => absurd (congrArg ReliancePolicyV1.scope h) (by decide +kernel)) (by decide +kernel)

end Rebound

end ConstellationMonitor.Runtime

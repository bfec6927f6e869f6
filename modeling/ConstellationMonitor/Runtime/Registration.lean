/-
  Registering a consumer, and what a registration that fails leaves behind.

  `register_consumer` checks the registration, enters the consumer in four tables and
  records its first context before the first certificate is built.  That certificate has
  rules of its own: a scope that is an identity, a bounded number of missing premises.  A
  registration that passes the checks and breaks one of those rules is half done.
-/
import ConstellationMonitor.Runtime.Reference

namespace ConstellationMonitor.Evaluation

open Foundation ConstellationMonitor.Types

namespace Evaluator

/-! ## The first evaluation -/

/-- An evaluator that has admitted nothing and has not been evaluated. -/
structure Bare (evaluator : Evaluator) : Prop where
  observers : evaluator.observers = ∅
  contradictions : evaluator.contradictions = ∅
  diagnosticEvidence : evaluator.diagnosticEvidence = []
  monitorCapability : evaluator.monitorCapability = .operational
  lastEvaluationMs : evaluator.lastEvaluationMs = none

section Bare

variable {evaluator : Evaluator}

theorem relevantEvidence_of_empty (h : evaluator.observers = ∅) :
    evaluator.relevantEvidence = [] := by
  have hvalues : evaluator.observers.values = [] := by
    rw [h]
    rfl
  simp [relevantEvidence, hvalues]

theorem eligibleFresh_of_empty (h : evaluator.observers = ∅) (now : Nat) :
    evaluator.eligibleFresh now = [] := by
  simp [eligibleFresh, relevantEvidence_of_empty h]

theorem activeContradictionIds_of_empty (h : evaluator.contradictions = ∅) :
    evaluator.activeContradictionIds = [] := by
  have hvalues : evaluator.contradictions.values = [] := by
    rw [h]
    rfl
  simp [activeContradictionIds, hvalues]

/-- Without evidence every required tag is missing. -/
theorem coverageSummary_nil_missing (positive : 0 < evaluator.policy.minimumObservers) :
    (evaluator.coverageSummary [] []).missing = evaluator.policy.requiredCoverage := by
  have hnone : ∀ tag, countU32 (domainCountForTag [] tag evaluator.policy.observerFailureDomains)
      = 0 := fun tag => by
    rfl
  simp only [coverageSummary, hnone]
  exact List.filter_eq_self.mpr fun tag _ => by simpa using positive.ne'

theorem hotState_of_bare (bare : evaluator.Bare) (atMs : Nat) :
    evaluator.hotState atMs = evaluator.expireRecords atMs ∧
      evaluator.evaluationTime atMs = atMs := by
  unfold hotState evaluationTime guardClock
  rw [bare.lastEvaluationMs]
  exact ⟨rfl, rfl⟩

/-- The reasons of a first evaluation behind a barrier. -/
def initialReasons (barrier : ReevaluationBarrierV1) : List Text :=
  [ barrier.code, "no_evidence", "coverage_incomplete", "observer_availability_insufficient" ]

/-- What is derived without evidence and without contradictions. -/
theorem derive_of_empty (observers : evaluator.observers = ∅)
    (contradictions : evaluator.contradictions = ∅)
    (positive : 0 < evaluator.policy.minimumObservers) (now : Nat) :
    (evaluator.derive now).coverage = evaluator.coverageSummary [] [] ∧
      (evaluator.derive now).activeContradictions = [] ∧
      (evaluator.derive now).violationEvidenceRefs = [] ∧
      (evaluator.derive now).dimensions.freshness = .noEvidence ∧
      (evaluator.derive now).dimensions.observerAvailability = .unavailable ∧
      (evaluator.derive now).dimensions.provenance = .unknown ∧
      (evaluator.derive now).dimensions.sequenceContinuity = .unknown := by
  have hdomains : (uniqueDomains [] evaluator.policy.observerFailureDomains).size = 0 := rfl
  simp [derive, relevantEvidence_of_empty observers, eligibleFresh_of_empty observers,
    activeContradictionIds_of_empty contradictions, hdomains, freshnessDimension,
    continuityDimension, provenanceDimension, positive.ne']

/-- What a first evaluation behind a barrier says. -/
theorem evaluate_bare (bare : evaluator.Bare) {barrier : ReevaluationBarrierV1}
    (barred : evaluator.reevaluationBarrier = some barrier)
    (valid : evaluator.policy.validate = .ok ()) (platform : Platform) (atMs : Nat) :
    (evaluator.evaluate platform atMs).1.judgment.coverage.missing =
        evaluator.policy.requiredCoverage ∧
      (evaluator.evaluate platform atMs).1.judgment.explanation.reasons.map
        JudgmentReasonV1.code = initialReasons barrier := by
  obtain ⟨hpositive, hrequired⟩ := validate_support valid
  obtain ⟨hhot, htime⟩ := hotState_of_bare bare atMs
  have hobservers : (evaluator.expireRecords atMs).observers = ∅ := bare.observers
  have hcontradictions : (evaluator.expireRecords atMs).contradictions = ∅ := bare.contradictions
  obtain ⟨hcoverage, hactive, hviolations, hfreshness, havailability, hprovenance, hcontinuity⟩ :=
    derive_of_empty hobservers hcontradictions hpositive atMs
  have hmissing : ((evaluator.expireRecords atMs).coverageSummary [] []).missing =
      evaluator.policy.requiredCoverage := coverageSummary_nil_missing hpositive
  have hbarred : (evaluator.expireRecords atMs).reevaluationBarrier = some barrier := barred
  have hmonitor : (evaluator.expireRecords atMs).monitorCapability = .operational :=
    bare.monitorCapability
  have hreceipts : (evaluator.expireRecords atMs).diagnosticEvidence = [] := by
    simp [expireRecords, bare.diagnosticEvidence]
  have hderived : (evaluator.expireRecords atMs).deriveBarred atMs =
      { (evaluator.expireRecords atMs).derive atMs with
        category := .unknown, supportDeadlineMs := none } := by
    rw [deriveBarred, hbarred]
    rfl
  have hformed : (evaluator.evaluate platform atMs).1.judgment.coverage =
        ((evaluator.expireRecords atMs).deriveBarred atMs).coverage ∧
      (evaluator.evaluate platform atMs).1.judgment.explanation =
        explanationFor ((evaluator.expireRecords atMs).deriveBarred atMs)
          (evaluator.expireRecords atMs).monitorCapability
          (evaluator.expireRecords atMs).diagnosticEvidence.length
          (evaluator.expireRecords atMs).reevaluationBarrier := by
    rw [evaluate_judgment, formedJudgment, derivation, hhot, htime]
    exact ⟨rfl, rfl⟩
  rw [hformed.1, hformed.2, hderived, hmonitor, hreceipts, hbarred]
  refine ⟨by rw [hcoverage, hmissing], ?_⟩
  simp [explanationFor, collectedReasons, hcoverage, hmissing, hactive, hviolations, hfreshness,
    havailability, hprovenance, hcontinuity, hrequired, freshnessReasons, provenanceReasons,
    continuityReasons, monitorReasons, plainReason, initialReasons]

end Bare

end Evaluator

end ConstellationMonitor.Evaluation

namespace ConstellationMonitor.Runtime

open Foundation Foundation.Program ConstellationMonitor.Types Evaluation

/-! ## The first certificate -/

/-- A certificate named by its transcript that rests on nothing and is not CURRENT. -/
structure Blank (platform : Platform) (certificate : RelianceSupportCertificateV1) : Prop where
  schemaVersion : certificate.schemaVersion = schemaVersionV1
  certificateId : certificate.certificateId = certificate.computeId platform
  evidence : certificate.supportingEvidenceIds = []
  custody : certificate.remoteObservationCustody = []
  contradictions : certificate.applicableContradictions = []
  sorted : strictlySorted certificate.missingPremises = true
  judgment : certificate.judgment ≠ .current
  expiry : certificate.earliestSupportExpiryMonotonicMs = none
  reevaluation : certificate.nextScheduledReevaluationMonotonicMs = none

/-- The transcript does not name the certificate. -/
theorem computeId_named (platform : Platform) (draft : RelianceSupportCertificateV1)
    (named : SupportCertificateId) :
    ({ draft with certificateId := named } : RelianceSupportCertificateV1).computeId platform =
      draft.computeId platform := rfl

theorem Blank.validate_eq_ok {platform : Platform} {certificate : RelianceSupportCertificateV1}
    (blank : Blank platform certificate) :
    certificate.validate platform = .ok () ↔ certificate.consumer.validate = .ok () ∧
      certificate.subjectScope.validate = .ok () ∧ certificate.context.validate = .ok () ∧
      certificate.validateBinding = .ok () ∧
      certificate.missingPremises.length ≤ maxCertificateMissingPremises := by
  have hidentity : certificate.certificateId.validate = .ok () := by
    rw [blank.certificateId, Identity.validate_eq_ok]
    exact validIdentity_digestParts _ _ _ (by decide +kernel) (by decide +kernel)
  have hsupport : certificate.validateSupport = .ok () := by
    simp [RelianceSupportCertificateV1.validateSupport, blank.judgment, blank.expiry,
      blank.reevaluation]
  simp [RelianceSupportCertificateV1.validate, blank.schemaVersion, hidentity, hsupport,
    blank.evidence, blank.custody, blank.contradictions, blank.sorted, ← blank.certificateId,
    strictlySorted]

/-- An UNKNOWN evaluation without evidence and contradictions has a blank certificate. -/
theorem blank_supportCertificate (platform : Platform) (core : RuntimeCore) (key : ConsumerKey)
    {state : ConsumerState} {evaluation : EvaluationOutput} {atMs : Nat}
    (binding : Option QualifiedGenerationBindingV1) (evidence : state.evidenceIds atMs = [])
    (contradictions : state.contradictionIds = [])
    (unknown : evaluation.judgment.category = .unknown) :
    Blank platform (core.supportCertificate platform key state evaluation atMs binding) := by
  have hcertified : certifiedJudgment evaluation binding ≠ .current := by
    simp [certifiedJudgment, unknown]
  have hcustody : core.namedCustody platform evaluation.judgment.subjectScope
      (state.evidenceIds atMs) = [] := by
    simp [RuntimeCore.namedCustody, sortDedupBy, evidence]
    rfl
  exact
    { schemaVersion := rfl
      certificateId := (computeId_named platform _ _).symm
      evidence := evidence
      custody := hcustody
      contradictions := contradictions
      sorted := strictlySorted_sortDedup _
      judgment := hcertified
      expiry := if_neg hcertified
      reevaluation := if_neg hcertified }

section Fields

variable (platform : Platform) (core : RuntimeCore) (key : ConsumerKey) (state : ConsumerState)
  (evaluation : EvaluationOutput) (atMs : Nat) (binding : Option QualifiedGenerationBindingV1)

theorem supportCertificate_consumer :
    (core.supportCertificate platform key state evaluation atMs binding).consumer =
      key.consumer := rfl

theorem supportCertificate_subjectScope :
    (core.supportCertificate platform key state evaluation atMs binding).subjectScope =
      evaluation.judgment.subjectScope := rfl

theorem supportCertificate_qualifiedGeneration :
    (core.supportCertificate platform key state evaluation atMs binding).qualifiedGeneration =
      binding := rfl

theorem supportCertificate_missingPremises :
    (core.supportCertificate platform key state evaluation atMs binding).missingPremises =
      core.missingPremises key evaluation binding := rfl

end Fields

/-- A described binding was accepted as valid, and is for the consumer and context it is described
for, so a certificate may name it. -/
theorem validateBinding_described {core : RuntimeCore} {key : ConsumerKey}
    {certificate : RelianceSupportCertificateV1} (consumer : certificate.consumer = key.consumer)
    (subject : certificate.subjectScope.subject = key.subject)
    (described : certificate.qualifiedGeneration =
      core.descriptiveQualifiedBinding key certificate.context) :
    certificate.validateBinding = .ok () := by
  unfold RelianceSupportCertificateV1.validateBinding
  rw [described, consumer, subject]
  cases hbinding : core.descriptiveQualifiedBinding key certificate.context with
  | none => rfl
  | some binding =>
    obtain ⟨slot, -, hslot⟩ := Option.bind_eq_some_iff.mp hbinding
    split at hslot
    · cases hslot
    · obtain ⟨haccepted, hmatches⟩ := Option.filter_eq_some_iff.mp hslot
      obtain ⟨accepted, -, rfl⟩ := Option.map_eq_some_iff.mp haccepted
      simp only [bindingMatches, Bool.and_eq_true, decide_eq_true_eq] at hmatches
      simp [hmatches, accepted.bindingValid]

/-- How many premises a first evaluation misses besides its coverage. -/
theorem length_initialReasons (barrier : ReevaluationBarrierV1) :
    (Evaluator.initialReasons barrier).length = 4 := rfl

/-- The premises missing at registration are told apart. -/
theorem nodup_initialPremises {tags : List Text} (nodup : tags.Nodup) :
    (Evaluator.initialReasons registrationBarrier ++
      tags.map fun tag : Text => "coverage:" ++ tag).Nodup := by
  have hcodes : (Evaluator.initialReasons registrationBarrier).Nodup := by decide +kernel
  have hinjective : Function.Injective fun tag : Text => Text.ofString "coverage:" ++ tag := by
    intro left right h
    have hbytes := congrArg Text.bytes h
    rw [Text.bytes_append, Text.bytes_append, List.append_cancel_left_eq] at hbytes
    cases left
    cases right
    exact congrArg Text.mk hbytes
  -- no code starts with the bytes every coverage premise starts with
  have hstart : ∀ code ∈ Evaluator.initialReasons registrationBarrier,
      ¬(Text.ofString "coverage:").bytes <+: code.bytes := by decide +kernel
  refine List.nodup_append.mpr ⟨hcodes, nodup.map hinjective, fun code hcode premise hpremise => ?_⟩
  obtain ⟨tag, -, rfl⟩ := List.mem_map.mp hpremise
  rintro rfl
  exact hstart _ hcode (List.prefix_append _ _)

/-- What a first certificate needs beyond the checks of the registration: a scope that is an
identity, and few enough coverage tags. -/
structure Certifiable (registration : ConsumerRegistrationV1) : Prop where
  scope : ValidIdentity registration.policy.scope
  coverage : registration.policy.requiredCoverage.length + 4 ≤ maxCertificateMissingPremises

/-- The evaluator of a registration behind its barrier. -/
def RuntimeCore.barredEvaluator (core : RuntimeCore) (registration : ConsumerRegistrationV1) :
    Evaluator :=
  (Evaluator.initial registration.policy core.config.receiver core.config.receiverIncarnation
    core.config.clockId registration.subjectIncarnation).raiseBarrier registrationBarrier

/-- The first evaluation of a registration. -/
def RuntimeCore.firstEvaluation (platform : Platform) (core : RuntimeCore)
    (registration : ConsumerRegistrationV1) (atMs : Nat) : EvaluationOutput × Evaluator :=
  (core.barredEvaluator registration).evaluate platform atMs

/-- The state of a consumer after its first evaluation. -/
def RuntimeCore.firstState (platform : Platform) (core : RuntimeCore)
    (registration : ConsumerRegistrationV1) (atMs : Nat) : ConsumerState :=
  initialState registration (core.firstEvaluation platform registration atMs).2

section FirstCertificate

variable (platform : Platform) (core : RuntimeCore) (registration : ConsumerRegistrationV1)
  (atMs : Nat)

theorem bare_barredEvaluator : (core.barredEvaluator registration).Bare :=
  ⟨rfl, rfl, rfl, rfl, rfl⟩

theorem firstEvaluation_category :
    (core.firstEvaluation platform registration atMs).1.judgment.category = .unknown :=
  Evaluator.evaluate_category_of_barrier _ _ _ rfl

theorem firstEvaluation_scope :
    (core.firstEvaluation platform registration atMs).1.judgment.subjectScope =
      ⟨registration.policy.subject, registration.subjectIncarnation,
        registration.policy.scope⟩ := rfl

theorem firstState_evidenceIds (at' : Nat) :
    (core.firstState platform registration atMs).evidenceIds at' = [] := by
  have hobservers : (core.firstState platform registration atMs).evaluator.observers = ∅ :=
    (Evaluator.retains_evaluate platform atMs (core.barredEvaluator registration)).observers
  rw [ConsumerState.evidenceIds, Evaluator.supportingEvidenceRefs,
    Evaluator.eligibleFresh_of_empty hobservers]
  rfl

theorem firstState_contradictionIds :
    (core.firstState platform registration atMs).contradictionIds = [] := by
  have hcontradictions : (core.firstState platform registration atMs).evaluator.contradictions =
      ∅ :=
    (Evaluator.retains_evaluate platform atMs (core.barredEvaluator registration)).contradictions
  rw [ConsumerState.contradictionIds, Evaluator.activeContradictionIds_of_empty hcontradictions]
  rfl

/-- The premises a first certificate misses. -/
theorem length_firstPremises {registration : ConsumerRegistrationV1}
    (valid : registration.policy.validate = .ok ()) (key : ConsumerKey) (ground : RuntimeCore)
    (binding : Option QualifiedGenerationBindingV1) :
    (ground.missingPremises key (core.firstEvaluation platform registration atMs).1
      binding).length = registration.policy.requiredCoverage.length + 4 := by
  have hcategory := firstEvaluation_category platform core registration atMs
  obtain ⟨hmissing, hreasons⟩ := Evaluator.evaluate_bare
    (bare_barredEvaluator core registration) (show _ = some registrationBarrier from rfl) valid
    platform atMs
  have hcertified : certifiedJudgment (core.firstEvaluation platform registration atMs).1
      binding ≠ .current := by
    unfold certifiedJudgment
    rw [hcategory]
    simp
  have hnamed : (Evaluator.initialReasons registrationBarrier).filter
      (fun code : Text => decide (code ≠ "named_reliance_conditions_satisfied")) =
        Evaluator.initialReasons registrationBarrier := by decide +kernel
  have hsorted : registration.policy.requiredCoverage.Nodup := by
    simp only [ReliancePolicyV1.validate, check_bind_eq_ok, refuseIf_eq_ok,
      Bool.not_eq_false'] at valid
    exact nodup_of_pairwise_lt (strictlySorted_iff_pairwise.mp valid.2.2.2.2.2.2.2.2.2.2.1)
  unfold RuntimeCore.missingPremises
  simp only [hcertified, if_false, hcategory, reduceCtorEq, false_and, List.append_nil]
  unfold RuntimeCore.firstEvaluation
  have hpolicy : (core.barredEvaluator registration).policy = registration.policy := rfl
  rw [hreasons, hnamed, hmissing, hpolicy, length_sortDedup (nodup_initialPremises hsorted),
    List.length_append, List.length_map, length_initialReasons, Nat.add_comm]

/-- A first certificate is valid exactly if the registration is certifiable. -/
theorem firstCertificate_validate {registration : ConsumerRegistrationV1}
    (valid : registration.validate platform.sha256 = .ok ()) (ground : RuntimeCore) :
    (ground.supportCertificate platform (policyKey registration.policy)
        (core.firstState platform registration atMs)
        (core.firstEvaluation platform registration atMs).1 atMs
        (ground.descriptiveQualifiedBinding (policyKey registration.policy)
          registration.context)).validate platform = .ok () ↔ Certifiable registration := by
  simp only [ConsumerRegistrationV1.validate, check_bind_eq_ok, mapError_eq_ok,
    validatePolicyContext] at valid
  obtain ⟨hpolicy, hincarnation, hcontext, -⟩ := valid
  have hidentities := hpolicy
  simp only [ReliancePolicyV1.validate, check_bind_eq_ok, mapError_eq_ok] at hidentities
  obtain ⟨-, hsubject, hconsumer, -⟩ := hidentities
  have hblank := blank_supportCertificate platform ground (policyKey registration.policy)
    (ground.descriptiveQualifiedBinding (policyKey registration.policy) registration.context)
    (firstState_evidenceIds platform core registration atMs atMs)
    (firstState_contradictionIds platform core registration atMs)
    (firstEvaluation_category platform core registration atMs)
  rw [hblank.validate_eq_ok]
  have hscope := firstEvaluation_scope platform core registration atMs
  have hpremises := length_firstPremises platform core atMs hpolicy (policyKey registration.policy)
    ground (ground.descriptiveQualifiedBinding (policyKey registration.policy) registration.context)
  have hcontexts : (core.firstState platform registration atMs).context = registration.context :=
    rfl
  rw [validateBinding_described (supportCertificate_consumer ..)
    ((congrArg SubjectScopeV1.subject (supportCertificate_subjectScope ..)).trans
      (congrArg SubjectScopeV1.subject hscope))
    ((supportCertificate_qualifiedGeneration ..).trans
      (by rw [supportCertificate_context, hcontexts])),
    supportCertificate_consumer, supportCertificate_subjectScope, supportCertificate_context,
    supportCertificate_missingPremises, hscope, hpremises, hcontexts]
  simp only [SubjectScopeV1.validate, check_bind_eq_ok, validateIdentity_eq_ok]
  constructor
  · rintro ⟨-, ⟨-, -, hvalid⟩, -, -, hlength⟩
    exact ⟨hvalid, hlength⟩
  · rintro ⟨hvalid, hlength⟩
    exact ⟨hconsumer, ⟨hsubject, hincarnation, hvalid⟩, hcontext, trivial, hlength⟩

end FirstCertificate

/-! ## The tables of a registration -/

/-- The tables and the history a registration writes are the same. -/
structure SameTables (before after : Cycle) : Prop where
  consumers : after.consumers = before.consumers := by rfl
  subjects : after.subjects = before.subjects := by rfl
  historicalActivationIds : after.historicalActivationIds = before.historicalActivationIds := by rfl
  historicalPolicyBodies : after.historicalPolicyBodies = before.historicalPolicyBodies := by rfl
  schedules : after.schedules = before.schedules := by rfl
  sparseHistory : after.sparseHistory = before.sparseHistory := by rfl

theorem SameTables.refl (cycle : Cycle) : SameTables cycle cycle := {}

/-- The state in which a registration is checked. -/
def Cycle.opened (atMs : Nat) (cycle : Cycle) : Cycle :=
  { cycle.beginCall with currentMonotonicMs := atMs }

/-- A registration that passes every check `register_consumer` makes before it writes. -/
structure Admitted (host : Host) (registration : ConsumerRegistrationV1) (atMs : Nat)
    (cycle : Cycle) : Prop where
  unexhausted : cycle.historyExhausted = false
  later : cycle.currentMonotonicMs ≤ atMs
  valid : registration.validate host.sha256 = .ok ()
  checked : checkRegistration host registration (cycle.opened atMs) = .ok () (cycle.opened atMs)
  made : ∃ evaluator, cycle.newEvaluator registration = .ok evaluator

/-- What a call leaves if it only finds its time regressed: every consumer is latched. -/
def Cycle.afterRegression (host : Host) (atMs : Nat) (cycle : Cycle) : Cycle :=
  if cycle.historyExhausted = false ∧ atMs < cycle.currentMonotonicMs then
    cycle.beginCall.latchBlindAll host cycle.currentMonotonicMs
      "runtime management time regressed within one clock generation"
  else cycle

section Tables

variable {host : Host} {registration : ConsumerRegistrationV1} {atMs : Nat} {cycle : Cycle}

theorem checkRegistration_cases (host : Host) (registration : ConsumerRegistrationV1)
    (cycle : Cycle) : checkRegistration host registration cycle = .ok () cycle ∨
      ∃ stop next, checkRegistration host registration cycle = .error stop next ∧
        SameTables cycle next := by
  unfold checkRegistration
  rw [get_bind_apply]
  repeat' split
  all_goals first
    | exact .inl rfl
    | exact .inr ⟨_, _, rfl, {}⟩

/-- Issuing an UNKNOWN certificate only describes the binding. -/
theorem issueCertificate_unknown {key : ConsumerKey} {state : ConsumerState}
    {evaluation : EvaluationOutput} (unknown : evaluation.judgment.category = .unknown) :
    issueCertificate host key state evaluation atMs cycle =
      match (cycle.supportCertificate host.toPlatform key state evaluation atMs
        (cycle.descriptiveQualifiedBinding key state.context)).validate host.toPlatform with
      | .error error => .error (.error ⟨error.code, error.detail⟩) cycle
      | .ok _ => .ok () (cycle.storeCertificate host key state
          (cycle.supportCertificate host.toPlatform key state evaluation atMs
            (cycle.descriptiveQualifiedBinding key state.context)) atMs) := by
  have hgeneration : qualifiedGeneration host key state evaluation atMs cycle =
      .ok (cycle.descriptiveQualifiedBinding key state.context) cycle := by
    unfold qualifiedGeneration
    rw [if_neg (by simp [unknown])]
    rfl
  unfold issueCertificate
  rw [bind_apply, hgeneration]
  simp only [get_bind_apply]
  split <;> rename_i h <;> simp only [h] <;> rfl

theorem failIfExhausted_apply (detail : Text) (cycle : Cycle) : failIfExhausted detail cycle =
      if cycle.historyExhausted then .error (.error ⟨"sparse_history_capacity", detail⟩) cycle
      else .ok () cycle := by
  unfold failIfExhausted
  rw [get_bind_apply]
  split <;> rfl

theorem ensureTimeNotRegressed_apply (host : Host) (atMs : Nat) (cycle : Cycle) :
    ensureTimeNotRegressed host atMs cycle = if atMs < cycle.currentMonotonicMs then
        .error (.error ⟨"clock_regression", "runtime operation time regressed"⟩)
          (cycle.latchBlindAll host cycle.currentMonotonicMs
            "runtime management time regressed within one clock generation")
      else .ok () { cycle with currentMonotonicMs := atMs } := by
  unfold ensureTimeNotRegressed
  rw [get_bind_apply]
  split <;> rfl

/-- A registration in its time is checked in the opened state. -/
theorem registerConsumer_apply (unexhausted : cycle.beginCall.historyExhausted = false)
    (later : ¬atMs < cycle.beginCall.currentMonotonicMs) :
    registerConsumer host registration atMs cycle =
      registerInTime host registration atMs (cycle.opened atMs) := by
  unfold registerConsumer
  rw [modify_bind_apply, bind_apply, failIfExhausted_apply, if_neg (by simp [unexhausted])]
  dsimp only
  rw [bind_apply, ensureTimeNotRegressed_apply, if_neg later]
  rfl

/-- The state with the consumer in its tables, as its first evaluation left it. -/
def Cycle.seated (host : Host) (registration : ConsumerRegistrationV1) (evaluator : Evaluator)
    (atMs : Nat) (cycle : Cycle) : Cycle :=
  let key := policyKey registration.policy
  let enrolled := (cycle.opened atMs).enrol host registration evaluator
  ((enrolled.mark (.visit · (.at key (.barrier registrationBarrier) atMs))).removeConsumer
    key).putConsumer key (cycle.firstState host.toPlatform registration atMs)

/-- The state in which the first evaluation of a registration is applied. -/
def Cycle.entered (host : Host) (registration : ConsumerRegistrationV1) (evaluator : Evaluator)
    (atMs : Nat) (cycle : Cycle) : Cycle :=
  (cycle.seated host registration evaluator atMs).recordContextTransition host
    (policyKey registration.policy) none registration.context .initialActivation
    registration.subjectIncarnation atMs

/-- A registration that passes the checks goes on to apply its first evaluation. -/
theorem registerConsumer_of_admitted (admitted : Admitted host registration atMs cycle)
    {evaluator : Evaluator} (made : cycle.newEvaluator registration = .ok evaluator) :
    registerConsumer host registration atMs cycle =
      (applyEvaluation host (policyKey registration.policy)
        (cycle.firstEvaluation host.toPlatform registration atMs).1 atMs >>= fun _ => do
          return (← get).output) (cycle.entered host registration evaluator atMs) := by
  have hunexhausted : cycle.beginCall.historyExhausted = false := admitted.unexhausted
  have hlater : ¬atMs < cycle.beginCall.currentMonotonicMs := not_lt.mpr admitted.later
  have hmade : (cycle.opened atMs).newEvaluator registration = .ok evaluator := made
  obtain rfl := Evaluator.new_eq_ok made
  rw [registerConsumer_apply hunexhausted hlater, registerInTime, bind_apply, admitted.valid]
  show (checkRegistration host registration >>= _) (cycle.opened atMs) = _
  rw [bind_apply, admitted.checked]
  dsimp only
  rw [get_bind_apply, hmade]
  rfl

/-- A registration that does not pass the checks writes none of the tables. -/
theorem registerConsumer_of_not_admitted (refused : ¬Admitted host registration atMs cycle) :
    ∃ stop next, registerConsumer host registration atMs cycle = .error stop next ∧
      SameTables (cycle.afterRegression host atMs) next := by
  by_cases hexhausted : cycle.historyExhausted = true
  · have hregression : cycle.afterRegression host atMs = cycle := by
      simp [Cycle.afterRegression, hexhausted]
    have hopened : cycle.beginCall.historyExhausted = true := hexhausted
    rw [hregression]
    unfold registerConsumer
    rw [modify_bind_apply, bind_apply, failIfExhausted_apply, if_pos hopened]
    exact ⟨_, _, rfl, {}⟩
  · have hunexhausted : cycle.beginCall.historyExhausted = false :=
      Bool.eq_false_iff.mpr hexhausted
    by_cases hregressed : atMs < cycle.beginCall.currentMonotonicMs
    · have hregression : cycle.afterRegression host atMs = cycle.beginCall.latchBlindAll host
          cycle.beginCall.currentMonotonicMs
          "runtime management time regressed within one clock generation" :=
        if_pos ⟨hunexhausted, hregressed⟩
      rw [hregression]
      unfold registerConsumer
      rw [modify_bind_apply, bind_apply, failIfExhausted_apply, if_neg (by simp [hunexhausted])]
      dsimp only
      rw [bind_apply, ensureTimeNotRegressed_apply, if_pos hregressed]
      exact ⟨_, _, rfl, .refl _⟩
    · have hregression : cycle.afterRegression host atMs = cycle :=
        if_neg fun h => hregressed h.2
      rw [hregression, registerConsumer_apply hunexhausted hregressed, registerInTime,
        bind_apply]
      cases hvalid : registration.validate host.sha256 with
      | error error => exact ⟨_, _, rfl, {}⟩
      | ok =>
        show ∃ stop next, (checkRegistration host registration >>= _) (cycle.opened atMs) =
          .error stop next ∧ SameTables cycle next
        rcases checkRegistration_cases host registration (cycle.opened atMs) with
          hchecked | ⟨stop, next, hchecked, hsame⟩
        · rw [bind_apply, hchecked]
          dsimp only
          rw [get_bind_apply]
          cases hmade : (cycle.opened atMs).newEvaluator registration with
          | error error => exact ⟨_, _, rfl, {}⟩
          | ok evaluator =>
            exact absurd ⟨hunexhausted, not_lt.mp hregressed, hvalid, hchecked, evaluator,
              hmade⟩ refused
        · rw [bind_apply, hchecked]
          exact ⟨stop, next, rfl, hsame.consumers, hsame.subjects,
            hsame.historicalActivationIds, hsame.historicalPolicyBodies, hsame.schedules,
            hsame.sparseHistory⟩

end Tables

/-! ## What bookkeeping keeps of the activations -/

namespace Cycle

variable (host : Host) (cycle : Cycle)

theorem recordSparse_activations (atMs : Nat) (event : SparseDurableEventKindV1) :
    (cycle.recordSparse host atMs event).historicalActivationIds =
      cycle.historicalActivationIds := by
  unfold recordSparse refuseSparse
  split
  · dsimp only
    split <;> rfl
  · rfl

theorem recordEvents_activations (events : List SparseDurableEventV1) :
    (cycle.recordEvents host events).historicalActivationIds = cycle.historicalActivationIds := by
  let same := fun next : Cycle => next.historicalActivationIds = cycle.historicalActivationIds
  exact List.foldlRecOn (motive := same) _ _ rfl
    fun next h _ _ => (recordSparse_activations _ _ _ _).trans h

theorem carryOut_activations (key : ConsumerKey) (atMs : Nat) (dispatch : Dispatch) :
    (cycle.carryOut host key atMs dispatch).historicalActivationIds =
      cycle.historicalActivationIds := by
  cases dispatch with
  | idle => rfl
  | suppressed => rfl
  | refused => exact recordSparse_activations host _ _ _
  | pushed request => rfl

theorem withdrawn_activations (key : ConsumerKey) (evaluation : EvaluationOutput) (atMs : Nat) :
    (cycle.withdrawn host key evaluation atMs).historicalActivationIds =
      cycle.historicalActivationIds := by
  have hsettled : ((cycle.recordEvents host evaluation.sparseEvents).carryOut host key atMs
      (cycle.dispatch key evaluation)).historicalActivationIds = cycle.historicalActivationIds := by
    rw [carryOut_activations, recordEvents_activations]
  rw [← hsettled]
  show (accountDueScheduleBeforeCancellation key atMs _).historicalActivationIds = _
  unfold accountDueScheduleBeforeCancellation
  dsimp only
  split <;> rfl

end Cycle

/-! ## A registration that passes the checks -/

section Entered

variable {host : Host} {registration : ConsumerRegistrationV1} {atMs : Nat} {cycle : Cycle}
  {evaluator : Evaluator}

theorem entered_board : ∃ full, (cycle.entered host registration evaluator atMs).board =
    (cycle.seated host registration evaluator atMs).board.exhaust full :=
  Cycle.noted_recordContextTransition host _ _ _ _ _ _ _

theorem entered_found :
    (cycle.entered host registration evaluator atMs).consumers[policyKey registration.policy]? =
      some (cycle.firstState host.toPlatform registration atMs) := by
  obtain ⟨full, hboard⟩ := @entered_board host registration atMs cycle evaluator
  refine (congrArg (fun board : Board => board.consumers[policyKey registration.policy]?)
    hboard).trans ?_
  simp [Board.exhaust, Cycle.board, Cycle.seated, Cycle.putConsumer]

theorem mem_entered_activations (evaluation : EvaluationOutput) :
    registration.context.activationId ∈
      ((cycle.entered host registration evaluator atMs).withdrawn host
        (policyKey registration.policy) evaluation atMs).historicalActivationIds := by
  rw [Cycle.withdrawn_activations, Cycle.entered, Cycle.recordContextTransition,
    Cycle.recordSparse_activations]
  show registration.context.activationId ∈
    cycle.historicalActivationIds.insert registration.context.activationId
  simp

/-- The run of a registration that passes the checks turns on its first certificate. -/
theorem registerConsumer_admitted (admitted : Admitted host registration atMs cycle) :
    (Certifiable registration →
      ∃ output next, registerConsumer host registration atMs cycle = .ok output next) ∧
    (¬Certifiable registration →
      ∃ stop next, registerConsumer host registration atMs cycle = .error stop next ∧
        registration.context.activationId ∈ next.historicalActivationIds) := by
  obtain ⟨evaluator, hmade⟩ := admitted.made
  have hactivations := @mem_entered_activations host registration atMs cycle evaluator
    (cycle.firstEvaluation host.toPlatform registration atMs).1
  have hunknown := firstEvaluation_category host.toPlatform cycle.toRuntimeCore registration atMs
  have hevidence := firstState_evidenceIds host.toPlatform cycle.toRuntimeCore registration atMs
    atMs
  have hcontradictions := firstState_contradictionIds host.toPlatform cycle.toRuntimeCore
    registration atMs
  have hcertificate := firstCertificate_validate host.toPlatform cycle.toRuntimeCore atMs
    admitted.valid
  rw [registerConsumer_of_admitted admitted hmade, bind_apply,
    applyEvaluation_eq host _ _ _ atMs entered_found]
  generalize (cycle.entered host registration evaluator atMs).withdrawn host
    (policyKey registration.policy)
    (cycle.firstEvaluation host.toPlatform registration atMs).1 atMs = out at *
  have hwithin : out.overCertificateBound
      (cycle.firstState host.toPlatform registration atMs) atMs = false := by
    simp [RuntimeCore.overCertificateBound, hevidence, hcontradictions]
  have hcontext : (cycle.firstState host.toPlatform registration atMs).context =
      registration.context := rfl
  rw [hwithin, if_neg (by simp), issueCertificate_unknown hunknown, hcontext]
  constructor
  · intro hcertifiable
    rw [(hcertificate _).mpr hcertifiable]
    exact ⟨_, _, rfl⟩
  · intro huncertifiable
    cases hvalid : (out.supportCertificate host.toPlatform (policyKey registration.policy)
        (cycle.firstState host.toPlatform registration atMs)
        (cycle.firstEvaluation host.toPlatform registration atMs).1 atMs
        (out.descriptiveQualifiedBinding (policyKey registration.policy)
          registration.context)).validate host.toPlatform with
    | error error => exact ⟨_, _, rfl, hactivations⟩
    | ok => exact absurd ((hcertificate _).mp hvalid) huncertifiable

/-- The activation of a registration that passes the checks is new. -/
theorem Admitted.fresh (admitted : Admitted host registration atMs cycle) :
    registration.context.activationId ∉ cycle.historicalActivationIds := by
  have hchecked := admitted.checked
  unfold checkRegistration at hchecked
  rw [get_bind_apply] at hchecked
  intro hmem
  have hcontains : (cycle.opened atMs).historicalActivationIds.contains
      registration.context.activationId = true := hmem
  repeat' (split at hchecked)
  all_goals cases hchecked

end Entered

namespace Reference

/-- A policy whose scope is longer than an identity may be. -/
def wideScoped : ReliancePolicyV1 :=
  { policy "display" with scope := ⟨List.replicate 161 0x78⟩ }

/-- Its registration. -/
def wideRegistration : ConsumerRegistrationV1 where
  policy := wideScoped
  context := context wideScoped "a:display"
  subjectIncarnation := "i1"

/-- What a failed registration in a new runtime leaves: the activation and the policy body are
remembered, the subject names the consumer and the history has grown, but the consumer is not
registered. -/
def leavesTraces (registration : ConsumerRegistrationV1) (cycle : Cycle) : Bool :=
  match registerConsumer host registration 0 cycle with
  | .ok _ _ => false
  | .error _ next =>
    next.historicalActivationIds.contains registration.context.activationId &&
      next.historicalPolicyBodies.contains (policyBodyKey registration.policy) &&
      (next.subjects[registration.policy.subject]?.any fun subject =>
        subject.consumers.contains registration.policy.consumer) &&
      decide (next.sparseHistory.length = 2) && decide (next.consumers.size = 0)

end Reference

/-- A failed registration leaves the tables and the history as they were (but for the latch of a
regressed clock), in every state, exactly if the registration does not pass the early checks or
is certifiable: its scope is an identity, and its coverage tags and the four reasons of a first
evaluation fit the bound on missing premises. -/
theorem register_consumer_atomic_iff (host : Host) (registration : ConsumerRegistrationV1)
    (atMs : Nat) (cycle : Cycle) :
    (∀ stop next, registerConsumer host registration atMs cycle = .error stop next →
      SameTables (cycle.afterRegression host atMs) next) ↔
      (Admitted host registration atMs cycle → Certifiable registration) := by
  constructor
  · intro hatomic hadmitted
    by_contra huncertifiable
    obtain ⟨stop, next, hrun, hmem⟩ := (registerConsumer_admitted hadmitted).2 huncertifiable
    have hregression : cycle.afterRegression host atMs = cycle :=
      if_neg fun h => absurd h.2 (not_lt.mpr hadmitted.later)
    have hsame := (hatomic stop next hrun).historicalActivationIds
    rw [hregression] at hsame
    rw [hsame] at hmem
    exact hadmitted.fresh hmem
  · intro hcertifiable stop next hrun
    by_cases hadmitted : Admitted host registration atMs cycle
    · obtain ⟨output, last, hok⟩ :=
        (registerConsumer_admitted hadmitted).1 (hcertifiable hadmitted)
      rw [hok] at hrun
      cases hrun
    · obtain ⟨other, last, herror, hsame⟩ := registerConsumer_of_not_admitted hadmitted
      rw [herror] at hrun
      obtain ⟨rfl, rfl⟩ : other = stop ∧ last = next := by simpa using hrun
      exact hsame

open Reference in
/-- In a new runtime a registration with a scope of 161 bytes fails half done. -/
theorem registration_half_done :
    ∃ cycle, Starts host cycle ∧ cycle.historicalActivationIds = ∅ ∧ cycle.subjects = ∅ ∧
      cycle.sparseHistory = [] ∧ leavesTraces wideRegistration cycle = true := by
  have hstarted : ((started config).filter (leavesTraces wideRegistration)).isSome = true := by
    decide +kernel
  obtain ⟨cycle, hcycle⟩ := Option.isSome_iff_exists.mp hstarted
  obtain ⟨hnew, htraces⟩ := Option.filter_eq_some_iff.mp hcycle
  refine ⟨cycle, starts_of_started hnew, ?_, ?_, ?_, htraces⟩
  all_goals
    obtain ⟨runtime, hruntime, rfl⟩ := Option.map_eq_some_iff.mp hnew
    cases hruntime
    rfl

end ConstellationMonitor.Runtime

/-
  The explanation attached to a judgment (`explanation_for` of
  `pulse-evaluator/src/evaluator.rs`), with its exact reason codes and texts.
-/
import ConstellationMonitor.Evaluation.Derive

namespace ConstellationMonitor.Evaluation

open Foundation ConstellationMonitor.Types

/-- `JUDGMENT_NONCLAIMS`. -/
def judgmentNonclaims : List Text :=
  [ "Pulse receipt does not establish subject health.",
    "The runtime does not establish that observations are truthful.",
    "The runtime does not establish complete distributed-world coverage.",
    "Observer identity does not establish observer independence.",
    "A present-state judgment is consumer-, policy-, coverage-, and time-indexed.",
    "Diagnostic completion does not establish indefinite reliance.",
    noMutationNonclaim ]

/-- A reason without evidence references. -/
def plainReason (code detail : Text) : JudgmentReasonV1 := ⟨code, detail, []⟩

/-- The freshness reason. -/
def freshnessReasons : FreshnessDimensionV1 → List JudgmentReasonV1
  | .expired =>
    [plainReason "freshness_expired"
      "all applicable pulse evidence has reached receiver-owned expiry"]
  | .mixed =>
    [plainReason "freshness_mixed"
      "the evidence window contains both current and expired contributions"]
  | .noEvidence => [plainReason "no_evidence" "no applicable pulse evidence has been admitted"]
  | .current => []

/-- The provenance reason. -/
def provenanceReasons : ProvenanceDimensionV1 → List JudgmentReasonV1
  | .failed =>
    [plainReason "provenance_failed"
      "at least one current receiver authentication result failed"]
  | .degraded =>
    [plainReason "provenance_unverified"
      "current evidence includes an unauthenticated or unchecked observation"]
  | _ => []

/-- The sequence reason. -/
def continuityReasons : SequenceContinuityDimensionV1 → List JudgmentReasonV1
  | .gapped =>
    [plainReason "sequence_gap"
      "a current observer lineage contains a receiver-observed sequence gap"]
  | .restarted =>
    [plainReason "observer_restarted"
      "a current observer began a new incarnation and did not inherit continuity"]
  | _ => []

/-- The monitor reason. -/
def monitorReasons : MonitorCapabilityV1 → List JudgmentReasonV1
  | .degraded detail => [plainReason "monitor_degraded" detail]
  | .blind detail => [plainReason "monitor_blind" detail]
  | .operational => []

/-- The reasons `explanation_for` collects before it falls back to satisfaction. -/
def collectedReasons (derived : DerivedState) (monitor : MonitorCapabilityV1)
    (receiptCount : Nat) (barrier : Option ReevaluationBarrierV1) : List JudgmentReasonV1 :=
  (barrier.toList.map fun barrier => plainReason barrier.code barrier.detail) ++
  (if derived.activeContradictions.isEmpty then []
    else
      [⟨"contradiction_retained",
        Text.decimal derived.activeContradictions.length ++
          " independently grounded contradiction record(s) remain unresolved",
        derived.activeContradictions⟩]) ++
  (if derived.violationEvidenceRefs.isEmpty then []
    else
      [⟨"subject_bound_violated",
        "current admitted evidence contains an outside-declared-bound observation",
        derived.violationEvidenceRefs⟩]) ++
  freshnessReasons derived.dimensions.freshness ++
  (if derived.coverage.missing.isEmpty then []
    else
      [plainReason "coverage_incomplete"
        ("required coverage missing: " ++ Text.join "," derived.coverage.missing)]) ++
  (if derived.dimensions.observerAvailability = .available then []
    else
      [plainReason "observer_availability_insufficient"
        (Text.decimal derived.coverage.activeObservers ++
          " independent configured failure domain(s) are active; " ++
          Text.decimal derived.coverage.requiredObservers ++ " required")]) ++
  provenanceReasons derived.dimensions.provenance ++
  continuityReasons derived.dimensions.sequenceContinuity ++
  monitorReasons monitor ++
  (if receiptCount = 0 then []
    else
      [plainReason "diagnostic_receipt_correlated"
        (Text.decimal receiptCount ++
          " bounded diagnostic receipt(s) were correlated; they do not refresh pulse evidence")])

/-- The summary of a judgment without a barrier and without plain missing coverage. -/
def categorySummary : JudgmentCategoryV1 → Text
  | .current =>
    "CURRENT: named reliance conditions are satisfied for this consumer at this evaluation time."
  | .degraded =>
    "DEGRADED: current evidence exists, but a named observation-quality condition is degraded."
  | .suspect => "SUSPECT: current admitted evidence contains a declared bound violation."
  | .unknown =>
    "UNKNOWN: available evidence does not support this consumer's present reliance conditions."
  | .contradicted => "CONTRADICTED: incompatible grounded evidence remains unresolved."

/-- The claim a category makes. -/
def categoryClaim : JudgmentCategoryV1 → Text
  | .current =>
    "The named consumer reliance conditions are satisfied for this exact evidence window and evaluation time."
  | .degraded =>
    "Current observation evidence exists and at least one named quality condition is degraded."
  | .suspect =>
    "At least one current admitted observation is outside a declared profile bound."
  | .unknown =>
    "The available evidence is insufficient for this consumer's present reliance judgment."
  | .contradicted =>
    "Incompatible admitted observation statements remain visible and unresolved."

/-- `explanation_for`. -/
def explanationFor (derived : DerivedState) (monitor : MonitorCapabilityV1)
    (receiptCount : Nat) (barrier : Option ReevaluationBarrierV1) : JudgmentExplanationV1 :=
  let collected := collectedReasons derived monitor receiptCount barrier
  { summary :=
      if barrier.isSome then
        "UNKNOWN: an explicit runtime transition requires reevaluation; prior standing was not inherited."
      else if derived.category = .unknown ∧ derived.coverage.missing ≠ [] ∧
          derived.violationEvidenceRefs = [] ∧ derived.activeContradictions = [] then
        incompleteCoverageExplanation
      else categorySummary derived.category
    reasons :=
      if collected.isEmpty then
        [plainReason "named_reliance_conditions_satisfied"
          "all conditions named by this consumer policy are satisfied at evaluation time"]
      else collected
    claims := [categoryClaim derived.category]
    nonclaims := judgmentNonclaims }

/-- `judgment_semantically_changed`. -/
def judgmentSemanticallyChanged (prior current : PresentStateJudgmentV1) : Bool :=
  decide (prior.subjectScope ≠ current.subjectScope) ||
    decide (prior.consumer ≠ current.consumer) ||
    decide (prior.policyGeneration ≠ current.policyGeneration) ||
    decide (prior.category ≠ current.category) ||
    decide (prior.dimensions ≠ current.dimensions) ||
    decide (prior.coverage ≠ current.coverage) ||
    decide (prior.explanation.reasons.map JudgmentReasonV1.code ≠
      current.explanation.reasons.map JudgmentReasonV1.code)

/-- `select_trigger`. -/
def selectTrigger (judgment : PresentStateJudgmentV1) : EscalationTriggerClassV1 :=
  if judgment.category = .contradicted then .contradictionRetained
  else if judgment.category = .suspect then .subjectBoundViolated
  else if judgment.dimensions.transport = .blind then .transportBlind
  else if judgment.dimensions.provenance = .failed then .provenanceFailed
  else if judgment.coverage.missing ≠ [] then .coverageCollapse
  else if judgment.dimensions.sequenceContinuity = .gapped ∨
      judgment.dimensions.sequenceContinuity = .restarted then .sequenceDiscontinuity
  else if judgment.dimensions.freshness = .expired ∨
      judgment.dimensions.freshness = .noEvidence then .freshnessLost
  else .observerDisagreement

end ConstellationMonitor.Evaluation

/-
  What an evaluation derives from the state: coverage, dimensions, category, support
  deadline, and the explanation that goes with them
  (`pulse-evaluator/src/evaluator.rs`).
-/
import ConstellationMonitor.Evaluation.State

namespace ConstellationMonitor.Evaluation

open Foundation ConstellationMonitor.Types
open Std (ExtTreeMap)

/-- `DerivedState`. -/
structure DerivedState where
  category : JudgmentCategoryV1
  dimensions : ConfidenceDimensionsV1
  coverage : CoverageSummaryV1
  activeContradictions : List Text
  violationEvidenceRefs : List Text
  supportDeadlineMs : Option Nat

/-- The largest 32-bit count, which `u32::try_from` saturates to here. -/
def u32Max : Nat := 2 ^ 32 - 1

/-- A count as a 32-bit number. -/
def countU32 (count : Nat) : Nat := min count u32Max

namespace Evaluator

/-- `Evaluator::coverage_summary`. -/
def coverageSummary (evaluator : Evaluator) (fresh expired : List ObserverEvidence) :
    CoverageSummaryV1 :=
  let required := evaluator.policy.minimumObservers
  let domains := evaluator.policy.observerFailureDomains
  let activeCount := fun tag => countU32 (domainCountForTag fresh tag domains)
  let expiredCount := fun tag => countU32 (domainCountForTag expired tag domains)
  let tags := evaluator.policy.requiredCoverage
  { required := tags
    active := tags.filter fun tag => decide (activeCount tag ≥ required)
    missing := tags.filter fun tag => !decide (activeCount tag ≥ required)
    expired := tags.filter fun tag => decide (expiredCount tag > 0)
    activeObservers := countU32 (uniqueDomains fresh domains).size
    requiredObservers := required
    perTag := tags.map fun tag => ⟨tag, activeCount tag, expiredCount tag, required⟩ }

/-- The latest expiry of each failure domain that covers a tag. -/
def expiryByDomain (evaluator : Evaluator) (fresh : List ObserverEvidence) (tag : Text) :
    ExtTreeMap Text Nat :=
  (coveringTag fresh tag).foldl
    (fun byDomain evidence =>
      let domain := failureDomain evidence.received.frame.observer
        evaluator.policy.observerFailureDomains
      byDomain.insert domain
        (match byDomain[domain]? with
        | some expiry => max expiry evidence.expiresAtMs
        | none => evidence.expiresAtMs))
    ∅

/-- The time at which a tag stops being covered by enough domains: the expiry of the
last domain the requirement needs, counted from the longest lived. -/
def tagDeadline (evaluator : Evaluator) (fresh : List ObserverEvidence) (tag : Text) :
    Option Nat :=
  let expiries := (evaluator.expiryByDomain fresh tag).values.insertionSort (· ≥ ·)
  expiries[evaluator.policy.minimumObservers - 1]?

/-- `Evaluator::support_deadline`. -/
def supportDeadline (evaluator : Evaluator) (fresh : List ObserverEvidence) : Option Nat :=
  let overall := evaluator.policy.requiredCoverage.foldlM
    (fun overall tag => (evaluator.tagDeadline fresh tag).map (min overall)) u64Max
  overall.filter fun deadline => decide (deadline ≠ u64Max)

/-- The freshness dimension of `derive`. -/
def freshnessDimension (relevant fresh expired : List ObserverEvidence) : FreshnessDimensionV1 :=
  if relevant.isEmpty then .noEvidence
  else if fresh.isEmpty then .expired
  else if expired.isEmpty then .current
  else .mixed

/-- The sequence dimension of `derive`: the worst continuity among fresh evidence. -/
def continuityDimension (fresh : List ObserverEvidence) : SequenceContinuityDimensionV1 :=
  let seen := fun continuity : SequenceContinuityDimensionV1 =>
    fresh.any fun evidence => decide (evidence.continuity = continuity)
  if fresh.isEmpty then .unknown
  else if seen .gapped then .gapped
  else if seen .restarted then .restarted
  else if seen .firstSeen then .firstSeen
  else .continuous

/-- The transport dimension of a monitor capability. -/
def transportDimension : MonitorCapabilityV1 → TransportDimensionV1
  | .operational => .normal
  | .degraded _ => .degraded
  | .blind _ => .blind

/-- `reliance_unknown` of `derive`. -/
def relianceUnknown (policy : ReliancePolicyV1) (coverage : CoverageSummaryV1)
    (dimensions : ConfidenceDimensionsV1) : Bool :=
  !coverage.missing.isEmpty ||
    decide (dimensions.observerAvailability ≠ .available) ||
    decide (dimensions.freshness = .expired) || decide (dimensions.freshness = .noEvidence) ||
    (policy.requireVerifiedAuthentication && decide (dimensions.provenance ≠ .verified)) ||
    decide (dimensions.transport = .blind)

/-- The category precedence of `derive`: contradicted, suspect, unknown, degraded,
current. -/
def categoryOf (policy : ReliancePolicyV1) (coverage : CoverageSummaryV1)
    (dimensions : ConfidenceDimensionsV1) (contradicted violated : Bool) :
    JudgmentCategoryV1 :=
  if contradicted then .contradicted
  else if violated then .suspect
  else if relianceUnknown policy coverage dimensions then .unknown
  else if decide (dimensions.sequenceContinuity = .gapped) ||
      decide (dimensions.sequenceContinuity = .restarted) ||
      decide (dimensions.sequenceContinuity = .unknown) ||
      decide (dimensions.transport = .degraded) then .degraded
  else .current

/-- Whether a pulse reports a signal outside its declared bound. -/
def reportsViolation (evidence : ObserverEvidence) : Bool :=
  evidence.received.frame.signals.any fun signal =>
    decide (signal.assessment = .outsideDeclaredBound)

/-- `Evaluator::derive`. -/
def derive (evaluator : Evaluator) (now : Nat) : DerivedState :=
  let relevant := evaluator.relevantEvidence
  let fresh := relevant.filter fun evidence => decide (now < evidence.expiresAtMs)
  let expired := relevant.filter fun evidence => decide (now ≥ evidence.expiresAtMs)
  let eligibleFresh := evaluator.eligibleFresh now
  let activeDomains := (uniqueDomains eligibleFresh evaluator.policy.observerFailureDomains).size
  let coverage := evaluator.coverageSummary eligibleFresh expired
  let contradicted := !evaluator.activeContradictionIds.isEmpty
  let violations := (eligibleFresh.filter reportsViolation).map fun evidence =>
    evidenceRef evidence.received.frame
  let violated := !violations.isEmpty
  let dimensions : ConfidenceDimensionsV1 :=
    { freshness := freshnessDimension relevant fresh expired
      sequenceContinuity := continuityDimension fresh
      observerAvailability :=
        if activeDomains ≥ evaluator.policy.minimumObservers then .available
        else if activeDomains = 0 then .unavailable
        else .partially
      crossObserverCoherence :=
        if contradicted then .disagreement
        else if activeDomains ≥ 2 then .coherent
        else .insufficient
      coverage :=
        if coverage.missing.isEmpty then .complete
        else if coverage.active.isEmpty then .absent
        else .partially
      provenance := provenanceDimension fresh
      transport := transportDimension evaluator.monitorCapability
      subjectSignalConsistency :=
        if contradicted then .contradictory
        else if violated then .violation
        else if eligibleFresh.isEmpty then .unknown
        else .consistent }
  let category := categoryOf evaluator.policy coverage dimensions contradicted violated
  { category := category
    dimensions := dimensions
    coverage := coverage
    activeContradictions := evaluator.activeContradictionIds.map Identity.text
    violationEvidenceRefs := violations
    supportDeadlineMs :=
      if category = .current then evaluator.supportDeadline eligibleFresh else none }

end Evaluator

end ConstellationMonitor.Evaluation

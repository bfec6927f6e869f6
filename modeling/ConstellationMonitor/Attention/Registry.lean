/-
  Attention/Registry.lean --- the closed rule registry of the attention evaluator.

  Rules are compiled in; a configuration may enable or disable a rule, change its one
  threshold and choose its class, nothing else.  The texts of a rule that only appear in
  rendered intents (severity, runbook, operator action) are not part of the model.
-/
import ConstellationMonitor.Foundation.Ordered

namespace ConstellationMonitor.Attention

open Foundation

/-- How long a cleared condition must stay clear before it is resolved. -/
def resolveConfirmSeconds : Int := 120

/-- Minimum spacing between delivery retries for one condition and route. -/
def resendIntervalSeconds : Int := 900

/-- Spacing of resubmissions of a retained page record that was not accepted. -/
def pageResendSeconds : Int := 120

/-- The longest run of unknown observations an interval absorbs. -/
def unknownGapSeconds : Int := 90

inductive Class where
  | page
  | notice
  deriving DecidableEq

inductive ResponseClass where
  | informational
  | attention
  | page
  deriving DecidableEq

/-- What happens between "the condition persisted past its bound" and "a human is paged". -/
inductive ResponsePolicy where
  | observeOnly
  | autoRemediateThenPage
  deriving DecidableEq

/-- The kind of configured input a rule reads. -/
inductive InputKind where
  | hostPosture
  | nqStatus
  /-- either a host-posture input or the NQ status input -/
  | hostPostureOrNqStatus
  | nightshift
  | savedCheck
  /-- the evaluator's own view of its inputs -/
  | evaluator
  | notDeployed
  deriving DecidableEq

/-- What the rule's single tunable threshold bounds. -/
inductive ThresholdMeaning where
  | persistence
  | age
  deriving DecidableEq

structure Rule where
  id : Text
  version : Nat
  defaultClass : Class
  responseClass : ResponseClass
  responsePolicy : ResponsePolicy
  /-- `none` means the component of the input -/
  component : Option Text
  input : InputKind
  thresholdMeaning : ThresholdMeaning
  defaultThresholdSeconds : Int
  /-- persistence after the age threshold for `age` rules; zero otherwise -/
  fixedPersistenceSeconds : Int
  /-- present when the rule cannot run on this estate -/
  disabled : Option Text

/-- `INPUT_UNAVAILABLE`. -/
def inputUnavailable : Text := "evaluator-input-unavailable"

/-- `RULES`. -/
def rules : List Rule :=
  [ { id := "host-posture-unknown", version := 1, defaultClass := .page,
      responseClass := .page, responsePolicy := .observeOnly,
      component := some "host_posture", input := .hostPosture,
      thresholdMeaning := .persistence, defaultThresholdSeconds := 600,
      fixedPersistenceSeconds := 0, disabled := none },
    { id := "host-disk", version := 3, defaultClass := .notice,
      responseClass := .attention, responsePolicy := .observeOnly,
      component := some "host_posture", input := .hostPostureOrNqStatus,
      thresholdMeaning := .persistence, defaultThresholdSeconds := 900,
      fixedPersistenceSeconds := 0, disabled := none },
    { id := "nq-no-fresh-acquisition", version := 1, defaultClass := .page,
      responseClass := .page, responsePolicy := .observeOnly,
      component := some "nq", input := .hostPosture,
      thresholdMeaning := .age, defaultThresholdSeconds := 600,
      fixedPersistenceSeconds := 300, disabled := none },
    { id := "service-down", version := 1, defaultClass := .page,
      responseClass := .page, responsePolicy := .observeOnly,
      component := some "service", input := .nqStatus,
      thresholdMeaning := .persistence, defaultThresholdSeconds := 180,
      fixedPersistenceSeconds := 0, disabled := none },
    { id := "memory-pressure", version := 1, defaultClass := .notice,
      responseClass := .attention, responsePolicy := .observeOnly,
      component := some "host_posture", input := .nqStatus,
      thresholdMeaning := .persistence, defaultThresholdSeconds := 600,
      fixedPersistenceSeconds := 0, disabled := none },
    { id := "nightshift-recurrence-missing", version := 1, defaultClass := .page,
      responseClass := .page, responsePolicy := .observeOnly,
      component := some "nightshift", input := .nightshift,
      thresholdMeaning := .age, defaultThresholdSeconds := 1800,
      fixedPersistenceSeconds := 300, disabled := none },
    { id := "sqlite-health", version := 1, defaultClass := .notice,
      responseClass := .attention, responsePolicy := .observeOnly,
      component := some "nq", input := .savedCheck,
      thresholdMeaning := .persistence, defaultThresholdSeconds := 600,
      fixedPersistenceSeconds := 0, disabled := none },
    { id := inputUnavailable, version := 1, defaultClass := .notice,
      responseClass := .attention, responsePolicy := .observeOnly,
      component := none, input := .evaluator,
      thresholdMeaning := .persistence, defaultThresholdSeconds := 300,
      fixedPersistenceSeconds := 0, disabled := none },
    { id := "docket-unsettled", version := 1, defaultClass := .page,
      responseClass := .page, responsePolicy := .observeOnly,
      component := some "docket", input := .notDeployed,
      thresholdMeaning := .age, defaultThresholdSeconds := 3600,
      fixedPersistenceSeconds := 300, disabled := some "input not deployed" },
    { id := "ag-executor-unavailable", version := 1, defaultClass := .page,
      responseClass := .page, responsePolicy := .observeOnly,
      component := some "ag", input := .notDeployed,
      thresholdMeaning := .persistence, defaultThresholdSeconds := 300,
      fixedPersistenceSeconds := 0, disabled := some "input not deployed" } ]

/-- `registry::rule`. -/
def rule (id : Text) : Option Rule := rules.find? fun rule => rule.id = id

/-- `REMEDIATION_RULES`. -/
def remediationRules : List Text := ["service-down"]

end ConstellationMonitor.Attention
